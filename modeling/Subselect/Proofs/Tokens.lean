import Mathlib.Data.List.Chain
import Subselect.Proofs.Octets

/-! Texts as tokens: words, quoted literals and single other characters. Two texts that are put
together keep their tokens exactly if no word and no literal runs on over the seam. -/
namespace Subselect.Text

inductive Token where
  | word (letters : Text)
  | literal (quoted : Text)
  | other (c : Char)
  deriving DecidableEq, Repr

def Token.text : Token → Text
  | word letters => letters
  | literal quoted => quoted
  | other c => [c]

/-- The token that begins with `c`, and what is left of the text `t` behind `c`. -/
def token (c : Char) (t : Text) : Token × Text :=
  if isWordChar c then (.word (c :: t.takeWhile isWordChar), t.dropWhile isWordChar)
  else if isQuote c then (.literal (c :: (split c t).1), (split c t).2)
  else (.other c, t)

theorem token_word (h : isWordChar c = true) (t : Text) :
    token c t = (.word (c :: t.takeWhile isWordChar), t.dropWhile isWordChar) := if_pos h

theorem not_isWordChar_of_isQuote (h : isQuote c = true) : isWordChar c = false := by
  rcases quote_cases h with rfl | rfl | rfl <;> rfl

theorem not_isQuote_of_isWordChar (h : isWordChar c = true) : isQuote c = false :=
  Bool.eq_false_iff.mpr fun quote => by simp [not_isWordChar_of_isQuote quote] at h

theorem token_literal (h : isQuote c = true) (t : Text) :
    token c t = (.literal (c :: (split c t).1), (split c t).2) := by
  rw [token, not_isWordChar_of_isQuote h, h]
  rfl

theorem token_other (word : isWordChar c = false) (quote : isQuote c = false) (t : Text) :
    token c t = (.other c, t) := by
  rw [token, word, quote]
  rfl

/-- A token begins with the first character, and what is left stands behind it. -/
theorem token_text (c : Char) (t : Text) :
    ∃ more, (token c t).1.text = c :: more ∧ more ++ (token c t).2 = t := by
  unfold token
  split
  · exact ⟨t.takeWhile isWordChar, rfl, List.takeWhile_append_dropWhile⟩
  · split
    · exact ⟨(split c t).1, rfl, split_append c t⟩
    · exact ⟨[], rfl, rfl⟩

theorem token_letters (word : isWordChar c = true) (t : Text) :
    ∀ d ∈ (token c t).1.text, isWordChar d = true := by
  rw [token_word word]
  exact List.forall_mem_cons.mpr ⟨word, fun _ member => List.mem_takeWhile_imp member⟩

theorem token_unquoted (quote : isQuote c = false) (t : Text) :
    ∀ d ∈ (token c t).1.text, isQuote d = false := by
  cases word : isWordChar c with
  | true => exact fun d member => not_isQuote_of_isWordChar (token_letters word t d member)
  | false =>
    rw [token_other word quote]
    exact List.forall_mem_singleton.mpr quote

theorem token_length_le (c : Char) (t : Text) : (token c t).2.length ≤ t.length := by
  obtain ⟨more, _, whole⟩ := token_text c t
  have lengths := congrArg List.length whole
  rw [List.length_append] at lengths
  omega

def tokens (t : Text) : List Token := go t.length t
where
  /-- Each token is passed over at once, so `fuel` bounds the characters left. -/
  go : Nat → Text → List Token
    | 0, _ => []
    | _ + 1, [] => []
    | fuel + 1, c :: t => (token c t).1 :: go fuel (token c t).2

theorem tokens.go_eq (first : t.length ≤ fuel) (second : t.length ≤ more) :
    go fuel t = go more t := by
  induction fuel generalizing t more with
  | zero =>
    obtain rfl := List.length_eq_zero_iff.mp (Nat.le_zero.mp first)
    cases more <;> rfl
  | succ fuel ih =>
    cases t with
    | nil => cases more <;> rfl
    | cons c t =>
      have shorter := token_length_le c t
      rw [List.length_cons] at first second
      obtain ⟨more, rfl⟩ : ∃ m, more = m + 1 := ⟨more - 1, by omega⟩
      have rest : go fuel (token c t).2 = go more (token c t).2 := ih (by omega) (by omega)
      rw [go, go, rest]

@[simp] theorem tokens_nil : tokens [] = [] := rfl

theorem tokens_cons (c : Char) (t : Text) :
    tokens (c :: t) = (token c t).1 :: tokens (token c t).2 := by
  rw [tokens, List.length_cons, tokens.go,
    tokens.go_eq (token_length_le c t) (Nat.le_refl _), tokens]

/-- Texts are read token by token. -/
@[elab_as_elim]
theorem tokens_induction {motive : Text → Prop} (nil : motive [])
    (cons : ∀ c t, motive (token c t).2 → motive (c :: t)) (t : Text) : motive t := by
  induction n : t.length using Nat.strongRecOn generalizing t with
  | ind n ih =>
    subst n
    cases t with
    | nil => exact nil
    | cons c t => exact cons c t (ih _ (Nat.lt_succ_of_le (token_length_le c t)) _ rfl)

/-- The tokens are the text, cut into pieces. -/
theorem flatMap_tokens (t : Text) : (tokens t).flatMap Token.text = t := by
  induction t using tokens_induction with
  | nil => rfl
  | cons c t ih =>
    obtain ⟨more, first, whole⟩ := token_text c t
    rw [tokens_cons, List.flatMap_cons, ih, first, List.cons_append, whole]

theorem exists_last_token (last : List.getLast? t = some c) :
    ∃ a, (tokens t).getLast? = some a ∧ a.text.getLast? = some c := by
  induction t using tokens_induction with
  | nil => cases last
  | cons d t ih =>
    obtain ⟨more, first, whole⟩ := token_text d t
    rw [tokens_cons]
    cases behind : (token d t).2 with
    | nil =>
      rw [behind, List.append_nil] at whole
      exact ⟨(token d t).1, rfl, by rw [first, whole, last]⟩
    | cons e rest =>
      have some : (token d t).2 ≠ [] := by simp [behind]
      rw [← whole, ← List.cons_append, List.getLast?_append_of_ne_nil _ some] at last
      obtain ⟨a, final, ends⟩ := ih last
      refine ⟨a, ?_, ends⟩
      rw [← behind, List.getLast?_cons, final]
      rfl

example : tokens "a.b 'x''y'".toList = [.word ['a'], .other '.', .word ['b'], .other ' ',
    .literal "'x''y'".toList] := by decide

/-- Where `s` is followed by `t`, the word or the literal that `s` ends with goes on. -/
def Fuses (s t : Text) : Prop :=
  ∃ c d, s.getLast? = some c ∧ t.head? = some d ∧
    (isWordChar c = true ∧ isWordChar d = true ∨ isQuote c = true ∧ c = d)

theorem fuses_append (some : t ≠ []) (s v : Text) : Fuses (s ++ t) v ↔ Fuses t v := by
  rw [Fuses, Fuses, List.getLast?_append_of_ne_nil s some]

/-- What closes a literal, or else takes all that is left of a text. -/
theorem run_split (h : isQuote quote = true) (t : Text) :
    (Mode.inside quote).run (split quote t).1 = .outside ∨ (split quote t).2 = [] := by
  fun_induction split quote t with
  | case1 => exact .inr rfl
  | case2 => exact .inr rfl
  | case3 c d t escape literal rest eq ih =>
    obtain ⟨rfl, escape⟩ := escape
    rw [eq] at ih
    rwa [Mode.run_cons, Mode.run_cons, Mode.step_backslash escape, Mode.step_escaped]
  | case4 t literal rest eq _ ih =>
    rw [eq] at ih
    rwa [Mode.run_cons, Mode.run_cons, Mode.step_closing h, Mode.step_opening h]
  | case5 => exact .inl (Mode.step_closing h)
  | case6 c d t plain other literal rest eq ih =>
    rw [eq] at ih
    rwa [Mode.run_cons, Mode.step_within plain other]

/-- A literal that is closed ends with its quote. -/
theorem split_last (h : isQuote quote = true)
    (closed : (Mode.inside quote).run (split quote t).1 = .outside) :
    (split quote t).1.getLast? = some quote := by
  fun_induction split quote t with
  | case1 => cases closed
  | case2 c =>
    simp only [Mode.run_cons, Mode.run_nil, Mode.step] at closed
    split at closed
    · cases closed
    · split at closed
      · next same => rw [same, List.getLast?_singleton]
      · cases closed
  | case3 c d t escape literal rest eq ih =>
    rw [eq] at ih
    obtain ⟨rfl, escapes⟩ := escape
    rw [Mode.run_cons, Mode.run_cons, Mode.step_backslash escapes, Mode.step_escaped] at closed
    simp [List.getLast?_cons, ih closed]
  | case4 t literal rest eq _ ih =>
    rw [eq] at ih
    rw [Mode.run_cons, Mode.run_cons, Mode.step_closing h, Mode.step_opening h] at closed
    simp [List.getLast?_cons, ih closed]
  | case5 => rfl
  | case6 c d t plain other literal rest eq ih =>
    rw [eq] at ih
    rw [Mode.run_cons, Mode.step_within plain other] at closed
    simp [List.getLast?_cons, ih closed]

/-- What follows a literal does not begin with its quote. -/
theorem split_next (more : (split quote t).2 = d :: rest) : quote ≠ d := by
  fun_induction split quote t with
  | case1 => cases more
  | case2 => cases more
  | case3 c e t _ literal behind eq ih =>
    rw [eq] at ih
    exact ih more
  | case4 t literal behind eq _ ih =>
    rw [eq] at ih
    exact ih more
  | case5 e t differ _ =>
    obtain ⟨rfl, _⟩ := List.cons.inj more
    exact Ne.symm differ
  | case6 c e t _ _ literal behind eq ih =>
    rw [eq] at ih
    exact ih more

/-- A literal that is closed ends there, unless the next text goes on with its quote. -/
theorem split_append_closed (h : isQuote quote = true)
    (closed : (Mode.inside quote).run (split quote t).1 = .outside)
    (apart : (split quote t).2 = [] → v.head? ≠ some quote) :
    split quote (t ++ v) = ((split quote t).1, (split quote t).2 ++ v) := by
  fun_induction split quote t with
  | case1 => cases closed
  | case2 c =>
    simp only [Mode.run_cons, Mode.run_nil, Mode.step] at closed
    split at closed
    · cases closed
    · split at closed
      · next same =>
        subst same
        exact split_closing h (apart rfl)
      · cases closed
  | case3 c d t escape literal rest eq ih =>
    rw [eq] at ih
    obtain ⟨rfl, escapes⟩ := escape
    rw [Mode.run_cons, Mode.run_cons, Mode.step_backslash escapes, Mode.step_escaped] at closed
    simp only [List.cons_append, split_pair escapes, ih closed apart]
  | case4 t literal rest eq _ ih =>
    rw [eq] at ih
    rw [Mode.run_cons, Mode.run_cons, Mode.step_closing h, Mode.step_opening h] at closed
    simp only [List.cons_append, split_doubled h, ih closed apart]
  | case5 d t differ _ => exact split_closing h fun same => differ (Option.some.inj same)
  | case6 c d t plain other literal rest eq ih =>
    rw [eq] at ih
    rw [Mode.run_cons, Mode.step_within plain other] at closed
    have further := ih closed apart
    rw [List.cons_append, split_within plain other, further]

/-- A closed text begins with a token that is closed, and leaves a closed text. -/
theorem terminated_token (closed : Terminated (c :: t)) :
    Terminated (token c t).1.text ∧ Terminated (token c t).2 := by
  obtain ⟨more, first, whole⟩ := token_text c t
  have leaves (here : Terminated (token c t).1.text) :
      Terminated (token c t).1.text ∧ Terminated (token c t).2 := by
    refine ⟨here, ?_⟩
    rw [terminated_iff] at here closed ⊢
    rwa [← whole, ← List.cons_append, ← first, Mode.run_append, here] at closed
  cases quote : isQuote c with
  | true =>
    rw [token_literal quote] at leaves ⊢
    rcases run_split quote t with literal | none
    · apply leaves
      rw [terminated_iff, Token.text, Mode.run_cons, Mode.step_opening quote, literal]
    · have all := split_append c t
      rw [none, List.append_nil] at all
      rw [none, all]
      exact ⟨closed, .nil⟩
  | false => exact leaves (.of_unquoted (token_unquoted quote t))

/-- A token that is closed stays one if the next text does not go on with it. -/
theorem token_append (closed : Terminated (token c t).1.text) (apart : ¬Fuses (c :: t) v) :
    token c (t ++ v) = ((token c t).1, (token c t).2 ++ v) := by
  cases word : isWordChar c with
  | true =>
    have stop : t.dropWhile isWordChar = [] → ∀ d, v.head? = some d → isWordChar d = false := by
      intro all d head
      obtain ⟨e, last⟩ :=
        Option.isSome_iff_exists.mp (List.getLast?_isSome.mpr (List.cons_ne_nil c t))
      have letters : ∀ d ∈ c :: t, isWordChar d = true :=
        List.forall_mem_cons.mpr ⟨word, List.dropWhile_eq_nil_iff.mp all⟩
      have letter := letters e (List.mem_of_getLast? last)
      exact Bool.eq_false_iff.mpr fun same => apart ⟨e, d, last, head, .inl ⟨letter, same⟩⟩
    obtain ⟨run, behind⟩ := span_append isWordChar t v stop
    rw [token_word word, token_word word, run, behind]
  | false =>
    cases quote : isQuote c with
    | true =>
      rw [token_literal quote, terminated_iff, Token.text, Mode.run_cons,
        Mode.step_opening quote] at closed
      have stop : (split c t).2 = [] → v.head? ≠ some c := by
        intro none head
        have whole := split_append c t
        rw [none, List.append_nil] at whole
        refine apart ⟨c, c, ?_, head, .inr ⟨quote, rfl⟩⟩
        rw [List.getLast?_cons, ← whole, split_last quote closed]
        rfl
      rw [token_literal quote, token_literal quote, split_append_closed quote closed stop]
    | false => rw [token_other word quote, token_other word quote]

theorem tokens_append (closed : Terminated s) (apart : ¬Fuses s t) :
    tokens (s ++ t) = tokens s ++ tokens t := by
  induction s using tokens_induction with
  | nil => rfl
  | cons c s ih =>
    obtain ⟨first, left⟩ := terminated_token closed
    have behind : ¬Fuses (token c s).2 t := by
      obtain ⟨more, _, whole⟩ := token_text c s
      intro fuses
      have some : (token c s).2 ≠ [] := by
        intro none
        obtain ⟨_, _, last, _⟩ := fuses
        simp [none] at last
      apply apart
      rw [← whole, ← List.cons_append, fuses_append some]
      exact fuses
    rw [List.cons_append, tokens_cons, tokens_cons, token_append first apart, ih left behind,
      List.cons_append]

/-- A token does not run on into what is left behind it. -/
theorem not_fuses_token (more : (token c t).2 = d :: rest) (head : s.head? = some d) :
    ¬Fuses (token c t).1.text s := by
  rintro ⟨e, d', last, head', kind⟩
  obtain rfl := Option.some.inj (head.symm.trans head')
  cases word : isWordChar c with
  | true =>
    have letter := token_letters word t e (List.mem_of_getLast? last)
    rw [token_word word] at more
    have stop : isWordChar d = false := head?_dropWhile isWordChar t d (congrArg List.head? more)
    rcases kind with ⟨_, goes⟩ | ⟨quote, _⟩
    · simp [stop] at goes
    · simp [not_isWordChar_of_isQuote quote] at letter
  | false =>
    cases quote : isQuote c with
    | true =>
      rw [token_literal quote] at more last
      have some : (split c t).2 ≠ [] := fun none => by
        rw [none] at more
        cases more
      have closed := (run_split quote t).resolve_right some
      have ends := split_last quote closed
      rw [Token.text, List.getLast?_cons, ends] at last
      obtain rfl := Option.some.inj last
      rcases kind with ⟨letter, _⟩ | ⟨_, same⟩
      · simp [word] at letter
      · exact split_next more same
    | false =>
      rw [token_other word quote] at last
      obtain rfl := Option.some.inj last
      simp [word, quote] at kind

/-- No token of a text runs on into the next one. -/
theorem isChain_tokens (t : Text) : (tokens t).IsChain fun a b => ¬Fuses a.text b.text := by
  induction t using tokens_induction with
  | nil => exact .nil
  | cons c t ih =>
    rw [tokens_cons]
    apply List.isChain_cons.mpr
    refine ⟨fun b next => ?_, ih⟩
    cases more : (token c t).2 with
    | nil => simp [more] at next
    | cons d rest =>
      rw [more, tokens_cons] at next
      obtain rfl := Option.some.inj next
      obtain ⟨_, first, _⟩ := token_text d rest
      exact not_fuses_token more (by rw [first, List.head?_cons])

/-- Behind a text whose literals are closed another one keeps its tokens exactly if nothing runs on
over the seam. -/
theorem tokens_append_iff (closed : Terminated s) (t : Text) :
    tokens (s ++ t) = tokens s ++ tokens t ↔ ¬Fuses s t := by
  refine ⟨fun same fuses => ?_, tokens_append closed⟩
  have chain := isChain_tokens (s ++ t)
  rw [same, List.isChain_append] at chain
  obtain ⟨c, d, last, head, kind⟩ := fuses
  obtain ⟨a, final, ends⟩ := exists_last_token last
  cases t with
  | nil => cases head
  | cons e t =>
    obtain rfl := Option.some.inj head
    obtain ⟨_, first, _⟩ := token_text e t
    apply chain.2.2 a final (token e t).1 (by rw [tokens_cons]; rfl)
    exact ⟨c, e, ends, by rw [first, List.head?_cons], kind⟩

/-- A closed text that the one in front does not run on into is cut out of the tokens exactly if it
does not run on itself. -/
theorem tokens_between_iff (first : Terminated s) (second : Terminated t) (some : t ≠ [])
    (apart : ¬Fuses s t) (rest : Text) :
    tokens (s ++ t ++ rest) = tokens s ++ tokens t ++ tokens rest ↔ ¬Fuses t rest := by
  rw [← tokens_append first apart, tokens_append_iff (first.append second), fuses_append some]

/-! The same over octets. Only octets that are characters of their own belong to words or are
quotes. -/

theorem isWordChar_beyond (h : 128 ≤ c.toNat) : isWordChar c = false := by
  rw [← Bool.not_eq_true]
  intro word
  simp only [isWordChar_eq, Bool.or_eq_true, Bool.and_eq_true, decide_eq_true_eq,
    beq_iff_eq] at word
  rcases word with ((word | word) | word) | rfl
  · omega
  · omega
  · omega
  · exact absurd h (by decide)

/-- The outer octets of a character are the character itself, or both beyond all that counts. -/
theorem octets_ends (c : Char) : ∃ first last, (octets [c]).head? = some first ∧
    (octets [c]).getLast? = some last ∧
    (first = c ∧ last = c ∨ 128 ≤ c.toNat ∧ 128 ≤ first.toNat ∧ 128 ≤ last.toNat) := by
  by_cases ascii : c.toNat < 128
  · rw [octets_ascii ascii]
    exact ⟨c, c, rfl, rfl, .inl ⟨rfl, rfl⟩⟩
  · have long := Nat.not_lt.mp ascii
    have all := octets_beyond long
    obtain ⟨first, more, eq⟩ := List.exists_cons_of_ne_nil (octets_ne_nil c)
    obtain ⟨last, final⟩ := Option.isSome_iff_exists.mp (List.getLast?_isSome.mpr (octets_ne_nil c))
    exact ⟨first, last, by rw [eq, List.head?_cons], final, .inr ⟨long,
      all first (eq ▸ List.mem_cons_self), all last (List.mem_of_getLast? final)⟩⟩

theorem terminated_octets (t : Text) : Terminated (octets t) ↔ Terminated t := by
  rw [terminated_iff, terminated_iff, Mode.proper_outside.run_octets]

theorem fuses_octets (s t : Text) : Fuses (octets s) (octets t) ↔ Fuses s t := by
  rcases List.eq_nil_or_concat s with rfl | ⟨s, c, rfl⟩
  · simp [Fuses]
  rw [List.concat_eq_append]
  cases t with
  | nil => simp [Fuses]
  | cons d t =>
    obtain ⟨_, last, _, final, left⟩ := octets_ends c
    obtain ⟨first, _, head, _, right⟩ := octets_ends d
    have ends : (octets (s ++ [c])).getLast? = some last := by
      rw [octets_append, List.getLast?_append, final]
      rfl
    have begins : (octets (d :: t)).head? = some first := by
      rw [octets_cons, List.head?_append, head]
      rfl
    simp only [Fuses, ends, begins, List.getLast?_concat, List.head?_cons, Option.some.injEq,
      exists_and_left, exists_eq_left']
    rcases left with ⟨_, rfl⟩ | ⟨long, _, longLast⟩
    · rcases right with ⟨rfl, _⟩ | ⟨long, longFirst, _⟩
      · rfl
      · have differ : ∀ e, 128 ≤ e.toNat → ¬(isQuote last = true ∧ last = e) := by
          rintro e long ⟨quote, rfl⟩
          simp [isQuote_beyond long] at quote
        simp [isWordChar_beyond long, isWordChar_beyond longFirst, differ d long,
          differ first longFirst]
    · simp [isWordChar_beyond long, isQuote_beyond long, isWordChar_beyond longLast,
        isQuote_beyond longLast]

end Subselect.Text
