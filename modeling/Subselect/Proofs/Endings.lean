import Mathlib.Data.List.Sort
import Subselect.Proofs.Bare
import Subselect.Proofs.Tokens

/-! Where literals end. The octets of a literal are left where its characters are left. A literal of
rows ends with its last octet, or goes on as the literal that begins behind it; in both cases what
follows is read as without it, so that a query keeps its pairs of parentheses. -/
namespace Subselect

open Text Outline

namespace Text

theorem split_beyond (h : isQuote quote = true) (all : ∀ o ∈ os, 128 ≤ o.toNat) (t : Text) :
    split quote (os ++ t) = (os ++ (split quote t).1, (split quote t).2) := by
  induction os with
  | nil => rfl
  | cons o os ih =>
    obtain ⟨long, all⟩ := List.forall_mem_cons.mp all
    have plain : ¬(o = '\\' ∧ escapes quote = true) := by
      rintro ⟨rfl, _⟩
      exact absurd long (by decide)
    have other : o ≠ quote := by
      rintro rfl
      simp [isQuote_beyond long] at h
    simp only [List.cons_append, split_within plain other, ih all]

theorem ascii_of_isQuote (h : isQuote c = true) : c.toNat < 128 := by
  rcases quote_cases h with rfl | rfl | rfl <;> decide

theorem octets_cons_ascii (h : c.toNat < 128) (t : Text) : octets (c :: t) = c :: octets t := by
  rw [octets_cons, octets_ascii h, List.singleton_append]

/-- A quote among the octets is one of the text. -/
theorem head?_octets (h : isQuote quote = true) (t : Text) :
    (octets t).head? = some quote ↔ t.head? = some quote := by
  cases t with
  | nil => rfl
  | cons c t =>
    obtain ⟨first, _, head, _, ends⟩ := octets_ends c
    rw [octets_cons, List.head?_append, head, Option.some_or, List.head?_cons]
    rcases ends with ⟨rfl, _⟩ | ⟨long, longFirst, _⟩
    · rfl
    · have ascii := ascii_of_isQuote h
      constructor
      · rintro ⟨⟩
        omega
      · rintro ⟨⟩
        omega

/-- Behind a character that a literal holds the octets of it are held too. -/
theorem split_octets_within (h : isQuote quote = true) (plain : ¬(c = '\\' ∧ escapes quote = true))
    (other : c ≠ quote) (t : Text) : split quote (octets [c] ++ t) =
      (octets [c] ++ (split quote t).1, (split quote t).2) := by
  by_cases ascii : c.toNat < 128
  · rw [octets_ascii ascii]
    exact split_within plain other t
  · exact split_beyond h (octets_beyond (Nat.not_lt.mp ascii)) t

/-- A backslash takes the first octet of the next character with it, and the others stay inside. -/
theorem split_octets_pair (h : isQuote quote = true) (escape : escapes quote = true) (c : Char)
    (t : Text) : split quote ('\\' :: (octets [c] ++ t)) =
      ('\\' :: (octets [c] ++ (split quote t).1), (split quote t).2) := by
  by_cases ascii : c.toNat < 128
  · rw [octets_ascii ascii]
    exact split_pair escape c t
  · obtain ⟨o, os, eq⟩ := List.exists_cons_of_ne_nil (octets_ne_nil c)
    have all := octets_beyond (Nat.not_lt.mp ascii)
    rw [eq] at all ⊢
    have rest := split_beyond h (List.forall_mem_cons.mp all).2 t
    simp only [List.cons_append, split_pair escape, rest]

/-- A literal is left at the same place by the octets of a text as by its characters. -/
theorem split_octets (h : isQuote quote = true) (t : Text) :
    split quote (octets t) = (octets (split quote t).1, octets (split quote t).2) := by
  -- the octets of a character beyond ASCII are neither quotes nor backslashes, so each step of the
  -- scanner over characters is as many steps over octets
  fun_induction split quote t with
  | case1 => rfl
  | case2 c =>
    by_cases ascii : c.toNat < 128
    · rw [octets_ascii ascii]
      rfl
    · simpa [split] using split_beyond h (octets_beyond (Nat.not_lt.mp ascii)) []
  | case3 c d t escape literal rest eq ih =>
    obtain ⟨rfl, escape⟩ := escape
    rw [eq] at ih
    have slash : ('\\' : Char).toNat < 128 := by decide
    rw [octets_cons_ascii slash, octets_cons, split_octets_pair h escape, ih]
    simp only [octets_cons_ascii slash, octets_cons d literal]
  | case4 t literal rest eq _ ih =>
    rw [eq] at ih
    have ascii := ascii_of_isQuote h
    simp only [octets_cons_ascii ascii, split_doubled h, ih]
  | case5 d t differ _ =>
    have apart : (octets (d :: t)).head? ≠ some quote := by
      rw [Ne, head?_octets h]
      exact fun same => differ (Option.some.inj same)
    have ascii := ascii_of_isQuote h
    rw [octets_cons_ascii ascii, split_closing h apart, octets_ascii ascii]
  | case6 c d t plain other literal rest eq ih =>
    rw [eq] at ih
    rw [octets_cons, split_octets_within h plain other, ih]
    simp only [octets_cons c literal]

/-- The index of the octet that ends the literal opened at `start`: of its closing quote, or of the
last octet if it is not closed. -/
def literalEnd (octets : Text) (start : Nat) : Nat :=
  match octets.drop start with
  | [] => start
  | quote :: t => start + (split quote t).1.length

/-- Counted in octets, a literal ends where its characters end. -/
theorem literalEnd_octets (h : isQuote quote = true) (front t : Text) :
    literalEnd (octets (front ++ quote :: t)) (size front) =
      size front + size (split quote t).1 := by
  have behind : (octets (front ++ quote :: t)).drop (size front) = quote :: octets t := by
    rw [octets_append, octets_cons_ascii (ascii_of_isQuote h), ← length_octets, List.drop_left]
  simp only [literalEnd, behind, split_octets h, length_octets]

/-- An escaped body is passed over: the literal is left where it would be left without it. -/
theorem split_append_escaped (escaped : Literal.Escaped body) (t : Text) :
    split '\'' (body ++ t) = (body ++ (split '\'' t).1, (split '\'' t).2) := by
  induction escaped with
  | nil => rfl
  | plain quote backslash _ ih =>
    simp only [List.cons_append, split_within (fun special => backslash special.1) quote, ih]
  | pair _ _ ih => simp only [List.cons_append, @split_pair '\'' rfl, ih]

theorem marks_append (closed : Terminated s) (t : Text) : marks (s ++ t) = marks s ++ marks t := by
  simp only [marks_eq, glyphs_append closed, List.flatMap_append]

@[simp] theorem length_marks (t : Text) : (marks t).length = size t := by
  rw [marks_eq, length_flatMap_spread, glyphs_char]

theorem brackets_marks (t : Text) : brackets (marks t) = brackets (glyphs t) := by
  rw [marks_eq, brackets_spread]

theorem Inert.brackets_eq_nil (inert : Inert t) : brackets (glyphs t) = [] := by
  refine List.filterMap_eq_nil_iff.mpr fun g member => Glyph.bracket?_eq_none ?_ ?_
  · rintro rfl
    exact inert.opening member
  · rintro rfl
    exact inert.closing member

end Text

/-! Pairs of parentheses in a text that something without parentheses is put into. -/

/-- Where the octet at `p` stands after `length` octets have been put in at `offset`. -/
def move (offset length p : Nat) : Nat := if p < offset then p else p + length

theorem move_front (front : p < offset) (length : Nat) : move offset length p = p := if_pos front

theorem move_behind (offset length k : Nat) :
    move offset length (offset + k) = offset + (length + k) := by
  rw [move, if_neg (by omega)]
  omega

theorem move_lt_iff (offset length p q : Nat) :
    move offset length p < move offset length q ↔ p < q := by
  unfold move
  split <;> split <;> omega

/-- An offset lies in front of a place, or so many octets behind it. -/
theorem front_or_behind (offset p : Nat) : p < offset ∨ ∃ k, p = offset + k := by
  rcases Nat.lt_or_ge p offset with front | behind
  · exact .inl front
  · exact .inr ⟨p - offset, by omega⟩

section Insertion

variable {a x b : List Glyph}

theorem getElem?_move (p : Nat) :
    (a ++ (x ++ b))[move a.length x.length p]? = (a ++ b)[p]? := by
  rcases front_or_behind a.length p with front | ⟨k, rfl⟩
  · rw [move_front front, List.getElem?_append_left front, List.getElem?_append_left front]
  · simp [move_behind, List.getElem?_append]

/-- What is not among the glyphs put in has been there before. -/
theorem exists_move {g : Glyph} (found : (a ++ (x ++ b))[p]? = some g) (absent : g ∉ x) :
    ∃ p', p = move a.length x.length p' := by
  rcases front_or_behind a.length p with front | ⟨k, rfl⟩
  · exact ⟨p, (move_front front _).symm⟩
  · rcases front_or_behind x.length k with inside | ⟨j, rfl⟩
    · rw [List.getElem?_append_right (Nat.le_add_right _ _), Nat.add_sub_cancel_left,
        List.getElem?_append_left inside] at found
      exact absurd (List.mem_of_getElem? found) absent
    · exact ⟨a.length + j, (move_behind _ _ _).symm⟩

theorem brackets_between (none : brackets x = []) (order : p < q) :
    brackets (((a ++ (x ++ b)).take (move a.length x.length q)).drop
        (move a.length x.length p + 1)) =
      brackets (((a ++ b).take q).drop (p + 1)) := by
  rcases front_or_behind a.length q with front | ⟨k, rfl⟩
  · have first : p < a.length := Nat.lt_trans order front
    rw [move_front front, move_front first, List.take_append_of_le_length (Nat.le_of_lt front),
      List.take_append_of_le_length (Nat.le_of_lt front)]
  · rw [move_behind, List.take_length_add_append, List.take_length_add_append,
      List.take_length_add_append]
    rcases front_or_behind a.length p with first | ⟨j, rfl⟩
    -- only here does the slice hold what is put in
    · rw [move_front first, List.drop_append_of_le_length first,
        List.drop_append_of_le_length first]
      simp only [brackets_append, none, List.nil_append]
    · rw [move_behind, Nat.add_assoc, Nat.add_assoc, Nat.add_assoc, List.drop_length_add_append,
        List.drop_length_add_append, List.drop_length_add_append]

/-- Between the same glyphs the same parentheses belong together. -/
theorem paired_insert_iff (none : brackets x = []) : Paired (a ++ (x ++ b)) p q ↔
    ∃ p' q', Paired (a ++ b) p' q' ∧
      p = move a.length x.length p' ∧ q = move a.length x.length q' := by
  have absent {g : Glyph} (bracket : g.bracket? ≠ .none) : g ∉ x := fun member =>
    bracket (List.filterMap_eq_nil_iff.mp none g member)
  constructor
  · rintro ⟨opened, closed, order, balanced⟩
    obtain ⟨p', rfl⟩ := exists_move opened (absent (by simp [Glyph.bracket?]))
    obtain ⟨q', rfl⟩ := exists_move closed (absent (by simp [Glyph.bracket?]))
    have order := (move_lt_iff _ _ _ _).mp order
    rw [IsDyck, brackets_between none order] at balanced
    have before : Paired (a ++ b) p' q' :=
      ⟨getElem?_move p' ▸ opened, getElem?_move q' ▸ closed, order, balanced⟩
    exact ⟨p', q', before, rfl, rfl⟩
  · rintro ⟨p', q', ⟨opened, closed, order, balanced⟩, rfl, rfl⟩
    refine ⟨by rwa [getElem?_move], by rwa [getElem?_move], (move_lt_iff _ _ _ _).mpr order, ?_⟩
    rwa [IsDyck, brackets_between none order]

end Insertion
namespace Query

/-- The offsets of the pairs of parentheses of a query, in the order of the opening ones. -/
def pairs (query : Text) : List (Nat × Nat) :=
  ((ofText query).groups []).map fun g => (g.opening, g.closing)

theorem mem_pairs_iff (query : Text) (pair : Nat × Nat) :
    pair ∈ pairs query ↔ Paired (marks query) pair.1 pair.2 := by
  obtain ⟨p, q⟩ := pair
  simp only [pairs, List.mem_map, Prod.mk.injEq, ← mem_groups_iff_paired]

theorem pairs_pairwise (query : Text) : (pairs query).Pairwise fun a b => a.1 < b.1 :=
  List.pairwise_map.mpr (groups_pairwise (ofText query) [])

/-- Pairs in the order of their first components are known by their members. -/
theorem eq_of_pairwise_fst {as bs : List (Nat × Nat)} (first : as.Pairwise fun a b => a.1 < b.1)
    (second : bs.Pairwise fun a b => a.1 < b.1) (same : ∀ pair, pair ∈ as ↔ pair ∈ bs) :
    as = bs := by
  have : Std.Irrefl fun a b : Nat × Nat => a.1 < b.1 := ⟨fun a => Nat.lt_irrefl a.1⟩
  have : Std.Antisymm fun a b : Nat × Nat => a.1 < b.1 :=
    ⟨fun a b less more => absurd less (Nat.lt_asymm more)⟩
  exact first.eq_of_mem_iff second same

/-- A text that leaves no parenthesis unquoted moves the pairs behind it, and no others. -/
theorem pairs_insert (closed : Terminated front) (inert : Inert t) (rest : Text) :
    pairs (front ++ (t ++ rest)) =
      (pairs (front ++ rest)).map
        (Prod.map (move (size front) (size t)) (move (size front) (size t))) := by
  refine eq_of_pairwise_fst (pairs_pairwise _) ?_ fun pair => ?_
  · refine List.pairwise_map.mpr ((pairs_pairwise _).imp fun less => ?_)
    exact (move_lt_iff _ _ _ _).mpr less
  · have none : brackets (marks t) = [] := by rw [brackets_marks, inert.brackets_eq_nil]
    rw [mem_pairs_iff, marks_append closed, marks_append inert.reads, paired_insert_iff none,
      List.mem_map]
    simp only [length_marks]
    constructor
    · rintro ⟨p, q, paired, first, second⟩
      rw [← marks_append closed] at paired
      exact ⟨(p, q), (mem_pairs_iff _ (p, q)).mpr paired, Prod.ext first.symm second.symm⟩
    · rintro ⟨⟨p, q⟩, member, rfl⟩
      rw [mem_pairs_iff, marks_append closed] at member
      exact ⟨p, q, member, rfl, rfl⟩

end Query

namespace Literal

open Query

/-- What is no number is encoded as a string, which ends with the last octet of its encoding unless
a single quote follows. Then it goes on, and ends where the text behind it alone would end its first
literal. Put in anywhere outside literals, an encoding moves the parentheses behind it and changes
no pair. -/
theorem literalEnd_encode (other : isNumeral (trim s) = false) (t : Text) :
    Quoted (encode s) ∧
    (t.head? ≠ some '\'' → literalEnd (octets (encode s ++ t)) 0 = size (encode s) - 1) ∧
    (t.head? = some '\'' →
      literalEnd (octets (encode s ++ t)) 0 = size (encode s) + literalEnd (octets t) 0) ∧
    ∀ front, Terminated front → pairs (front ++ (encode s ++ t)) =
      (pairs (front ++ t)).map
        (Prod.map (move (size front) (size (encode s))) (move (size front) (size (encode s)))) := by
  have quoted := (quoted_encode_iff s).mpr other
  obtain ⟨body, whole, escaped⟩ := id quoted
  have single : isQuote '\'' = true := rfl
  have one : ('\'' : Char).utf8Size = 1 := rfl
  have ends (u : Text) : literalEnd (octets ('\'' :: u)) 0 = size (split '\'' u).1 := by
    simpa using literalEnd_octets single [] u
  have text : encode s ++ t = '\'' :: (body ++ '\'' :: t) := by simp [whole]
  have length : size (encode s) = size body + 2 := by simp [whole, one]; omega
  refine ⟨quoted, fun apart => ?_, fun opens => ?_, fun front closed => ?_⟩
  · rw [text, ends, split_append_escaped escaped, split_closing single apart, length]
    simp [one]
  · obtain ⟨u, rfl⟩ := List.head?_eq_some_iff.mp opens
    rw [text, ends, ends, split_append_escaped escaped, split_doubled single, length]
    simp [one]
    omega
  · exact pairs_insert closed (encode_value s).inert t

/-- An encoding with both escapes and an accent, in front of a space and of another literal. -/
theorem literalEnd_encode_adjacent :
    isNumeral (trim "é'\\".toList) = false ∧ Quoted (encode "é'\\".toList) ∧
      literalEnd (octets (encode "é'\\".toList ++ " (b)".toList)) 0 = 7 ∧
      literalEnd (octets (encode "é'\\".toList ++ "'('(b)".toList)) 0 = 8 + 2 ∧
      Terminated "(a)".toList ∧
      pairs ("(a)".toList ++ (encode "é'\\".toList ++ "'('(b)".toList)) = [(0, 2), (14, 16)] := by
  have other : isNumeral (trim "é'\\".toList) = false := by decide +kernel
  have length : size (encode "é'\\".toList) = 8 := by decide +kernel
  have closed : Terminated "(a)".toList := .of_unquoted (by simp [isQuote])
  obtain ⟨quoted, apart, _⟩ := literalEnd_encode other " (b)".toList
  obtain ⟨_, _, opens, moved⟩ := literalEnd_encode other "'('(b)".toList
  have next : literalEnd (octets "'('(b)".toList) 0 = 2 := by decide +kernel
  have before : pairs ("(a)".toList ++ "'('(b)".toList) = [(0, 2), (6, 8)] := by decide +kernel
  have places := moved _ closed
  rw [length, before] at places
  rw [length] at apart
  rw [length, next] at opens
  exact ⟨other, quoted, apart (by decide), opens rfl, closed, places⟩

end Literal
end Subselect
