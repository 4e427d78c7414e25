import Subselect.Proofs.Brackets

/-! The grammar of sub-selects. The body begins with the word `SELECT`, and the text in front ends
with a list keyword or, failing that, with an operator; of several that fit the longest counts.
Reading backwards finds just what the grammar describes. -/
namespace Subselect

open Text Outline

namespace Text

/-- No word goes on behind the end of the text. -/
def Bounded (t : Text) : Prop := ∀ c, t.getLast? = some c → isWordChar c = false

/-- `IN`, or `NOT` and `IN` with white space between them, in any case. -/
inductive ListKeyword : Bool → Text → Prop where
  | plain : alike word ['I', 'N'] = true → ListKeyword false word
  | negated : alike negation ['N', 'O', 'T'] = true → gap ≠ [] →
      (∀ c ∈ gap, isBlank c = true) → alike word ['I', 'N'] = true →
      ListKeyword true (negation ++ (gap ++ word))

/-- A text ends with a list keyword that is no part of a longer word. -/
def EndsWithKeyword (t keyword : Text) : Prop :=
  ∃ front negated, t = front ++ keyword ∧ Bounded front ∧ ListKeyword negated keyword

def EndsWithOperator (t symbol : Text) : Prop :=
  symbol <:+ t ∧ ∃ op : Comparison, symbol = op.symbol

/-- The longest text of some kind. -/
def Longest (fits : Text → Prop) (found : Text) : Prop :=
  fits found ∧ ∀ other, fits other → other.length ≤ found.length

/-- The context that a text ends with. -/
inductive Introduces (t : Text) : Context → Prop where
  | list : Longest (EndsWithKeyword t) keyword → Introduces t (.list keyword)
  | scalar : (∀ keyword, ¬EndsWithKeyword t keyword) → Longest (EndsWithOperator t) op.symbol →
      Introduces t (.scalar op)

/-- A text begins with the whole word `SELECT`, after white space and in any case. -/
def BeginsWithSelect (t : Text) : Prop :=
  ∃ gap word rest, t = gap ++ (word ++ rest) ∧ (∀ c ∈ gap, isBlank c = true) ∧
    alike word ['S', 'E', 'L', 'E', 'C', 'T'] = true ∧
    ∀ c, rest.head? = some c → isWordChar c = false

/-! Words in any case. -/

theorem alike_comm (s t : Text) : alike s t = alike t s := Bool.beq_comm

@[simp] theorem alike_reverse (s t : Text) : alike s.reverse t.reverse = alike s t := by
  rw [Bool.eq_iff_iff]
  simp [alike, fold]

theorem Bounded.head?_reverse (h : Bounded t) :
    ∀ c, t.reverse.head? = some c → isWordChar c = false := by
  intro c head
  exact h c (by rwa [List.head?_reverse] at head)

theorem bounded_reverse {t : Text} (h : ∀ c, t.head? = some c → isWordChar c = false) :
    Bounded t.reverse := by
  intro c last
  exact h c (by rwa [List.getLast?_reverse] at last)

/-! A search for the longest text: what it finds fits, and it finds none shorter than one that
fits. -/
section Search

variable {find : Option Text} {fits : Text → Prop} (sound : ∀ s, find = some s → fits s)
  (complete : ∀ s, fits s → ∃ found, find = some found ∧ s.length ≤ found.length)

include sound complete

theorem eq_some_iff_longest (ends : ∀ s, fits s → s <:+ t) (s : Text) :
    find = some s ↔ Longest fits s := by
  constructor
  · intro here
    refine ⟨sound s here, fun other fit => ?_⟩
    obtain ⟨found, there, le⟩ := complete other fit
    rwa [← Option.some.inj (there.symm.trans here)]
  · rintro ⟨fit, longest⟩
    obtain ⟨found, here, le⟩ := complete s fit
    -- both end the same text, and neither is longer
    have within := List.suffix_of_suffix_length_le (ends s fit) (ends found (sound found here)) le
    have same := within.eq_of_length (Nat.le_antisymm le (longest found (sound found here)))
    rw [here, same]

theorem eq_none_iff_longest : find = none ↔ ∀ s, ¬fits s := by
  constructor
  · intro none s fit
    obtain ⟨found, here, _⟩ := complete s fit
    simp [none] at here
  · intro none
    cases here : find with
    | none => rfl
    | some s => exact absurd (sound s here) (none s)

end Search

theorem EndsWithKeyword.suffix (h : EndsWithKeyword t keyword) : keyword <:+ t := by
  obtain ⟨front, _, rfl, _⟩ := h
  exact List.suffix_append front keyword

end Text

namespace Comparison

theorem symbol_injective {a b : Comparison} (h : a.symbol = b.symbol) : a = b := by
  cases a <;> cases b <;> simp_all [symbol]

theorem symbol_pos (op : Comparison) : 0 < op.symbol.length := by
  cases op <;> simp [symbol]

theorem symbol_sound (t : Text) (s : Text)
    (h : (ofBackward t.reverse).map symbol = some s) : EndsWithOperator t s := by
  obtain ⟨op, found, rfl⟩ := Option.map_eq_some_iff.mp h
  obtain ⟨rest, split⟩ := ofBackward_symbol found
  refine ⟨⟨rest.reverse, ?_⟩, op, rfl⟩
  rw [← List.reverse_inj, split]
  simp

theorem symbol_complete (t : Text) (s : Text) (h : EndsWithOperator t s) :
    ∃ found, (ofBackward t.reverse).map symbol = some found ∧ s.length ≤ found.length := by
  obtain ⟨⟨front, rfl⟩, op, rfl⟩ := h
  rw [List.reverse_append]
  generalize front.reverse = rest
  have single : ∀ c, c = '=' ∨ c = '<' ∨ c = '>' → ∃ op, ofBackward (c :: rest) = some op := by
    rintro c (rfl | rfl | rfl)
    · unfold ofBackward
      split <;> simp_all
    · exact ⟨less, rfl⟩
    · unfold ofBackward
      split <;> simp_all
  cases op with
  | notEqual => exact ⟨_, rfl, Nat.le_refl 2⟩
  | lessGreater => exact ⟨_, rfl, Nat.le_refl 2⟩
  | lessEqual => exact ⟨_, rfl, Nat.le_refl 2⟩
  | greaterEqual => exact ⟨_, rfl, Nat.le_refl 2⟩
  | equal =>
    obtain ⟨op, found⟩ := single '=' (by simp)
    exact ⟨op.symbol, congrArg (Option.map symbol) found, op.symbol_pos⟩
  | less =>
    obtain ⟨op, found⟩ := single '<' (by simp)
    exact ⟨op.symbol, congrArg (Option.map symbol) found, op.symbol_pos⟩
  | greater =>
    obtain ⟨op, found⟩ := single '>' (by simp)
    exact ⟨op.symbol, congrArg (Option.map symbol) found, op.symbol_pos⟩

end Comparison

namespace Context

theorem keywordBackward_sound (t keyword : Text) (h : keywordBackward t.reverse = some keyword) :
    EndsWithKeyword t keyword := by
  obtain ⟨before, rfl⟩ : ∃ before : Text, t = before.reverse := ⟨t.reverse, by simp⟩
  rw [List.reverse_reverse] at h
  unfold keywordBackward at h
  dsimp only at h
  split at h
  · next word =>
    have word : alike (before.takeWhile isWordChar).reverse ['I', 'N'] = true := by
      rwa [← alike_reverse] at word
    split at h
    · next negated =>
      obtain rfl := Option.some.inj h
      obtain ⟨some, negation⟩ := Bool.and_eq_true_iff.mp negated
      rw [← alike_reverse] at negation
      refine ⟨(((before.dropWhile isWordChar).dropWhile isBlank).dropWhile isWordChar).reverse,
        true, ?_, bounded_reverse (head?_dropWhile _ _), ?_⟩
      · rw [← List.reverse_append, List.append_assoc, List.append_assoc,
          List.takeWhile_append_dropWhile, List.takeWhile_append_dropWhile,
          List.takeWhile_append_dropWhile]
      · rw [List.reverse_append, List.reverse_append]
        apply ListKeyword.negated negation (by simpa using some) ?_ word
        intro c member
        exact List.all_eq_true.mp List.all_takeWhile c (List.mem_reverse.mp member)
    · obtain rfl := Option.some.inj h
      refine ⟨(before.dropWhile isWordChar).reverse, false, ?_,
        bounded_reverse (head?_dropWhile _ _), .plain word⟩
      rw [← List.reverse_append, List.takeWhile_append_dropWhile]
  · cases h

/-- What begins with `IN` is read as a keyword, given backwards. -/
theorem keywordBackward_word (word : alike w ['I', 'N'] = true)
    (stop : ∀ c, rest.head? = some c → isWordChar c = false) :
    keywordBackward (w.reverse ++ rest) =
      some (if !(rest.takeWhile isBlank).isEmpty &&
            alike ((rest.dropWhile isBlank).takeWhile isWordChar) ['T', 'O', 'N'] then
          (w.reverse ++ rest.takeWhile isBlank ++
            (rest.dropWhile isBlank).takeWhile isWordChar).reverse
        else w) := by
  have letters : ∀ c ∈ w.reverse, isWordChar c = true := fun c member =>
    alike_word word rfl c (List.mem_reverse.mp member)
  have backwards : alike w.reverse ['N', 'I'] = true := (alike_reverse w ['I', 'N']).trans word
  obtain ⟨run, behind⟩ := span_seam isWordChar letters stop
  rw [keywordBackward, run, behind]
  dsimp only
  rw [if_pos backwards]
  split <;> simp

theorem keywordBackward_complete (t keyword : Text) (h : EndsWithKeyword t keyword) :
    ∃ found, keywordBackward t.reverse = some found ∧ keyword.length ≤ found.length := by
  obtain ⟨front, negated, rfl, bounded, spelled⟩ := h
  cases spelled with
  | plain word =>
    rw [List.reverse_append, keywordBackward_word word bounded.head?_reverse]
    refine ⟨_, rfl, ?_⟩
    split
    · simp
      omega
    · exact Nat.le_refl _
  | @negated negation gap word spelledNot gapped blank spelledIn =>
    have letters : ∀ c ∈ negation.reverse, isWordChar c = true := fun c member =>
      alike_word spelledNot rfl c (List.mem_reverse.mp member)
    have backwards : alike negation.reverse ['T', 'O', 'N'] = true :=
      (alike_reverse negation ['N', 'O', 'T']).trans spelledNot
    have blanks : ∀ c ∈ gap.reverse, isBlank c = true := fun c member =>
      blank c (List.mem_reverse.mp member)
    obtain ⟨run, rest⟩ := span_seam isWordChar letters bounded.head?_reverse
    have next : ∀ c, (negation.reverse ++ front.reverse).head? = some c → isBlank c = false := by
      intro c head
      have some : negation.reverse ≠ [] := by
        rintro none
        simp [List.reverse_eq_nil_iff.mp none, alike, fold] at spelledNot
      exact not_isBlank_of_isWordChar (letters c (mem_of_head?_append some head))
    obtain ⟨space, behind⟩ := span_seam isBlank blanks next
    have stop : ∀ c, (gap.reverse ++ (negation.reverse ++ front.reverse)).head? = some c →
        isWordChar c = false := by
      intro c head
      have some : gap.reverse ≠ [] := mt List.reverse_eq_nil_iff.mp gapped
      exact not_isWordChar_of_isBlank (blanks c (mem_of_head?_append some head))
    have whole : (front ++ (negation ++ (gap ++ word))).reverse =
        word.reverse ++ (gap.reverse ++ (negation.reverse ++ front.reverse)) := by simp
    rw [whole, keywordBackward_word spelledIn stop, space, behind, run]
    simp [gapped, backwards]

theorem ofBackward_eq_some_iff (t : Text) (context : Context) :
    ofBackward t.reverse = some context ↔ Introduces t context := by
  have keywords := eq_some_iff_longest (keywordBackward_sound t) (keywordBackward_complete t)
    fun s => EndsWithKeyword.suffix
  have operators := eq_some_iff_longest (Comparison.symbol_sound t) (Comparison.symbol_complete t)
    fun s => And.left
  have none := eq_none_iff_longest (keywordBackward_sound t) (keywordBackward_complete t)
  constructor
  · intro h
    unfold ofBackward at h
    split at h
    · next keyword found =>
      obtain rfl := Option.some.inj h
      exact .list ((keywords keyword).mp found)
    · next absent =>
      obtain ⟨op, found, rfl⟩ := Option.map_eq_some_iff.mp h
      exact .scalar (none.mp absent) ((operators op.symbol).mp (congrArg _ found))
  · rintro (⟨longest⟩ | ⟨absent, longest⟩)
    · rw [ofBackward, (keywords _).mpr longest]
    · obtain ⟨op, found, same⟩ := Option.map_eq_some_iff.mp ((operators _).mpr longest)
      rw [ofBackward, none.mpr absent, found, Comparison.symbol_injective same]
      rfl

end Context

namespace Site

theorem isSelect_iff (body : Text) : isSelect body = true ↔ BeginsWithSelect body := by
  rw [isSelect, startsWithWord, alike_comm]
  constructor
  · intro word
    refine ⟨body.takeWhile isBlank, (trimStart body).takeWhile isWordChar,
      (trimStart body).dropWhile isWordChar, ?_, ?_, word, head?_dropWhile _ _⟩
    · rw [List.takeWhile_append_dropWhile, blank_append_trimStart]
    · exact fun c member => List.all_eq_true.mp List.all_takeWhile c member
  · rintro ⟨gap, word, rest, rfl, blank, spelled, stop⟩
    have letters := alike_word spelled rfl
    have some : word ≠ [] := by
      rintro rfl
      simp [alike, fold] at spelled
    have next : ∀ c, (word ++ rest).head? = .some c → isBlank c = false := fun c head =>
      not_isBlank_of_isWordChar (letters c (mem_of_head?_append some head))
    rw [trimStart, (span_seam isBlank blank next).2, (span_seam isWordChar letters stop).1]
    exact spelled

end Site

end Subselect
