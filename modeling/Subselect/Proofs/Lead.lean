import Subselect.Proofs.Seams
import Subselect.Proofs.Values
import Subselect.Query.Site

/-! What makes a group of parentheses a sub-select stands between it and the nearest parenthesis in
front of it. A literal put in the place of an earlier group can take a sub-select away by running
into the `IN` behind it, and cannot do anything else to it. -/
namespace Subselect

open Text

namespace Literal

/-- The characters literals end with, and parentheses. -/
def endChars : Text := numberChars ++ ['\'', 'L', '(', ')']

theorem endChars_not_blank : ∀ e ∈ endChars, isBlank e = false := by
  simp [endChars, numberChars, isBlank]

theorem endChars_no_keyword : ∀ e ∈ endChars, e.toLower ∉ fold ['N', 'I', 'T', 'O'] := by
  simp [endChars, numberChars, fold]

theorem endChars_no_operator : ∀ e ∈ endChars, e ≠ '=' ∧ e ≠ '<' ∧ e ≠ '>' ∧ e ≠ '!' := by
  simp [endChars, numberChars]

end Literal

open Literal

namespace Text

@[simp] theorem utf8Size_opening : '('.utf8Size = 1 := rfl
@[simp] theorem utf8Size_closing : ')'.utf8Size = 1 := rfl
@[simp] theorem isBlank_opening : isBlank '(' = false := rfl
@[simp] theorem isBlank_closing : isBlank ')' = false := rfl
@[simp] theorem isWordChar_opening : isWordChar '(' = false := rfl
@[simp] theorem isWordChar_closing : isWordChar ')' = false := rfl

theorem isWordChar_eq (c : Char) : isWordChar c =
    ((decide (65 ≤ c.toNat ∧ c.toNat ≤ 90) || (97 ≤ c.toNat && c.toNat ≤ 122)) ||
      (48 ≤ c.toNat && c.toNat ≤ 57) || c == '_') := rfl

theorem not_isWordChar_of_isBlank (h : isBlank c = true) : isWordChar c = false := by
  rw [← Bool.not_eq_true]
  intro word
  simp only [isBlank, isWordChar_eq, Bool.or_eq_true, Bool.and_eq_true, decide_eq_true_eq,
    beq_iff_eq] at h word
  rcases word with ((word | word) | word) | rfl
  · omega
  · omega
  · omega
  · exact absurd h (by decide)

theorem not_isQuote_of_isBlank (h : isBlank c = true) : isQuote c = false := by
  rw [← Bool.not_eq_true]
  intro quote
  rcases quote_cases quote with rfl | rfl | rfl <;> exact absurd h (by decide)

theorem prefix_of_append_eq {common s x rest : Text} (eq : common ++ s = x ++ rest)
    (other : ∀ c, s.head? = some c → c ∉ x) : ∃ gap, common = x ++ gap ∧ rest = gap ++ s := by
  rcases List.append_eq_append_iff.mp eq with ⟨y, rfl, rfl⟩ | ⟨y, rfl, rfl⟩
  · cases y with
    | nil => exact ⟨[], by simp, by simp⟩
    | cons c y => exact absurd (by simp) (other c rfl)
  · exact ⟨y, rfl, rfl⟩

theorem alike_length (h : alike s t = true) : s.length = t.length := by
  have same : fold s = fold t := by simpa [alike] using h
  simpa [fold] using congrArg List.length same

theorem alike_mem (h : alike s t = true) (member : c ∈ s) : c.toLower ∈ fold t := by
  have same : fold s = fold t := by simpa [alike] using h
  exact same ▸ List.mem_map_of_mem member

theorem toNat_toLower {c : Char} (upper : 65 ≤ c.toNat ∧ c.toNat ≤ 90) :
    c.toLower.toNat = c.toNat + 32 := by
  have range : c.val ≥ 'A'.val ∧ c.val ≤ 'Z'.val := upper
  have bound : c.val.toNat ≤ 90 := upper.2
  have sum : (c.val + 32).toNat = c.val.toNat + 32 := by
    rw [UInt32.toNat_add]
    exact Nat.mod_eq_of_lt (by simp; omega)
  have lower : c.toLower.val = c.val + 32 := congrArg Char.val (dif_pos range)
  exact (congrArg UInt32.toNat lower).trans sum

theorem isWordChar_toLower (c : Char) : isWordChar c.toLower = isWordChar c := by
  by_cases upper : 65 ≤ c.toNat ∧ c.toNat ≤ 90
  · have lower := toNat_toLower upper
    have first : isWordChar c = true := by simp [isWordChar_eq, upper]
    have second : isWordChar c.toLower = true := by
      simp [isWordChar_eq, lower]
      omega
    rw [first, second]
  · have same : c.toLower = c := dif_neg upper
    rw [same]

theorem alike_word (h : alike s t = true) (word : t.all isWordChar = true) :
    ∀ c ∈ s, isWordChar c = true := by
  intro c member
  obtain ⟨d, member, same⟩ := List.mem_map.mp (alike_mem h member)
  rw [← isWordChar_toLower, ← same, isWordChar_toLower]
  exact List.all_eq_true.mp word d member

theorem not_isBlank_of_isWordChar (h : isWordChar c = true) : isBlank c = false := by
  rw [← Bool.not_eq_true]
  intro blank
  simp [not_isWordChar_of_isBlank blank] at h

end Text

/-- The letters of `IN` are letters in either case. -/
theorem letter_of_toLower (h : c.toLower ∈ fold ['N', 'I']) :
    isWordChar c = true ∧ c ≠ '=' ∧ c ≠ '<' ∧ c ≠ '>' := by
  constructor
  · rw [← isWordChar_toLower]
    have letters : c.toLower = 'n' ∨ c.toLower = 'i' := by simpa [fold] using h
    rcases letters with same | same
    · rw [same]
      rfl
    · rw [same]
      rfl
  · refine ⟨?_, ?_, ?_⟩ <;> rintro rfl <;> exact absurd h (by decide)

namespace Comparison

theorem ofBackward_eq_none
    (h : ∀ c, before.head? = some c → c ≠ '=' ∧ c ≠ '<' ∧ c ≠ '>') : ofBackward before = none := by
  cases before with
  | nil => rfl
  | cons c before =>
    obtain ⟨equal, less, greater⟩ := h c rfl
    simp [ofBackward, equal, less, greater]

theorem ofBackward_symbol (h : ofBackward before = some op) :
    ∃ rest, before = op.symbol.reverse ++ rest := by
  revert h
  fun_cases ofBackward before <;> rintro ⟨⟩ <;> exact ⟨_, rfl⟩

theorem ofBackward_cons (a : Char)
    (h : ∀ c, t.head? = some c → c ≠ '=' ∧ c ≠ '<' ∧ c ≠ '>' ∧ c ≠ '!') :
    ofBackward (a :: t) = ofBackward [a] := by
  cases t with
  | nil => rfl
  | cons c t =>
    obtain ⟨equal, less, greater, bang⟩ := h c rfl
    by_cases first : a = '='
    · simp [ofBackward, first, less, greater, bang]
    by_cases second : a = '>'
    · simp [ofBackward, second, less]
    by_cases third : a = '<'
    · simp [ofBackward, third]
    simp [ofBackward, first, second, third]

/-- No operator is longer than two characters. -/
theorem ofBackward_cons_cons (a b : Char) (s t : Text) :
    ofBackward (a :: b :: s) = ofBackward (a :: b :: t) := by
  by_cases equal : a = '='
  · subst equal
    by_cases bang : b = '!'
    · simp [ofBackward, bang]
    by_cases less : b = '<'
    · simp [ofBackward, less]
    by_cases greater : b = '>'
    · simp [ofBackward, greater]
    simp [ofBackward, bang, less, greater]
  by_cases greater : a = '>'
  · subst greater
    by_cases less : b = '<' <;> simp [ofBackward, less]
  by_cases less : a = '<'
  · simp [ofBackward, less]
  simp [ofBackward, equal, greater, less]

end Comparison

namespace Context

/-- What a context does with the rows: lists them, or compares one value. -/
def operator? : Context → Option Comparison
  | list _ => none
  | scalar op => some op

theorem isList_eq (context : Context) : context.isList = context.operator?.isNone := by
  cases context <;> rfl

def kind (before : Text) : Option (Option Comparison) :=
  (ofBackward (before.dropWhile isBlank)).map operator?

theorem keywordBackward_head (h : keywordBackward before = some keyword) :
    ∃ rest, before = keyword.reverse ++ rest ∧
      ∀ c ∈ keyword, isBlank c = true ∨ c.toLower ∈ fold ['N', 'I', 'T', 'O'] := by
  have isIn : ∀ c ∈ fold ['N', 'I'], c ∈ fold ['N', 'I', 'T', 'O'] := by simp [fold]
  have isNot : ∀ c ∈ fold ['T', 'O', 'N'], c ∈ fold ['N', 'I', 'T', 'O'] := by simp [fold]
  unfold keywordBackward at h
  dsimp only at h
  split at h
  · next word =>
    split at h
    · next negated =>
      obtain rfl := Option.some.inj h
      refine ⟨(((before.dropWhile isWordChar).dropWhile isBlank).dropWhile isWordChar), ?_, ?_⟩
      · rw [List.reverse_reverse, List.append_assoc, List.append_assoc,
          List.takeWhile_append_dropWhile, List.takeWhile_append_dropWhile,
          List.takeWhile_append_dropWhile]
      · intro c member
        rcases (by simpa using member :
          c ∈ ((before.dropWhile isWordChar).dropWhile isBlank).takeWhile isWordChar ∨
          c ∈ (before.dropWhile isWordChar).takeWhile isBlank ∨
          c ∈ before.takeWhile isWordChar) with h | h | h
        · exact .inr (isNot _ (alike_mem (Bool.and_eq_true_iff.mp negated).2 h))
        · exact .inl (List.all_eq_true.mp List.all_takeWhile c h)
        · exact .inr (isIn _ (alike_mem word h))
    · obtain rfl := Option.some.inj h
      refine ⟨before.dropWhile isWordChar, ?_, fun c member => ?_⟩
      · rw [List.reverse_reverse, List.takeWhile_append_dropWhile]
      · exact .inr (isIn _ (alike_mem word (List.mem_reverse.mp member)))
  · cases h

/-- The characters a context is read from stand together. No literal ends with one of them. -/
theorem ofBackward_head (h : ofBackward before = some context) :
    ∃ rest, before = context.head.reverse ++ rest ∧ ∀ c ∈ context.head, c ∉ endChars := by
  unfold ofBackward at h
  split at h
  · next keyword found =>
    obtain rfl := Option.some.inj h
    obtain ⟨rest, eq, chars⟩ := keywordBackward_head found
    refine ⟨rest, eq, fun c member last => ?_⟩
    rcases chars c member with blank | letter
    · exact absurd blank (by simp [endChars_not_blank c last])
    · exact endChars_no_keyword c last letter
  · obtain ⟨op, found, rfl⟩ := Option.map_eq_some_iff.mp h
    obtain ⟨rest, eq⟩ := Comparison.ofBackward_symbol found
    refine ⟨rest, eq, ?_⟩
    cases op <;> simp [head, Comparison.symbol, endChars, numberChars]

/-- Nor is one of them a quote. -/
theorem head_unquoted (h : ofBackward before = some context) :
    ∀ c ∈ context.head, isQuote c = false := by
  unfold ofBackward at h
  split at h
  · next keyword found =>
    obtain rfl := Option.some.inj h
    obtain ⟨_, _, chars⟩ := keywordBackward_head found
    intro c member
    rcases chars c member with blank | letter
    · exact not_isQuote_of_isBlank blank
    · rw [← Bool.not_eq_true]
      intro quote
      rcases quote_cases quote with rfl | rfl | rfl <;> exact absurd letter (by decide)
  · obtain ⟨op, _, rfl⟩ := Option.map_eq_some_iff.mp h
    cases op <;> simp [head, Comparison.symbol, isQuote]

/-- The word `IN`, given backwards. -/
def isIn (word : Text) : Bool := alike word ['N', 'I']

theorem isIn_eq_false (member : e ∈ word) (ends : e ∈ endChars) : isIn word = false := by
  rw [← Bool.not_eq_true]
  intro keyword
  have letter : e.toLower ∈ fold ['N', 'I'] := alike_mem keyword member
  exact endChars_no_keyword e ends (List.mem_append_left ['t', 'o'] letter)

theorem kind_eq (before : Text) : kind before =
    if isIn ((before.dropWhile isBlank).takeWhile isWordChar) then some none
    else (Comparison.ofBackward (before.dropWhile isBlank)).map some := by
  unfold kind ofBackward keywordBackward isIn
  by_cases keyword : alike ((before.dropWhile isBlank).takeWhile isWordChar) ['N', 'I'] = true
  · simp only [keyword, if_true]
    by_cases negated : (!(List.takeWhile isBlank
        (List.dropWhile isWordChar (List.dropWhile isBlank before))).isEmpty &&
        alike (List.takeWhile isWordChar (List.dropWhile isBlank
          (List.dropWhile isWordChar (List.dropWhile isBlank before)))) ['T', 'O', 'N']) = true
    · simp only [negated, if_true, Option.map_some, operator?]
    · simp only [negated, if_false, Option.map_some, operator?, Bool.false_eq_true]
  · simp only [keyword, Bool.false_eq_true, if_false, Option.map_map]
    rfl

end Context

namespace Site

/-- Where the span of a recognised group begins and how long it is. -/
theorem recognise_span (h : recognise before body = some site) :
    ∃ rest, before = before.takeWhile isBlank ++ (site.context.head.reverse ++ rest) ∧
      (∀ c ∈ site.context.head, c ∉ endChars) ∧ site.offset = size rest ∧
      site.length = size site.context.head + size (before.takeWhile isBlank) + size body + 2 := by
  unfold recognise at h
  split at h
  · obtain ⟨context, found, rfl⟩ := Option.map_eq_some_iff.mp h
    obtain ⟨rest, eq, chars⟩ := Context.ofBackward_head found
    have whole : before = before.takeWhile isBlank ++ (context.head.reverse ++ rest) := by
      rw [← eq, List.takeWhile_append_dropWhile]
    refine ⟨rest, whole, chars, ?_, rfl⟩
    have sizes := congrArg size whole
    simp only [size_append, size_reverse] at sizes
    simp only
    omega
  · cases h

theorem recognise_inner (h : recognise before body = some site) : site.inner = trim body := by
  unfold recognise at h
  split at h
  · obtain ⟨context, _, rfl⟩ := Option.map_eq_some_iff.mp h
    rfl
  · cases h

theorem recognise_eq_none (h : Context.ofBackward (before.dropWhile isBlank) = none) :
    recognise before body = none := by
  simp [recognise, h]

theorem recognise_isSome (before body : Text) :
    (recognise before body).isSome = (isSelect body && (Context.kind before).isSome) := by
  unfold recognise Context.kind
  split <;> simp_all

theorem recognise_context (h : recognise before body = some site) :
    isSelect body = true ∧ Context.ofBackward (before.dropWhile isBlank) = some site.context := by
  unfold recognise at h
  split at h
  · next select =>
    obtain ⟨context, found, rfl⟩ := Option.map_eq_some_iff.mp h
    exact ⟨select, found⟩
  · cases h

theorem recognise_kind (h : recognise before body = some site) :
    isSelect body = true ∧ Context.kind before = some site.context.operator? := by
  obtain ⟨select, found⟩ := recognise_context h
  exact ⟨select, by simp [Context.kind, found]⟩

end Site

/-- Where two texts, given backwards, begin to differ: the first one with a parenthesis and the
second one with the end of a literal or a parenthesis of its own, if they go on at all. -/
structure Seam (s t : Text) : Prop where
  head_first : ∀ {c}, s.head? = some c → c = '(' ∨ c = ')'
  head_second : ∀ {e}, t.head? = some e → e ∈ endChars

namespace Seam

theorem start : Seam [] [] := ⟨by simp, by simp⟩

theorem turn (bracket : c = '(' ∨ c = ')') (ends : e ∈ endChars) : Seam (c :: s) (e :: t) :=
  ⟨fun head => Option.some.inj head ▸ bracket, fun head => Option.some.inj head ▸ ends⟩

theorem head_first_mem (h : Seam s t) (head : s.head? = some c) : c ∈ endChars := by
  rcases h.head_first head with rfl | rfl <;> decide

theorem not_blank (h : Seam s t) :
    (∀ c, s.head? = some c → isBlank c = false) ∧ ∀ e, t.head? = some e → isBlank e = false := by
  refine ⟨?_, fun e head => endChars_not_blank e (h.head_second head)⟩
  intro c head
  rcases h.head_first head with rfl | rfl <;> decide

theorem dropWhile_blank (h : Seam s t) (common : Text) :
    (common ++ s).dropWhile isBlank = common.dropWhile isBlank ++ s ∧
      (common ++ t).dropWhile isBlank = common.dropWhile isBlank ++ t :=
  ⟨dropWhile_append_seam _ _ _ h.not_blank.1, dropWhile_append_seam _ _ _ h.not_blank.2⟩

theorem not_word (h : Seam s t) : ∀ c, s.head? = some c → isWordChar c = false := by
  intro c head
  rcases h.head_first head with rfl | rfl <;> decide

/-- Behind the seam the word `IN` can only be lost, by growing longer. -/
theorem isIn_eq (h : Seam s t) (common : Text) :
    Context.isIn ((common ++ t).takeWhile isWordChar) =
      (Context.isIn ((common ++ s).takeWhile isWordChar) &&
        !(common.all isWordChar && t.head?.any isWordChar)) := by
  rw [takeWhile_append_seam _ common s h.not_word]
  by_cases word : t.head?.any isWordChar = true
  · by_cases all : common.all isWordChar = true
    · obtain ⟨e, t, rfl⟩ : ∃ e u, t = e :: u := by cases t <;> simp_all
      have longer : e ∈ (common ++ e :: t).takeWhile isWordChar := by
        rw [List.takeWhile_append_of_pos (by simpa using all)]
        simp_all
      rw [Context.isIn_eq_false longer (h.head_second rfl), all, word]
      simp
    · have stops : (common.takeWhile isWordChar).length ≠ common.length := fun all' =>
        all (by simpa [(List.takeWhile_prefix isWordChar).eq_of_length all'] using
          List.all_takeWhile (p := isWordChar) (l := common))
      rw [List.takeWhile_append, if_neg stops]
      simp [show common.all isWordChar = false by simpa using all]
  · rw [takeWhile_append_seam _ common t fun e head => by simpa [head] using word]
    simp [word]

theorem comparison_eq (h : Seam s t) (common : Text) :
    Comparison.ofBackward (common ++ t) = Comparison.ofBackward (common ++ s) := by
  have ends := endChars_no_operator
  match common with
  | [] =>
    rw [List.nil_append, List.nil_append, Comparison.ofBackward_eq_none fun e head => ?_,
      Comparison.ofBackward_eq_none fun c head => ?_]
    · obtain ⟨equal, less, greater, _⟩ := ends c (h.head_first_mem head)
      exact ⟨equal, less, greater⟩
    · obtain ⟨equal, less, greater, _⟩ := ends e (h.head_second head)
      exact ⟨equal, less, greater⟩
  | [a] =>
    rw [List.singleton_append, List.singleton_append,
      Comparison.ofBackward_cons a fun e head => ends e (h.head_second head),
      Comparison.ofBackward_cons a fun c head => ends c (h.head_first_mem head)]
  | a :: b :: common => exact Comparison.ofBackward_cons_cons a b _ _

/-- A list sub-select whose `IN` runs into the end of a literal is none any more. -/
theorem lost (h : Seam s t) (keyword : Context.isIn (common.dropWhile isBlank) = true)
    (word : t.head?.any isWordChar = true) :
    Context.kind (common ++ s) = some none ∧ Context.kind (common ++ t) = none := by
  obtain ⟨first, second⟩ := h.dropWhile_blank common
  rw [Context.kind_eq, Context.kind_eq, first, second, h.isIn_eq, h.comparison_eq]
  generalize rest : common.dropWhile isBlank = x at keyword
  have letters : ∀ c ∈ x, isWordChar c = true ∧ c ≠ '=' ∧ c ≠ '<' ∧ c ≠ '>' :=
    fun c member => letter_of_toLower (alike_mem keyword member)
  have whole : x.takeWhile isWordChar = x :=
    List.takeWhile_eq_self_iff.mpr fun c member => (letters c member).1
  have none : Comparison.ofBackward (x ++ s) = none := by
    apply Comparison.ofBackward_eq_none
    intro c head
    cases x with
    | nil => exact absurd (alike_length keyword) (by simp)
    | cons a x => exact Option.some.inj head ▸ (letters a (by simp)).2
  have all : x.all isWordChar = true := List.all_eq_true.mpr fun c member => (letters c member).1
  rw [takeWhile_append_seam _ x s h.not_word, whole, keyword, all, word, none]
  exact ⟨rfl, rfl⟩

/-- Behind the seam a context stays what it is, or is a list whose `IN` runs into a literal. -/
theorem kind_eq (h : Seam s t) (common : Text) :
    Context.kind (common ++ t) = Context.kind (common ++ s) ∨
      Context.kind (common ++ t) = none ∧ Context.isIn (common.dropWhile isBlank) = true ∧
        t.head?.any isWordChar = true := by
  by_cases fused : (common.dropWhile isBlank).all isWordChar = true ∧ t.head?.any isWordChar = true
  · by_cases keyword : Context.isIn (common.dropWhile isBlank) = true
    · exact .inr ⟨(h.lost keyword fused.2).2, keyword, fused.2⟩
    · left
      obtain ⟨first, second⟩ := h.dropWhile_blank common
      have whole := List.takeWhile_eq_self_iff.mpr fun c member =>
        List.all_eq_true.mp fused.1 c member
      rw [Context.kind_eq, Context.kind_eq, first, second, h.isIn_eq, h.comparison_eq,
        takeWhile_append_seam _ _ s h.not_word, whole]
      simp [keyword]
  · left
    obtain ⟨first, second⟩ := h.dropWhile_blank common
    rw [Context.kind_eq, Context.kind_eq, first, second, h.isIn_eq, h.comparison_eq,
      Bool.eq_false_iff.mpr (mt Bool.and_eq_true_iff.mp fused)]
    simp

end Seam

/-- Two texts, given backwards, that are the same up to a seam. -/
def Aligned (before before' : Text) : Prop :=
  ∃ common s t, before = common ++ s ∧ before' = common ++ t ∧ Seam s t

namespace Aligned

theorem start : Aligned [] [] := ⟨[], [], [], rfl, rfl, .start⟩

theorem turn (bracket : c = '(' ∨ c = ')') (ends : e ∈ endChars) : Aligned (c :: s) (e :: t) :=
  ⟨[], c :: s, e :: t, rfl, rfl, .turn bracket ends⟩

theorem cons (c : Char) (h : Aligned before before') : Aligned (c :: before) (c :: before') := by
  obtain ⟨common, s, t, rfl, rfl, seam⟩ := h
  exact ⟨c :: common, s, t, rfl, rfl, seam⟩

theorem past (before before' body body' : Text) :
    Aligned (Outline.past before body) (Outline.past before' body') :=
  turn (.inr rfl) (by decide)

theorem not_blank (h : Aligned before before') (first : before.dropWhile isBlank = before) :
    before'.dropWhile isBlank = before' := by
  obtain ⟨common, s, t, rfl, rfl, seam⟩ := h
  obtain ⟨left, right⟩ := seam.dropWhile_blank common
  rw [left] at first
  rw [right, List.append_cancel_right first]

/-- A recognised group that is still one uses its rows as it did. -/
theorem kind_eq (h : Aligned before before') (still : (Context.kind before').isSome = true) :
    Context.kind before' = Context.kind before := by
  obtain ⟨common, s, t, rfl, rfl, seam⟩ := h
  rcases seam.kind_eq common with same | ⟨lost, _⟩
  · exact same
  · simp [lost] at still

end Aligned

namespace Site

/-- A group that still is a sub-select was one and uses its rows in the same way. -/
theorem recognise_aligned (aligned : Aligned before before')
    (select : isSelect body' = isSelect body) (found : recognise before' body' = some site') :
    ∃ site, recognise before body = some site ∧
      site'.context.operator? = site.context.operator? := by
  obtain ⟨select', kind'⟩ := recognise_kind found
  have kind := aligned.kind_eq (by simp [kind'])
  obtain ⟨site, here⟩ : ∃ site, recognise before body = some site := by
    apply Option.isSome_iff_exists.mp
    rw [recognise_isSome, ← select, select', ← kind, kind']
    rfl
  rw [kind', (recognise_kind here).2] at kind
  exact ⟨site, here, Option.some.inj kind⟩

theorem length_toList_recognise (before body : Text) :
    (recognise before body).toList.length =
      (isSelect body && (Context.kind before).isSome).toNat := by
  rw [← recognise_isSome]
  cases recognise before body <;> rfl

theorem toList_recognise_le (aligned : Aligned before before')
    (select : isSelect body' = isSelect body) :
    (recognise before' body').toList.length ≤ (recognise before body).toList.length := by
  cases found : recognise before' body' with
  | none => simp
  | some site' =>
    obtain ⟨site, here, _⟩ := recognise_aligned aligned select found
    simp [here]

end Site

end Subselect
