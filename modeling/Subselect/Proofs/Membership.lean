import Mathlib.Data.List.ReduceOption
import Subselect.Literal
import Subselect.Proofs.Grammar

/-! What a list means to an engine. A test against a list knows three truth values, for nothing is
known of `NULL`. The literal drops the `NULL` cells of a column and stands for an empty column as
one `NULL`; no `IN` tells the difference, but a `NOT IN` can. -/
namespace Subselect

open Text

inductive Truth where
  | yes
  | no
  | unknown
  deriving DecidableEq, Repr

namespace Truth

def not : Truth → Truth
  | yes => no
  | no => yes
  | unknown => unknown

def or : Truth → Truth → Truth
  | yes, _ => yes
  | _, yes => yes
  | no, no => no
  | _, _ => unknown

end Truth

/-- A test of a number against a list, in which `none` stands for `NULL`. -/
structure ListTest where
  negated : Bool
  items : List (Option Int)
  deriving DecidableEq, Repr

/-- The cell that holds an integer, or `NULL`. -/
def Cell.ofValue : Option Int64 → Cell
  | none => .null
  | some n => .integer n

namespace ListTest

def equals (x : Int) : Option Int → Truth
  | none => .unknown
  | some n => if x = n then .yes else .no

/-- Whether one of the items equals a number. None does where there is none. -/
def isIn (x : Int) : List (Option Int) → Truth
  | [] => .no
  | item :: more => (equals x item).or (isIn x more)

def truth (test : ListTest) (x : Int) : Truth :=
  if test.negated then (isIn x test.items).not else isIn x test.items

/-- The test against a column as it is. -/
def ofColumn (negated : Bool) (column : List (Option Int64)) : ListTest :=
  ⟨negated, column.map (Option.map Int64.toInt)⟩

/-! Reading a test as an engine does. -/

def readNat (t : Text) : Option Nat :=
  if !t.isEmpty && t.all Char.isDigit then some (Decimal.value 0 t) else none

def readInt : Text → Option Int
  | '-' :: digits => (readNat digits).map fun n => -(n : Int)
  | digits => (readNat digits).map Int.ofNat

def readItem (t : Text) : Option (Option Int) :=
  if alike t ['N', 'U', 'L', 'L'] then some none else (readInt t).map some

/-- The items between parentheses, with commas between them. -/
def readList : Text → Option (List (Option Int))
  | '(' :: t =>
    if t.getLast? = some ')' then ((pieces ',' t.dropLast).map trim).mapM readItem else none
  | _ => none

def readIn (t : Text) : Option (List (Option Int)) :=
  if startsWithWord ['I', 'N'] t then readList (trimStart (t.dropWhile isWordChar)) else none

def read (t : Text) : Option ListTest :=
  if startsWithWord ['N', 'O', 'T'] t then
    (readIn (trimStart (t.dropWhile isWordChar))).map (⟨true, ·⟩)
  else (readIn t).map (⟨false, ·⟩)

/-! The truth of a test. -/

theorem isIn_eq_yes (x : Int) (items : List (Option Int)) :
    isIn x items = .yes ↔ some x ∈ items := by
  induction items with
  | nil => simp [isIn]
  | cons item more ih =>
    rw [isIn, List.mem_cons, ← ih]
    cases item with
    | none => cases isIn x more <;> simp [equals, Truth.or]
    | some n =>
      by_cases same : x = n
      · simp [equals, same, Truth.or]
      · cases isIn x more <;> simp [equals, same, Truth.or]

theorem isIn_eq_no (x : Int) (items : List (Option Int)) :
    isIn x items = .no ↔ none ∉ items ∧ some x ∉ items := by
  induction items with
  | nil => simp [isIn]
  | cons item more ih =>
    rw [isIn, List.mem_cons, List.mem_cons]
    cases item with
    | none => cases isIn x more <;> simp [equals, Truth.or]
    | some n =>
      by_cases same : x = n
      · simp [equals, same, Truth.or]
      · cases truth : isIn x more <;> simp_all [equals, Truth.or]

/-- `IN` holds of a number that is listed. -/
theorem truth_in (items : List (Option Int)) (x : Int) :
    truth ⟨false, items⟩ x = .yes ↔ some x ∈ items := isIn_eq_yes x items

/-- `NOT IN` holds of a number that is not listed, if no `NULL` is. -/
theorem truth_not_in (items : List (Option Int)) (x : Int) :
    truth ⟨true, items⟩ x = .yes ↔ none ∉ items ∧ some x ∉ items := by
  rw [← isIn_eq_no]
  change (isIn x items).not = .yes ↔ _
  cases isIn x items <;> simp [Truth.not]

/-! Reading what has been written. -/

theorem readNat_ofNat (n : Nat) : readNat (Decimal.ofNat n) = some n := by
  have digits : (Decimal.ofNat n).all Char.isDigit = true :=
    List.all_eq_true.mpr fun _ => Decimal.isDigit_of_mem_ofNat
  simp [readNat, Decimal.ofNat_ne_nil n, digits, Decimal.value_ofNat n]

theorem readInt_digits (digits : ∀ c ∈ t, c.isDigit = true) :
    readInt t = (readNat t).map Int.ofNat := by
  unfold readInt
  split
  · exact absurd (digits '-' (by simp)) (by decide)
  · rfl

theorem readInt_ofInt (n : Int) : readInt (Decimal.ofInt n) = some n := by
  cases n with
  | ofNat n =>
    rw [Decimal.ofInt, readInt_digits, readNat_ofNat]
    · rfl
    · exact fun _ => Decimal.isDigit_of_mem_ofNat
  | negSucc n => simp [Decimal.ofInt, readInt, readNat_ofNat, Int.negSucc_eq]

theorem numberChars_plain : ∀ c ∈ Literal.numberChars,
    c ≠ ',' ∧ isBlank c = false ∧ c.toLower ∉ fold ['N', 'U', 'L', 'L'] := by
  simp [Literal.numberChars, isBlank, fold]

theorem readItem_ofInt (n : Int) : readItem (Decimal.ofInt n) = some (some n) := by
  obtain ⟨some, chars⟩ := Literal.ofInt_number n
  have other : ¬alike (Decimal.ofInt n) ['N', 'U', 'L', 'L'] = true := by
    intro null
    obtain ⟨c, more, eq⟩ := List.exists_cons_of_ne_nil some
    have first : c ∈ Decimal.ofInt n := by simp [eq]
    exact (numberChars_plain c (chars c first)).2.2 (alike_mem null first)
  rw [readItem, if_neg other, readInt_ofInt]
  rfl

theorem pieces_append (h : c ∉ s) (t : Text) : pieces c (s ++ c :: t) = s :: pieces c t := by
  induction s with
  | nil => simp [pieces]
  | cons d s ih =>
    have other : d ≠ c := fun same => h (by simp [same])
    rw [List.cons_append, pieces, if_neg other, ih fun member => h (by simp [member])]

theorem pieces_single (h : c ∉ s) : pieces c s = [s] := by
  induction s with
  | nil => rfl
  | cons d s ih =>
    have other : d ≠ c := fun same => h (by simp [same])
    rw [pieces, if_neg other, ih fun member => h (by simp [member])]

/-- The pieces of a joined text are its parts again, but for the spaces behind the commas. -/
theorem pieces_join (t : Text) (more : List Text) (plain : ∀ s ∈ t :: more, ',' ∉ s) :
    pieces ',' (join [',', ' '] (t :: more)) = t :: more.map (' ' :: ·) := by
  induction more generalizing t with
  | nil => exact pieces_single (plain t (by simp))
  | cons next more ih =>
    have rest := ih next fun s member => plain s (by simp [List.mem_cons.mp member])
    have whole : join [',', ' '] (t :: next :: more) =
        t ++ ',' :: (' ' :: join [',', ' '] (next :: more)) := by simp [join]
    have space : ' ' ≠ ',' := by decide
    rw [whole, pieces_append (plain t (by simp)), pieces, if_neg space, rest, List.map_cons]

theorem trimStart_eq (h : ∀ c ∈ t, isBlank c = false) : trimStart t = t := by
  cases t with
  | nil => rfl
  | cons c t => exact List.dropWhile_cons_of_neg (by simp [h c (by simp)])

theorem trim_eq (h : ∀ c ∈ t, isBlank c = false) : trim t = t := by
  have backwards := trimStart_eq fun c member => h c (List.mem_reverse.mp member)
  rw [trim, trimStart_eq h, trimEnd, ← trimStart, backwards, List.reverse_reverse]

theorem trim_space (t : Text) : trim (' ' :: t) = trim t := rfl

/-- Values without blanks and commas are read back from their list. -/
theorem readList_list (values : List Text) (items : List (Option Int)) (some : values ≠ [])
    (plain : ∀ v ∈ values, ',' ∉ v ∧ ∀ c ∈ v, isBlank c = false)
    (read : values.mapM readItem = .some items) : readList (Literal.list values) = .some items := by
  obtain ⟨first, more, rfl⟩ := List.exists_cons_of_ne_nil some
  have parts : (pieces ',' (Literal.listBody (first :: more))).map trim = first :: more := by
    rw [Literal.listBody, List.isEmpty_cons, if_neg Bool.false_ne_true,
      pieces_join first more fun v member => (plain v member).1]
    simp only [List.map_cons, List.map_map, Function.comp_def, trim_space]
    rw [trim_eq (plain first (by simp)).2]
    congr 1
    apply (List.map_congr_left ?_).trans (List.map_id _)
    exact fun v member => trim_eq (plain v (by simp [member])).2
  rw [Literal.list_eq, readList, List.getLast?_append, List.dropLast_concat, parts]
  simpa using read

theorem mapM_readItem (numbers : List Int) :
    (numbers.map Decimal.ofInt).mapM readItem = some (numbers.map some) := by
  induction numbers with
  | nil => rfl
  | cons n numbers ih => simp [List.mapM_cons, readItem_ofInt, ih]

/-- The integers of a column. -/
def integers (column : List (Option Int64)) : List Int := column.reduceOption.map Int64.toInt

theorem ofTable_eq (cells : table.rows.filterMap Row.first = column.map Cell.ofValue) :
    Literal.ofTable table = (integers column).map Decimal.ofInt := by
  rw [Literal.ofTable, cells]
  clear cells
  induction column with
  | nil => rfl
  | cons value column ih =>
    rw [List.map_cons, List.flatMap_cons, ih]
    cases value <;> rfl

/-- The test that the literal of a column makes, against its integers or one `NULL` where there is
none. -/
def ofLiteral (negated : Bool) (column : List (Option Int64)) : ListTest :=
  ⟨negated, if integers column = [] then [none] else (integers column).map some⟩

theorem readList_integers (numbers : List Int) :
    readList (Literal.list (numbers.map Decimal.ofInt)) =
      some (if numbers = [] then [none] else numbers.map some) := by
  by_cases none : numbers = []
  · subst none
    rfl
  · rw [if_neg none]
    apply readList_list _ _ (by simpa using none) ?_ (mapM_readItem numbers)
    intro v member
    obtain ⟨n, _, rfl⟩ := List.mem_map.mp member
    have plain := fun c member => numberChars_plain c ((Literal.ofInt_number n).2 c member)
    exact ⟨fun comma => (plain ',' comma).1 rfl, fun c member => (plain c member).2.1⟩

theorem space_stops (t : Text) : ∀ c, (' ' :: t).head? = some c → isWordChar c = false := by
  rintro c ⟨⟩
  rfl

theorem readIn_word (spelled : alike word ['I', 'N'] = true) (values : List Text) :
    readIn (word ++ ' ' :: Literal.list values) = readList (Literal.list values) := by
  obtain ⟨run, behind⟩ := span_seam isWordChar (alike_word spelled rfl)
    (space_stops (Literal.list values))
  rw [readIn, startsWithWord, run, behind, alike_comm, if_pos spelled, Literal.list_eq]
  rfl

/-- A keyword and a list are read as the test they make. -/
theorem read_replacement {negated : Bool} (spelled : ListKeyword negated keyword)
    (values : List Text) : read ((Context.list keyword).replacement values) =
      (readList (Literal.list values)).map (⟨negated, ·⟩) := by
  rw [Context.replacement, read, startsWithWord]
  cases spelled with
  | plain spelled =>
    have run := (span_seam isWordChar (alike_word spelled rfl)
      (space_stops (Literal.list values))).1
    have other : ¬alike ['N', 'O', 'T'] keyword = true := by
      intro negation
      have longer := alike_length negation
      rw [alike_length spelled] at longer
      exact absurd longer (by decide)
    rw [run, if_neg other, readIn_word spelled]
  | @negated negation gap word spelledNot gapped blank spelled =>
    have letters := alike_word spelledNot rfl
    have next : ∀ c, (gap ++ (word ++ ' ' :: Literal.list values)).head? = some c →
        isWordChar c = false := fun c head =>
      not_isWordChar_of_isBlank (blank c (mem_of_head?_append gapped head))
    have some : word ≠ [] := by
      rintro rfl
      simp [alike, fold] at spelled
    have stop : ∀ c, (word ++ ' ' :: Literal.list values).head? = .some c → isBlank c = false :=
      fun c head => not_isBlank_of_isWordChar
        (alike_word spelled rfl c (mem_of_head?_append some head))
    obtain ⟨run, behind⟩ := span_seam isWordChar letters next
    rw [List.append_assoc, List.append_assoc, run, behind, alike_comm, if_pos spelledNot, trimStart,
      (span_seam isBlank blank stop).2, readIn_word spelled]

theorem read_ofTable {negated : Bool} (spelled : ListKeyword negated keyword)
    (cells : table.rows.filterMap Row.first = column.map Cell.ofValue) :
    read ((Context.list keyword).replacement (Literal.ofTable table)) =
      some (ofLiteral negated column) := by
  rw [read_replacement spelled, ofTable_eq cells, readList_integers]
  rfl

/-! What a literal and its column accept. -/

theorem ofColumn_in (column : List (Option Int64)) (x : Int) :
    (ofColumn false column).truth x = .yes ↔ x ∈ integers column := by
  rw [ofColumn, truth_in]
  simp [integers, List.reduceOption_mem_iff, Option.map_eq_some_iff]

theorem ofColumn_not_in (column : List (Option Int64)) (x : Int) :
    (ofColumn true column).truth x = .yes ↔ none ∉ column ∧ x ∉ integers column := by
  rw [ofColumn, truth_not_in]
  simp [integers, List.reduceOption_mem_iff, Option.map_eq_some_iff]

theorem ofLiteral_in (column : List (Option Int64)) (x : Int) :
    (ofLiteral false column).truth x = .yes ↔ x ∈ integers column := by
  rw [ofLiteral, truth_in]
  split
  · next none => simp [none]
  · simp

theorem ofLiteral_not_in (column : List (Option Int64)) (x : Int) :
    (ofLiteral true column).truth x = .yes ↔ integers column ≠ [] ∧ x ∉ integers column := by
  rw [ofLiteral, truth_not_in]
  split
  · next none => simp [none]
  · next some => simp [some]

/-- Cells that are no integers are `NULL`. -/
theorem null_mem_iff (none : integers column = []) : .none ∈ column ↔ column ≠ [] := by
  constructor
  · rintro member rfl
    exact List.not_mem_nil member
  · intro some
    obtain ⟨value, more, rfl⟩ := List.exists_cons_of_ne_nil some
    cases value with
    | none => exact List.mem_cons_self
    | some n => simp [integers] at none

/-- A literal accepts the numbers that its column accepts, always behind `IN`. Behind `NOT IN` it
does so just where the column has rows and, if there is a `NULL` among them, either no integers or
the number itself. -/
theorem literal_accepts_iff {negated : Bool} (spelled : ListKeyword negated keyword) (table : Table)
    (column : List (Option Int64))
    (cells : table.rows.filterMap Row.first = column.map Cell.ofValue) (x : Int) :
    ∃ test, read ((Context.list keyword).replacement (Literal.ofTable table)) = some test ∧
      ((test.truth x = .yes ↔ (ofColumn negated column).truth x = .yes) ↔
        (negated = true → column ≠ [] ∧
          (none ∈ column → integers column = [] ∨ x ∈ integers column))) := by
  refine ⟨ofLiteral negated column, read_ofTable spelled cells, ?_⟩
  cases negated with
  | false =>
    rw [ofLiteral_in, ofColumn_in]
    simp
  | true =>
    rw [ofLiteral_not_in, ofColumn_not_in]
    by_cases none : integers column = []
    -- the literal accepts nothing, and the column does so unless it is empty
    · simp [none, null_mem_iff none]
    · have some : column ≠ [] := by
        rintro rfl
        exact none rfl
      simp only [none, some, not_false_eq_true, true_and, false_or, forall_const, ne_eq]
      tauto

/-- The number 1 fails both tests: the list holds it, and so does the column. -/
theorem literal_accepts_iff_listed :
    ∃ test, read ((Context.list "not  in".toList).replacement (Literal.ofTable (.ofRows
        [[(['a'], .integer 1)], [(['a'], .null)]]))) = some test ∧
      (test.truth 1 = .yes ↔ (ofColumn true [some 1, none]).truth 1 = .yes) := by
  have spelled : ListKeyword true (['n', 'o', 't'] ++ ([' ', ' '] ++ ['i', 'n'])) :=
    .negated (by decide) (by simp) (by simp [isBlank]) (by decide)
  obtain ⟨test, read, accepts⟩ := literal_accepts_iff spelled
    (.ofRows [[(['a'], .integer 1)], [(['a'], .null)]]) [some 1, none] rfl 1
  exact ⟨test, read, accepts.mpr fun _ => by decide⟩

/-- Of the rows 1 and `NULL` the literal keeps 1, and `x NOT IN (1)` holds of 2. Of no rows it makes
`(NULL)`, and `x NOT IN (NULL)` holds of nothing. -/
theorem literal_accepts_other :
    read ((Context.list "NOT IN".toList).replacement (Literal.ofTable (.ofRows
        [[(['a'], .integer 1)], [(['a'], .null)]]))) = some ⟨true, [some 1]⟩ ∧
      truth ⟨true, [some 1]⟩ 2 = .yes ∧ (ofColumn true [some 1, none]).truth 2 = .unknown ∧
    read ((Context.list "NOT IN".toList).replacement (Literal.ofTable .empty)) =
        some ⟨true, [none]⟩ ∧
      truth ⟨true, [none]⟩ 2 = .unknown ∧ (ofColumn true []).truth 2 = .yes := by
  decide +kernel

end ListTest

end Subselect
