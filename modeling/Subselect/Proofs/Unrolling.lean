import Subselect.Proofs.Integers
import Subselect.Proofs.Spans

/-! Cells that hold several values. A text with commas gives the literals that its values would give
in rows of their own, so nothing depends on how values are spread over the cells of a column. -/
namespace Subselect

open Text

namespace Text

/-! The pieces of a text. -/

theorem pieces_ne_nil (separator : Char) (t : Text) : pieces separator t ≠ [] := by
  cases t with
  | nil => exact List.cons_ne_nil [] []
  | cons c t =>
    rw [pieces]
    repeat' split
    all_goals exact List.cons_ne_nil _ _

theorem pieces_cons_of_ne (other : c ≠ separator) (t : Text) :
    ∃ piece more, pieces separator t = piece :: more ∧
      pieces separator (c :: t) = (c :: piece) :: more := by
  obtain ⟨piece, more, eq⟩ := List.exists_cons_of_ne_nil (pieces_ne_nil separator t)
  exact ⟨piece, more, eq, by rw [pieces, if_neg other, eq]⟩

theorem join_cons (separator t : Text) (some : more ≠ []) :
    join separator (t :: more) = t ++ separator ++ join separator more := by
  cases more with
  | nil => exact absurd rfl some
  | cons next more => rfl

/-- The pieces make up the text again. -/
theorem join_pieces (separator : Char) (t : Text) : join [separator] (pieces separator t) = t := by
  induction t with
  | nil => rfl
  | cons c t ih =>
    by_cases here : c = separator
    · rw [pieces, if_pos here, join_cons _ _ (pieces_ne_nil separator t), ih, here]
      rfl
    · obtain ⟨piece, more, rest, whole⟩ := pieces_cons_of_ne here t
      rw [rest] at ih
      rw [whole, ← ih]
      cases more <;> rfl

theorem not_mem_pieces (separator : Char) (t : Text) :
    ∀ piece ∈ pieces separator t, separator ∉ piece := by
  induction t with
  | nil => simp [pieces]
  | cons c t ih =>
    by_cases here : c = separator
    · rw [pieces, if_pos here, List.forall_mem_cons]
      exact ⟨List.not_mem_nil, ih⟩
    · obtain ⟨piece, more, rest, whole⟩ := pieces_cons_of_ne here t
      rw [rest, List.forall_mem_cons] at ih
      rw [whole, List.forall_mem_cons, List.mem_cons, not_or]
      exact ⟨⟨Ne.symm here, ih.1⟩, ih.2⟩

/-- Pieces without the separator are found again in the text they make up. -/
theorem pieces_joined (some : parts ≠ []) (plain : ∀ t ∈ parts, separator ∉ t) :
    pieces separator (join [separator] parts) = parts := by
  induction parts with
  | nil => exact absurd rfl some
  | cons t more ih =>
    rw [List.forall_mem_cons] at plain
    by_cases last : more = []
    · subst last
      exact ListTest.pieces_single plain.1
    · rw [join_cons _ _ last, List.append_assoc, List.singleton_append,
        ListTest.pieces_append plain.1, ih last plain.2]

/-! Trimming. -/

theorem trim_blank (blank : ∀ c ∈ t, isBlank c = true) : trim t = [] := by
  rw [trim, trimStart, List.dropWhile_eq_nil_iff.mpr blank]
  rfl

/-- White space around a text is taken off, and nothing else. -/
theorem trim_padded (trimmed : Trimmed t) (some : t ≠ [])
    (front : ∀ c ∈ lead, isBlank c = true) (back : ∀ c ∈ trail, isBlank c = true) :
    trim (lead ++ (t ++ trail)) = t := by
  have first : ∀ c, (t ++ trail).head? = .some c → isBlank c = false := by
    intro c head
    rw [List.head?_append_of_ne_nil _ some] at head
    exact trimmed.first c head
  have last : ∀ c, t.reverse.head? = .some c → isBlank c = false := by
    intro c head
    rw [List.head?_reverse] at head
    exact trimmed.last c head
  have behind : ∀ c ∈ trail.reverse, isBlank c = true := fun c member =>
    back c (List.mem_reverse.mp member)
  rw [trim, trimStart, (span_seam isBlank front first).2, trimEnd, List.reverse_append,
    (span_seam isBlank behind last).2, List.reverse_reverse]

theorem mem_of_mem_trim (member : c ∈ trim t) : c ∈ t := by
  obtain ⟨lead, trail, eq, _⟩ := exists_trim t
  rw [eq]
  exact List.mem_append_right _ (List.mem_append_left _ member)

end Text

namespace Literal

/-- What the pieces between the commas of a text hold: each without the white space around it,
unless nothing is left of it. -/
def held (s : Text) : List Text := ((pieces ',' s).map trim).filter (!·.isEmpty)

/-- Pieces that values are spelled in, with white space around a value and blank pieces between. -/
inductive Spells : List Text → List Text → Prop where
  | nil : Spells [] []
  | blank : (∀ c ∈ space, isBlank c = true) → Spells parts values → Spells (space :: parts) values
  | value : (∀ c ∈ lead, isBlank c = true) → (∀ c ∈ trail, isBlank c = true) → Trimmed v → v ≠ [] →
      ',' ∉ v → Spells parts values → Spells ((lead ++ (v ++ trail)) :: parts) (v :: values)

namespace Spells

theorem comma_not_blank {space : Text} (blank : ∀ c ∈ space, isBlank c = true) : ',' ∉ space :=
  fun member => nomatch blank ',' member

theorem plain (spells : Spells parts values) : ∀ part ∈ parts, ',' ∉ part := by
  induction spells with
  | nil => exact nofun
  | blank space _ ih =>
    rw [List.forall_mem_cons]
    exact ⟨comma_not_blank space, ih⟩
  | value lead trail _ _ comma _ ih =>
    rw [List.forall_mem_cons, List.mem_append, List.mem_append, not_or, not_or]
    exact ⟨⟨comma_not_blank lead, comma, comma_not_blank trail⟩, ih⟩

theorem filter_trim (spells : Spells parts values) :
    (parts.map trim).filter (!·.isEmpty) = values := by
  induction spells with
  | nil => rfl
  | blank space _ ih =>
    rw [List.map_cons, trim_blank space]
    exact ih
  | value lead trail trimmed some _ _ ih =>
    rw [List.map_cons, trim_padded trimmed some lead trail]
    simpa [some] using ih

/-- Pieces without commas spell what is left of them when they are trimmed. -/
theorem of_plain (plain : ∀ part ∈ parts, ',' ∉ part) :
    Spells parts ((parts.map trim).filter (!·.isEmpty)) := by
  induction parts with
  | nil => exact .nil
  | cons part parts ih =>
    rw [List.forall_mem_cons] at plain
    obtain ⟨lead, trail, whole, front, back⟩ := exists_trim part
    by_cases none : trim part = []
    · have blank : ∀ c ∈ part, isBlank c = true := by
        intro c member
        rw [whole, none, List.nil_append, List.mem_append] at member
        exact member.elim (front c) (back c)
      rw [List.map_cons, none]
      exact .blank blank (ih plain.2)
    · have kept := Spells.value front back (trimmed_trim part) none
        (fun member => plain.1 (mem_of_mem_trim member)) (ih plain.2)
      rw [← whole] at kept
      simpa [none] using kept

end Spells

/-- The values of a row: those that are spelled between the commas of its first cell, or the one
that is all of the cell. -/
inductive Holds (row : Row) : List Text → Prop where
  | several : row.first = some (.text (join [','] parts)) → ',' ∈ join [','] parts →
      Spells parts values → Holds row values
  | single : row.first = some (.text v) → Trimmed v → v ≠ [] → ',' ∉ v → Holds row [v]

/-- The values of some rows, from the first row to the last. -/
inductive Spread : List Row → List Text → Prop where
  | nil : Spread [] []
  | cons : Holds row values → Spread rows others → Spread (row :: rows) (values ++ others)

theorem ofRows_first (first : row.first = some cell) : ofRows [row] = ofCell cell := by
  simp [ofRows, first]

/-- A row gives the literals of its values, however they are spelled. -/
theorem ofRows_holds (holds : Holds row values) : ofRows [row] = values.map encode := by
  cases holds with
  | @several parts _ first comma spells =>
    have some : parts ≠ [] := by
      rintro rfl
      exact List.not_mem_nil comma
    rw [ofRows_first first, ofCell, if_pos comma, pieces_joined some spells.plain,
      spells.filter_trim]
  | single first _ _ comma =>
    rw [ofRows_first first, ofCell, if_neg comma]
    rfl

theorem ofRows_spread (spread : Spread rows values) : ofRows rows = values.map encode := by
  induction spread with
  | nil => rfl
  | cons holds _ ih => rw [ofRows_cons, ofRows_holds holds, ih, List.map_append]

/-- A cell with commas holds what is left of its pieces. -/
theorem holds_held (first : row.first = some (.text s)) (comma : ',' ∈ s) : Holds row (held s) := by
  rw [← join_pieces ',' s] at first comma
  exact .several first comma (.of_plain (not_mem_pieces ',' s))

theorem held_single {s : Text} (member : v ∈ held s) : Trimmed v ∧ v ≠ [] ∧ ',' ∉ v := by
  obtain ⟨trimmed, some⟩ := List.mem_filter.mp member
  obtain ⟨piece, inside, rfl⟩ := List.mem_map.mp trimmed
  refine ⟨trimmed_trim piece, by simpa using some, fun comma => ?_⟩
  exact not_mem_pieces ',' s piece inside (mem_of_mem_trim comma)

/-- Rows with one value each spread these values. -/
theorem spread_singles (single : ∀ v ∈ values, Trimmed v ∧ v ≠ [] ∧ ',' ∉ v)
    (cells : rows.map Row.first = values.map fun v => some (.text v)) : Spread rows values := by
  induction values generalizing rows with
  | nil =>
    obtain rfl := List.map_eq_nil_iff.mp cells
    exact .nil
  | cons v values ih =>
    obtain ⟨row, others, rfl, first, rest⟩ := List.map_eq_cons_iff.mp cells
    rw [List.forall_mem_cons] at single
    obtain ⟨⟨trimmed, some, comma⟩, single⟩ := single
    exact .cons (.single first trimmed some comma) (ih single rest)

end Literal

/-- Two tables that the same literals are made of. -/
structure Table.Agree (a b : Table) : Prop where
  values : Literal.ofTable a = Literal.ofTable b
  list : Literal.list (Literal.ofTable a) = Literal.list (Literal.ofTable b)
  scalar : Literal.scalar (Literal.ofTable a) = Literal.scalar (Literal.ofTable b)

theorem Table.agree (values : Literal.ofTable a = Literal.ofTable b) : Table.Agree a b :=
  ⟨values, congrArg Literal.list values, congrArg Literal.scalar values⟩

namespace Literal

/-- Among any other rows, a cell with commas gives the literals that the values between its commas
give in rows of their own. More generally rows that spread the same values over their cells, spelled
in whatever way, give the same literals: those of the values, one after the other. -/
theorem ofTable_unroll (table : Table) (before after : List Row) :
    (∀ row s unrolled, Row.first row = some (.text s) → ',' ∈ s →
      unrolled.map Row.first = (held s).map (fun v => some (.text v)) →
      Table.Agree { table with rows := before ++ row :: after }
        { table with rows := before ++ (unrolled ++ after) }) ∧
    ∀ rows rows' values, Spread rows values → Spread rows' values →
      ofTable { table with rows := before ++ (rows ++ after) } =
        ofRows before ++ (values.map encode ++ ofRows after) ∧
      Table.Agree { table with rows := before ++ (rows ++ after) }
        { table with rows := before ++ (rows' ++ after) } := by
  have spreads (rows values) (spread : Spread rows values) :
      ofTable { table with rows := before ++ (rows ++ after) } =
        ofRows before ++ (values.map encode ++ ofRows after) := by
    rw [ofTable_eq_ofRows, ofRows_append, ofRows_append, ofRows_spread spread]
  constructor
  · intro row s unrolled first comma cells
    have packed : Spread [row] (held s) := by
      rw [← List.append_nil (held s)]
      exact .cons (holds_held first comma) .nil
    have loose := spread_singles (fun _ => held_single) cells
    exact Table.agree ((spreads [row] _ packed).trans (spreads unrolled _ loose).symm)
  · intro rows rows' values spread spread'
    have here := spreads rows values spread
    exact ⟨here, Table.agree (here.trans (spreads rows' values spread').symm)⟩

/-- A number, a text with a quote and another number, with blank pieces and wide spaces. -/
def crowded : Text := " 7,,O'Brien\u2003, ,-8e2 ".toList

def crowdedValues : List Text := ["7".toList, "O'Brien".toList, "-8e2".toList]

/-- The crowded cell, its values in rows of their own, and in two rows that part them elsewhere. -/
theorem ofTable_unroll_crowded :
    Row.first [(['a'], .text crowded)] = some (.text crowded) ∧ ',' ∈ crowded ∧
      held crowded = crowdedValues ∧
      Table.Agree
        { Table.empty with rows :=
          [[(['a'], .null)], [(['a'], .text crowded)], [(['a'], .integer 1)]] }
        { Table.empty with rows := [(['a'], .null)] ::
          (crowdedValues.map (fun v => [(['b'], .text v)]) ++ [[(['a'], .integer 1)]]) } ∧
      Spread [[(['a'], .text crowded)]] crowdedValues ∧
      Spread [[(['a'], .text "7".toList)], [(['a'], .text ", O'Brien,-8e2".toList)]] crowdedValues ∧
      ofTable { Table.empty with rows := [(['a'], .null)] ::
        ([[(['a'], .text "7".toList)], [(['a'], .text ", O'Brien,-8e2".toList)]] ++
          [[(['a'], .integer 1)]]) } =
        ["7".toList, "'O\\'Brien'".toList, "-8e2".toList, "1".toList] := by
  have values : held crowded = crowdedValues := by decide +kernel
  have packed : Spread [[(['a'], .text crowded)]] crowdedValues := by
    rw [← values, ← List.append_nil (held crowded)]
    exact .cons (holds_held rfl (by decide +kernel)) .nil
  have second : held ", O'Brien,-8e2".toList = crowdedValues.tail := by decide +kernel
  have parted : Spread [[(['a'], .text "7".toList)], [(['a'], .text ", O'Brien,-8e2".toList)]]
      crowdedValues := by
    have trimmed : Trimmed "7".toList := trimmed_trim "7".toList
    have first : Holds [(['a'], .text "7".toList)] ["7".toList] :=
      .single rfl trimmed (by decide) (by decide)
    have rest : Holds [(['a'], .text ", O'Brien,-8e2".toList)] crowdedValues.tail := by
      rw [← second]
      exact holds_held rfl (by decide +kernel)
    exact .cons first (.cons rest .nil)
  obtain ⟨unroll, spread⟩ := ofTable_unroll .empty [[(['a'], .null)]] [[(['a'], .integer 1)]]
  have agree := unroll [(['a'], .text crowded)] crowded
    (crowdedValues.map fun v => [(['b'], .text v)]) rfl (by decide +kernel) (by rw [values]; rfl)
  have listed := (spread _ _ _ parted packed).1
  refine ⟨rfl, by decide +kernel, values, agree, packed, parted, listed.trans ?_⟩
  decide +kernel

end Literal
end Subselect
