import Subselect.Engine.Response
import Subselect.Proofs.Layouts

/-! Tables that arrive as they were sent. A table without doubles, written out as the result set of
a body, is decoded to itself: the cells find their columns again whatever the texts in them look
like. -/
namespace Subselect

/-! Entries with distinct keys. -/

namespace Json

/-- A key that is not there is set at the end. -/
theorem insert_fresh (fresh : key ∉ entries.map Prod.fst) (value : Json) :
    insert key value entries = entries ++ [(key, value)] := by
  induction entries with
  | nil => rfl
  | cons entry more ih =>
    rw [List.map_cons, List.mem_cons, not_or] at fresh
    rw [insert, if_neg (Ne.symm fresh.1), ih fresh.2, List.cons_append]

/-- Settled values under distinct keys are left as they are. -/
theorem settleEntries_distinct (distinct : ((done ++ entries).map Prod.fst).Nodup)
    (settled : ∀ entry ∈ entries, settle entry.2 = entry.2) :
    settleEntries done entries = done ++ entries := by
  induction entries generalizing done with
  | nil => rw [settleEntries, List.append_nil]
  | cons entry more ih =>
    obtain ⟨key, value⟩ := entry
    have here : settle value = value := settled (key, value) List.mem_cons_self
    have fresh : key ∉ done.map Prod.fst := by
      intro member
      rw [List.map_append, List.nodup_append] at distinct
      exact distinct.2.2 key member key (by simp) rfl
    rw [List.append_cons] at distinct ⊢
    rw [settleEntries, settleEntry, here]
    simp only [insert_fresh fresh]
    exact ih distinct fun entry member => settled entry (List.mem_cons_of_mem _ member)

theorem rotateRight_concat (middle : List α) (last : α) :
    (middle ++ [last]).rotateRight = last :: middle := by
  cases middle with
  | nil => rfl
  | cons x middle => simp [List.rotateRight]

theorem rotateRight_perm (xs : List α) : xs.rotateRight.Perm xs := by
  rcases List.eq_nil_or_concat xs with rfl | ⟨middle, last, rfl⟩
  · exact .refl _
  · rw [List.concat_eq_append, rotateRight_concat]
    exact (List.perm_append_singleton last middle).symm

/-- The last entry behind a key goes into its place. -/
theorem swapRemove_split (fresh : key ∉ front.map Prod.fst) :
    swapRemove key (front ++ (key, value) :: behind) =
      (some value, front ++ behind.rotateRight) := by
  have other : ∀ entry ∈ front, (entry.1 == key) = false := fun entry member =>
    beq_false_of_ne fun same => fresh (same ▸ List.mem_map_of_mem member)
  have found : (front ++ (key, value) :: behind).findIdx? (·.1 == key) = some front.length := by
    rw [List.findIdx?_append, List.findIdx?_eq_none_iff.mpr other]
    simp [List.findIdx?_cons]
  rcases List.eq_nil_or_concat behind with rfl | ⟨middle, last, rfl⟩
  · simp [swapRemove, found]
  · rw [List.concat_eq_append] at found ⊢
    have put : (front ++ (key, value) :: (middle ++ [last])).set front.length last =
        (front ++ last :: middle) ++ [last] := by simp
    have final : (front ++ (key, value) :: (middle ++ [last])).getLast? = some last := by
      rw [← List.cons_append, ← List.append_assoc, List.getLast?_concat]
    rw [swapRemove, found, rotateRight_concat]
    simp only [final, put, List.dropLast_concat, List.getElem?_append_right (Nat.le_refl _),
      Nat.sub_self, List.getElem?_cons_zero, Option.map_some]

/-- Taking out a key that is there leaves the other entries, in some order. -/
theorem swapRemove_perm (distinct : (entries.map Prod.fst).Nodup)
    (member : (key, value) ∈ entries) :
    ∃ others, swapRemove key entries = (some value, others) ∧
      entries.Perm ((key, value) :: others) := by
  obtain ⟨front, behind, rfl⟩ := List.append_of_mem member
  have fresh : key ∉ front.map Prod.fst := by
    intro inside
    rw [List.map_append, List.nodup_append] at distinct
    exact distinct.2.2 key inside key (by simp) rfl
  refine ⟨front ++ behind.rotateRight, swapRemove_split fresh, List.perm_middle.trans ?_⟩
  exact .cons _ (.append_left _ (rotateRight_perm behind).symm)

end Json

/-! Cells and rows. -/

/-- The cells that are no doubles. -/
inductive Cell.Plain : Cell → Prop where
  | null : Plain .null
  | integer (n : Int64) : Plain (.integer n)
  | text (s : Text) : Plain (.text s)

instance : DecidablePred Cell.Plain
  | .null => isTrue .null
  | .integer n => isTrue (.integer n)
  | .text s => isTrue (.text s)
  | .float _ => isFalse nofun

theorem Cell.Plain.exact (plain : Plain cell) : Json.Exact depth cell.toJson := by
  cases plain with
  | null => exact .null
  | integer n =>
    have low := n.le_toInt
    have high := n.toInt_lt
    apply Json.Exact.whole
    · simp only [Decimal.signedLimit]; omega
    · simp only [Decimal.wordLimit]; omega
  | text s => exact .string s

theorem Cell.settle_toJson (cell : Cell) : cell.toJson.settle = cell.toJson := by
  cases cell <;> rfl

/-- A cell is told by its kind, whatever a text looks like. -/
theorem Response.cell_toJson (c : Cell) : cell c.toJson = c := by
  cases c with
  | null => rfl
  | integer n =>
    have small : n.toInt < Decimal.signedLimit := n.toInt_lt
    rw [Cell.toJson, cell, if_pos small, Int64.ofInt_toInt]
  | float x => rfl
  | text s => rfl

namespace Row

/-- The entries a row is sent as. -/
def entries (row : Row) : Response.Entries := row.map fun (name, cell) => (name, cell.toJson)

theorem map_fst_entries (row : Row) : row.entries.map Prod.fst = row.map Prod.fst := by
  rw [entries, List.map_map]
  rfl

theorem exact (row : Row) (plain : ∀ entry ∈ row, entry.2.Plain) :
    Json.Exact (depth + 1) row.toJson := by
  apply Json.Exact.object
  intro entry inside
  obtain ⟨⟨name, cell⟩, member, rfl⟩ := List.mem_map.mp inside
  exact (plain _ member).exact

theorem settleEntries_entries (row : Row) (distinct : (row.map Prod.fst).Nodup) :
    Json.settleEntries [] row.entries = row.entries := by
  apply Json.settleEntries_distinct
  · rwa [List.nil_append, map_fst_entries]
  · intro entry member
    obtain ⟨⟨name, cell⟩, _, rfl⟩ := List.mem_map.mp member
    exact cell.settle_toJson

end Row

/-- The cells find their names again in whatever order the entries are left by earlier ones. -/
theorem Response.row_perm (row : Row) (distinct : (row.map Prod.fst).Nodup)
    (same : entries.Perm row.entries) : Response.row (row.map Prod.fst) entries = row := by
  induction row generalizing entries with
  | nil => rfl
  | cons entry more ih =>
    obtain ⟨name, cell⟩ := entry
    have keys : (entries.map Prod.fst).Nodup := by
      rw [← Row.map_fst_entries] at distinct
      exact (same.map Prod.fst).nodup_iff.mpr distinct
    have member : (name, cell.toJson) ∈ entries := same.mem_iff.mpr List.mem_cons_self
    obtain ⟨others, removed, left⟩ := Json.swapRemove_perm keys member
    have rest : others.Perm (Row.entries more) := (left.symm.trans same).cons_inv
    rw [List.map_cons, Response.row, removed]
    simp only [Option.map_some, Option.getD_some, cell_toJson]
    rw [ih (List.nodup_cons.mp distinct).2 rest]

/-! Tables. -/

namespace Table

/-- A table that nothing is lost of on the way: its rows have its columns, all of them different,
and hold no doubles. -/
structure Regular (table : Table) : Prop where
  distinct : table.columns.Nodup
  named : ∀ row ∈ table.rows, row.map Prod.fst = table.columns
  plain : ∀ row ∈ table.rows, ∀ entry ∈ row, entry.2.Plain
  warned : table.warning ≠ some []

/-- The header names a column as the one key of an object. -/
def header (name : Text) : Response.Entries := [(name, .object [])]

/-- An unknown total is null. -/
def totalJson : Option UInt64 → Json
  | none => .null
  | some n => .whole n.toNat

/-- The members of the result set that a table is sent as. -/
def members (table : Table) : Response.Entries :=
  [("columns".toList, .array (table.columns.map fun name => .object (header name))),
    ("data".toList, .array (table.rows.map Row.toJson)),
    ("total".toList, totalJson table.total),
    ("error".toList, .string []),
    ("warning".toList, .string (table.warning.getD []))]

/-- The body of an answer with one result set. -/
def body (table : Table) : Text := (Json.array [.object table.members]).compact

example : body ⟨[['a']], [[(['a'], .text ['1'])]], none, none⟩ =
    "[\x7b\"columns\":[\x7b\"a\":\x7b\x7d\x7d],\"data\":[\x7b\"a\":\"1\"\x7d],\"total\":null,".toList ++
      "\"error\":\"\",\"warning\":\"\"\x7d]".toList := rfl

theorem exact_header (name : Text) : Json.Exact (depth + 2) (.object (header name)) := by
  apply Json.Exact.object
  intro entry member
  obtain rfl := List.mem_singleton.mp member
  apply Json.Exact.object
  rintro _ ⟨⟩

theorem exact_total (total : Option UInt64) : Json.Exact depth (totalJson total) := by
  cases total with
  | none => exact .null
  | some n =>
    have fits := n.toNat_lt
    apply Json.Exact.whole
    · simp only [Decimal.signedLimit]; omega
    · simp only [Decimal.wordLimit]; omega

theorem Regular.exact (regular : Regular table) :
    Json.Exact Json.depthLimit (.array [.object table.members]) := by
  have columns : Json.Exact 125 (.array (table.columns.map fun name => .object (header name))) := by
    apply Json.Exact.array
    intro item member
    obtain ⟨name, _, rfl⟩ := List.mem_map.mp member
    exact exact_header name
  have data : Json.Exact 125 (.array (table.rows.map Row.toJson)) := by
    apply Json.Exact.array
    intro item member
    obtain ⟨row, inside, rfl⟩ := List.mem_map.mp member
    exact row.exact (regular.plain row inside)
  apply Json.Exact.array
  intro item member
  obtain rfl := List.mem_singleton.mp member
  apply Json.Exact.object
  intro entry inside
  simp only [members, List.mem_cons, List.not_mem_nil, or_false] at inside
  rcases inside with rfl | rfl | rfl | rfl | rfl
  · exact columns
  · exact data
  · exact exact_total table.total
  · exact .string _
  · exact .string _

end Table

namespace Response

theorem objects_map (f : α → Entries) (xs : List α)
    (settled : ∀ x ∈ xs, Json.settleEntries [] (f x) = f x) :
    objects (some (.array (xs.map fun x => .object (f x)))) = some (xs.map f) := by
  rw [objects]
  induction xs with
  | nil => rfl
  | cons x more ih =>
    have rest := ih fun y member => settled y (List.mem_cons_of_mem _ member)
    rw [List.map_cons, List.mapM_cons, rest]
    simp only [settled x List.mem_cons_self]
    rfl

theorem count_total (total : Option UInt64) :
    count (some (Table.totalJson total)) = some total := by
  cases total with
  | none => rfl
  | some n => simp [Table.totalJson, count]

/-- The result set a table is received as. -/
def ResultSet.ofTable (sent : Table) : ResultSet where
  columns := sent.columns.map Table.header
  data := sent.rows.map Row.entries
  total := sent.total
  error := []
  warning := sent.warning.getD []

theorem ResultSet.ofJson_members (regular : Table.Regular sent) :
    ofJson (.object sent.members) = some (ofTable sent) := by
  have header : objects (some (.array (sent.columns.map fun name => .object (Table.header name)))) =
      some (sent.columns.map Table.header) :=
    objects_map Table.header sent.columns fun name _ => rfl
  have rows : objects (some (.array (sent.rows.map Row.toJson))) = some (sent.rows.map Row.entries) :=
    objects_map Row.entries sent.rows fun row member =>
      row.settleEntries_entries (by rw [regular.named row member]; exact regular.distinct)
  have fields : ofFields (some (.array (sent.columns.map fun name => .object (Table.header name))))
      (some (.array (sent.rows.map Row.toJson)))
      (some (Table.totalJson sent.total)) (some (.string []))
      (some (.string (sent.warning.getD []))) = some (ofTable sent) := by
    rw [ofFields, header, rows, count_total]
    rfl
  rw [ofJson]
  exact fields

theorem ResultSet.names_ofTable (regular : Table.Regular sent) :
    (ofTable sent).names = sent.columns := by
  have header : (sent.columns.map Table.header).filterMap
      (fun entries => entries.head?.map (·.1)) = sent.columns := by
    rw [List.filterMap_map]
    exact List.filterMap_some
  rw [names, ofTable, header]
  cases columns : sent.columns with
  | cons name more => rfl
  | nil =>
    cases rows : sent.rows with
    | nil => rfl
    | cons row more =>
      have named := regular.named row (by simp [rows])
      rw [columns, ← Row.map_fst_entries] at named
      exact named

theorem ResultSet.table_ofTable (regular : Table.Regular sent) :
    (ofTable sent).table = sent := by
  have back : ∀ r ∈ sent.rows, row sent.columns (Row.entries r) = r := by
    intro r member
    rw [← regular.named r member]
    apply row_perm r _ (.refl _)
    rw [regular.named r member]
    exact regular.distinct
  have rows : (ofTable sent).data.map (row sent.columns) = sent.rows := by
    rw [ofTable, List.map_map]
    exact (List.map_congr_left back).trans (List.map_id _)
  have warning : (if (ofTable sent).warning.isEmpty then none else some (ofTable sent).warning) =
      sent.warning := by
    cases given : sent.warning with
    | none => simp [ofTable, given]
    | some s =>
      have present : s ≠ [] := fun empty => regular.warned (by rw [given, empty])
      simp [ofTable, given, present]
  rw [table, names_ofTable regular, rows, warning]
  rfl

/-- A table is received as it was sent. -/
theorem decode_body (regular : Table.Regular sent) : decode sent.body = .ok sent := by
  have shape : Shape.ofJson (.array [.object sent.members]) = some (.sets [.ofTable sent]) := by
    rw [Shape.ofJson, List.mapM_cons, ResultSet.ofJson_members regular]
    rfl
  have reply : (Shape.sets [.ofTable sent]).reply = .ok sent := by
    rw [Shape.reply, ResultSet.table_ofTable regular]
    rfl
  rw [decode, Table.body, Json.read_compact regular.exact]
  simp only [shape]
  exact reply

/-- Texts that look like other cells, under names that do, and the least signed word. -/
def lookalikes : Table where
  columns := [['n', 'u', 'l', 'l'], ['a', '"', '\\'], []]
  rows := [
    [(['n', 'u', 'l', 'l'], .text ['n', 'u', 'l', 'l']), (['a', '"', '\\'], .text ['-', '1']),
      ([], .integer (-9223372036854775808))],
    [(['n', 'u', 'l', 'l'], .null), (['a', '"', '\\'], .text ['[', '"', '\n', 'é', ']']),
      ([], .text [])]]
  total := some 18446744073709551615
  warning := some [' ']

theorem decode_body_lookalikes :
    Table.Regular lookalikes ∧ decode lookalikes.body = .ok lookalikes :=
  have regular : Table.Regular lookalikes :=
    { distinct := by decide, named := by decide, plain := by decide, warned := by decide }
  ⟨regular, decode_body regular⟩

end Response
end Subselect
