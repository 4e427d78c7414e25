import Subselect.Proofs.Received

/-! Tables as they are printed. The text of a table that an engine sent is JSON text, from which the
table is read again: its columns, the cells of each row under their names, the total and the
warning. -/
namespace Subselect

/-! Reading a table. -/

def Row.ofJson? : Json → Option Row
  | .object entries => some (entries.map fun (name, value) => (name, Response.cell value))
  | _ => none

def Json.items? : Json → Option (List Json)
  | .array items => some items
  | _ => none

def Json.text? : Json → Option Text
  | .string s => some s
  | _ => none

/-- The table that a value stands for. -/
def Table.ofJson? : Json → Option Table
  | .object entries => do
    let columns ← (← (← Json.lookup "columns".toList entries).items?).mapM Json.text?
    let rows ← (← (← Json.lookup "rows".toList entries).items?).mapM Row.ofJson?
    let total ← Response.count (Json.lookup "total".toList entries)
    let warning ← (Json.lookup "warning".toList entries).mapM Json.text?
    pure { columns, rows, total, warning }
  | _ => none

theorem Row.ofJson?_toJson (row : Row) : ofJson? row.toJson = some row := by
  have cells (entry : Text × Cell) : (entry.1, Response.cell entry.2.toJson) = entry := by
    rw [Response.cell_toJson]
  rw [toJson, ofJson?, List.map_map]
  exact congrArg some ((List.map_congr_left fun entry _ => cells entry).trans (List.map_id row))

theorem mapM_map_of_inverse {f : α → β} {g : β → Option α} (inverse : ∀ a, g (f a) = some a)
    (xs : List α) : (xs.map f).mapM g = some xs := by
  have both : g ∘ f = pure := funext inverse
  rw [List.mapM_map, both, List.mapM_pure, List.map_id']
  rfl

/-- Nothing of a table is left out of its value. -/
theorem Table.ofJson?_toJson (table : Table) : ofJson? table.toJson = some table := by
  obtain ⟨columns, rows, total, warning⟩ := table
  have names := mapM_map_of_inverse (f := Json.string) (g := Json.text?) (fun _ => rfl) columns
  have cells := mapM_map_of_inverse Row.ofJson?_toJson rows
  have count (n : UInt64) : Response.count (some (.whole n.toNat)) = some (some n) :=
    Response.count_total (some n)
  have read (total : Option UInt64) (warning : Option Text) (entries : Response.Entries)
      (first : Json.lookup "columns".toList entries = some (.array (columns.map .string)))
      (second : Json.lookup "rows".toList entries = some (.array (rows.map Row.toJson)))
      (third : Response.count (Json.lookup "total".toList entries) = some total)
      (last : (Json.lookup "warning".toList entries).mapM Json.text? = some warning) :
      ofJson? (.object entries) = some ⟨columns, rows, total, warning⟩ := by
    simp only [ofJson?, first, second, third, last, Json.items?, names, cells, bind,
      Option.bind_some, pure]
  cases total with
  | none =>
    cases warning with
    | none => exact read none none _ rfl rfl rfl rfl
    | some s => exact read none (some s) _ rfl rfl rfl rfl
  | some n =>
    cases warning with
    | none => exact read (some n) none _ rfl rfl (count n) rfl
    | some s => exact read (some n) (some s) _ rfl rfl (count n) rfl

/-! What is printed. -/

/-- A cell that is no double, or a finite one. -/
inductive Cell.Finite : Cell → Prop where
  | null : Finite .null
  | integer (n : Int64) : Finite (.integer n)
  | float : Binary64.Canonical s k → Finite (.float (.finite negative s k))
  | text (s : Text) : Finite (.text s)

theorem Cell.Finite.received (finite : Cell.Finite cell) : Json.Received depth cell.toJson := by
  cases finite with
  | null => exact .null
  | integer n => exact (Cell.Plain.integer n).exact.received
  | float canonical => exact .double canonical
  | text s => exact .string s

def Table.Finite (table : Table) : Prop := ∀ row ∈ table.rows, ∀ entry ∈ row, entry.2.Finite

theorem Table.Finite.received (finite : Table.Finite table) :
    Json.Received Json.depthLimit table.toJson := by
  have columns : Json.Received 126 (.array (table.columns.map .string)) := by
    apply Json.Received.array
    rw [List.forall_mem_map]
    exact fun name _ => .string name
  have rows : Json.Received 126 (.array (table.rows.map Row.toJson)) := by
    apply Json.Received.array
    rw [List.forall_mem_map]
    intro row member
    apply Json.Received.object
    rw [List.forall_mem_map]
    exact fun entry inside => (finite row member entry inside).received
  apply Json.Received.object
  intro entry member
  simp only [List.mem_append, Option.mem_toList, Option.map_eq_some_iff, List.mem_cons,
    List.not_mem_nil, or_false] at member
  obtain ((rfl | rfl) | ⟨total, _, rfl⟩) | ⟨warning, _, rfl⟩ := member
  · exact columns
  · exact rows
  · exact (exact_total (some total)).received
  · exact .string warning

/-! Tables that were decoded. -/

namespace Response

open Json (Received)

theorem decode_cases (decoded : decode body = .ok table) :
    table = .empty ∨ ∃ set, Sends body set ∧ table = set.table := by
  unfold decode at decoded
  split at decoded
  · cases decoded
  next value rest read =>
  split at decoded
  · cases decoded
  next shape known =>
  split at decoded
  · cases decoded
  next ended =>
  have parsed : Json.parse body = .ok value := by
    simp only [Json.parse, read, ended, bind, Except.bind]
    rfl
  unfold Shape.reply at decoded
  split at decoded
  · cases decoded
  · exact .inl (Except.ok.inj decoded).symm
  next set others =>
  split at decoded
  · next clean =>
    refine .inr ⟨set, ⟨⟨value, others, parsed, known⟩, List.isEmpty_iff.mp clean⟩, ?_⟩
    exact (Except.ok.inj decoded).symm
  · cases decoded

theorem mem_field (found : field key entries = some (some value)) :
    ∃ entry ∈ entries, entry.2 = value := by
  unfold field at found
  split at found
  · cases found
  · next entry single =>
    have member : entry ∈ entries.filter (·.1 == key) := single ▸ List.mem_singleton_self entry
    exact ⟨entry, List.mem_of_mem_filter member, Option.some.inj (Option.some.inj found)⟩
  · cases found

theorem received_objects (received : ∀ v, value = some v → Received depth v)
    (known : objects value = some rows) :
    ∀ entries ∈ rows, ∀ entry ∈ entries, Received depth entry.2 := by
  unfold objects at known
  split at known
  · obtain rfl := Option.some.inj known
    exact nofun
  · next items =>
    intro entries member entry inside
    obtain ⟨item, within, settled⟩ := mem_mapM known entries member
    split at settled
    · obtain rfl := Option.some.inj settled
      cases received _ rfl with
      | array each =>
        have whole := (each _ within).settle.1
        rw [Json.settle] at whole
        exact (whole.of_mem inside).mono (Nat.le_succ _)
    · cases settled
  · cases known

theorem ResultSet.received_data {set : ResultSet} (received : Received depth value)
    (known : ofJson value = some set) :
    ∀ entries ∈ set.data, ∀ entry ∈ entries, Received depth entry.2 := by
  unfold ofJson at known
  split at known
  · obtain ⟨_, _, known⟩ := Option.bind_eq_some_iff.mp known
    obtain ⟨data, found, known⟩ := Option.bind_eq_some_iff.mp known
    obtain ⟨_, _, known⟩ := Option.bind_eq_some_iff.mp known
    obtain ⟨_, _, known⟩ := Option.bind_eq_some_iff.mp known
    obtain ⟨_, _, known⟩ := Option.bind_eq_some_iff.mp known
    refine received_objects (fun v same => ?_) (objects_data known)
    obtain ⟨entry, member, rfl⟩ := mem_field (same ▸ found)
    exact received.of_mem member
  · next items =>
    split at known
    · refine received_objects (fun v same => ?_) (objects_data known)
      cases received with
      | array each => exact (each v (List.mem_of_getElem? same)).mono (Nat.le_succ _)
    · cases known
  · cases known

theorem Sends.received_data {set : ResultSet} (sends : Sends body set) :
    ∀ entries ∈ set.data, ∀ entry ∈ entries, Received Json.depthLimit entry.2 := by
  obtain ⟨⟨value, others, parsed, shape⟩, _⟩ := sends
  obtain ⟨rest, read, _⟩ := Json.parse_inv parsed
  have received := Json.yields_readValue _ _ _ _ read
  unfold Shape.ofJson at shape
  split at shape
  · next items =>
    obtain ⟨sets, found, same⟩ := Option.map_eq_some_iff.mp shape
    obtain rfl := Shape.sets.inj same
    obtain ⟨item, member, here⟩ := mem_mapM found set List.mem_cons_self
    cases received with
    | array each => exact ResultSet.received_data ((each item member).mono (Nat.le_succ _)) here
  · split at shape
    · cases shape
    · cases shape
  · cases shape

theorem finite_cell (received : Received depth v) : (cell v).Finite := by
  cases received with
  | null => exact .null
  | bool b => exact .integer _
  | whole =>
    rw [cell]
    split
    · exact .integer _
    · exact .text _
  | double canonical => exact .float canonical
  | string s => exact .text s
  | array => exact .text _
  | object => exact .text _

theorem finite_row (names : List Text) (distinct : (entries.map Prod.fst).Nodup)
    (received : ∀ entry ∈ entries, Received depth entry.2) :
    ∀ entry ∈ row names entries, entry.2.Finite := by
  intro entry member
  obtain ⟨j, here⟩ := List.getElem?_of_mem member
  obtain ⟨keys, cells⟩ := row_cells names distinct
  have name : names[j]? = some entry.1 := by
    rw [← keys, List.getElem?_map, here, Option.map_some]
  have content := here.symm.trans (cells j entry.1 name)
  rw [congrArg Prod.snd (Option.some.inj content)]
  dsimp only
  split
  · exact .null
  cases found : Json.lookup entry.1 entries with
  | none => exact .null
  | some v =>
    have inside := (Json.lookup_eq_some_iff distinct).mp found
    exact finite_cell (received _ inside)

/-- Every double in a table that was decoded is finite. -/
theorem finite_decode (decoded : decode body = .ok table) : table.Finite := by
  obtain rfl | ⟨set, sends, rfl⟩ := decode_cases decoded
  · exact nofun
  · intro cells member
    obtain ⟨entries, inside, rfl⟩ := List.mem_map.mp member
    exact finite_row set.names (sends.distinct_data entries inside)
      (sends.received_data entries inside)

end Response

/-- The text is the table as JSON over indented lines. The table is read again from it, each double
as its digits are read, and with no double lost it is the table itself. -/
structure Shows (text : Text) (table : Table) : Prop where
  laid : text = table.toJson.pretty 0
  read : (Json.parse text).toOption = table.toJson.reread
  kept : Json.Kept table.toJson → (Json.parse text).toOption.bind Table.ofJson? = some table

theorem Table.Finite.shows (finite : Table.Finite table) :
    Shows (table.toJson.pretty 0) table := by
  have read := Json.lays_pretty.parse finite.received 0
  refine ⟨rfl, read, fun kept => ?_⟩
  rw [read, (Json.reread_eq_self_iff finite.received).mpr kept]
  exact table.ofJson?_toJson

end Subselect
