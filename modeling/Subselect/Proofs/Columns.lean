import Subselect.Proofs.Integers

/-! Which value a cell is decoded from. Entries have distinct keys once they are settled, so a
value that is taken out moves no other one to another key: a row finds under each name what was sent
under it, as long as the header lists no name again. -/
namespace Subselect

namespace Json

theorem lookup_eq_none_iff {entries : List (Text × Json)} :
    lookup key entries = none ↔ key ∉ entries.map Prod.fst := by
  rw [lookup, Option.map_eq_none_iff, List.find?_eq_none, List.mem_map]
  simp only [beq_iff_eq, not_exists, not_and]

theorem lookup_eq_some_iff {entries : List (Text × Json)}
    (distinct : (entries.map Prod.fst).Nodup) :
    lookup key entries = some value ↔ (key, value) ∈ entries := by
  induction entries with
  | nil => simp [lookup]
  | cons entry more ih =>
    obtain ⟨fresh, distinct⟩ := List.nodup_cons.mp distinct
    by_cases same : entry.1 = key
    · have absent : (key, value) ∉ more := fun member =>
        fresh (same ▸ List.mem_map_of_mem member)
      have first : lookup key (entry :: more) = some entry.2 := by simp [lookup, same]
      rw [first, Option.some.injEq, List.mem_cons, or_iff_left absent, ← same]
      exact ⟨fun h => h ▸ rfl, fun h => h ▸ rfl⟩
    · have further : lookup key (entry :: more) = lookup key more := by simp [lookup, same]
      have other : (key, value) ≠ entry := fun h => same (h ▸ rfl)
      rw [further, ih distinct, List.mem_cons, or_iff_right other]

theorem swapRemove_absent (absent : lookup key entries = none) :
    swapRemove key entries = (none, entries) := by
  have fresh : ∀ entry ∈ entries, (entry.1 == key) = false := fun entry member =>
    beq_false_of_ne fun same => lookup_eq_none_iff.mp absent (same ▸ List.mem_map_of_mem member)
  rw [swapRemove, List.findIdx?_eq_none_iff.mpr fresh]

/-- Taking a key out changes the value of no other one, wherever its entry goes. -/
theorem lookup_swapRemove (distinct : (entries.map Prod.fst).Nodup) (key : Text) :
    ((swapRemove key entries).2.map Prod.fst).Nodup ∧
      ∀ other, lookup other (swapRemove key entries).2 =
        if other = key then none else lookup other entries := by
  cases found : lookup key entries with
  | none =>
    rw [swapRemove_absent found]
    refine ⟨distinct, fun other => ?_⟩
    split
    · next same => rw [same, found]
    · rfl
  | some value =>
    have member := (lookup_eq_some_iff distinct).mp found
    obtain ⟨others, removed, perm⟩ := swapRemove_perm distinct member
    obtain ⟨fresh, left⟩ := List.nodup_cons.mp ((perm.map Prod.fst).nodup_iff.mp distinct)
    rw [removed]
    refine ⟨left, fun other => ?_⟩
    split
    · next same => rwa [same, lookup_eq_none_iff]
    · next differ =>
      ext v
      rw [lookup_eq_some_iff left, lookup_eq_some_iff distinct, perm.mem_iff, List.mem_cons,
        Prod.mk.injEq, or_iff_right fun here => differ here.1]

theorem distinct_insert (distinct : (entries.map Prod.fst).Nodup) (key : Text) (value : Json) :
    ((insert key value entries).map Prod.fst).Nodup := by
  by_cases member : key ∈ entries.map Prod.fst
  · have keys : (insert key value entries).map Prod.fst = entries.map Prod.fst := by
      clear distinct
      induction entries with
      | nil => cases member
      | cons entry more ih =>
        by_cases same : entry.1 = key
        · rw [insert, if_pos same, List.map_cons, List.map_cons, same]
        · have further := (List.mem_cons.mp member).resolve_left (Ne.symm same)
          rw [insert, if_neg same, List.map_cons, List.map_cons, ih further]
    rwa [keys]
  · rw [insert_fresh member, List.map_append, List.nodup_append]
    refine ⟨distinct, List.nodup_singleton key, ?_⟩
    rintro other inside _ (h : _ ∈ [key]) rfl
    exact member (List.mem_singleton.mp h ▸ inside)

theorem distinct_settleEntries (entries : List (Text × Json))
    (distinct : (done.map Prod.fst).Nodup) :
    ((settleEntries done entries).map Prod.fst).Nodup := by
  induction entries generalizing done with
  | nil => rwa [settleEntries]
  | cons entry more ih =>
    rw [settleEntries]
    exact ih (distinct_insert distinct _ _)

end Json

namespace Response

theorem row_cons (name : Text) (names : List Text) (entries : Entries) :
    row (name :: names) entries = (name, ((Json.lookup name entries).map cell).getD .null) ::
      row names (Json.swapRemove name entries).2 := by
  rw [← Json.swapRemove_fst]
  rfl

/-- What a row holds: under a name that is listed for the first time the value sent under it. -/
theorem row_cells (names : List Text) (distinct : (entries.map Prod.fst).Nodup) :
    (row names entries).map Prod.fst = names ∧
      ∀ j name, names[j]? = some name → (row names entries)[j]? =
        some (name, if name ∈ names.take j then .null
          else ((Json.lookup name entries).map cell).getD .null) := by
  induction names generalizing entries with
  | nil => exact ⟨rfl, nofun⟩
  | cons first names ih =>
    obtain ⟨left, others⟩ := Json.lookup_swapRemove distinct first
    obtain ⟨keys, cells⟩ := ih left
    rw [row_cons]
    refine ⟨congrArg (first :: ·) keys, fun j name here => ?_⟩
    cases j with
    | zero =>
      obtain rfl := Option.some.inj here
      rfl
    | succ j =>
      have behind := cells j name here
      rw [List.getElem?_cons_succ, behind, List.take_succ_cons, others name]
      by_cases same : name = first
      · simp [same]
      · simp [same]

/-! The data objects of a result set. -/

theorem mem_mapM {f : α → Option β} {xs : List α} {ys : List β} (h : xs.mapM f = some ys) :
    ∀ y ∈ ys, ∃ x ∈ xs, f x = some y := by
  induction xs generalizing ys with
  | nil =>
    obtain rfl := Option.some.inj h
    exact nofun
  | cons x more ih =>
    rw [List.mapM_cons] at h
    obtain ⟨first, here, h⟩ := Option.bind_eq_some_iff.mp h
    obtain ⟨others, rest, h⟩ := Option.bind_eq_some_iff.mp h
    obtain rfl := Option.some.inj h
    intro y member
    rcases List.mem_cons.mp member with rfl | member
    · exact ⟨x, List.mem_cons_self, here⟩
    · obtain ⟨x', inside, found⟩ := ih rest y member
      exact ⟨x', List.mem_cons_of_mem _ inside, found⟩

/-- The entries of each object have been settled. -/
theorem distinct_objects (h : objects value = some rows) :
    ∀ entries ∈ rows, (entries.map Prod.fst).Nodup := by
  unfold objects at h
  split at h
  · obtain rfl := Option.some.inj h
    exact nofun
  · intro entries member
    obtain ⟨item, _, settled⟩ := mem_mapM h entries member
    split at settled
    · obtain rfl := Option.some.inj settled
      exact Json.distinct_settleEntries _ List.nodup_nil
    · cases settled
  · cases h

namespace ResultSet

theorem objects_data {names rows count failure note : Option Json} {set : ResultSet}
    (h : ofFields names rows count failure note = some set) : objects rows = some set.data := by
  obtain ⟨_, _, h⟩ := Option.bind_eq_some_iff.mp h
  obtain ⟨_, settled, h⟩ := Option.bind_eq_some_iff.mp h
  obtain ⟨_, _, h⟩ := Option.bind_eq_some_iff.mp h
  obtain ⟨_, _, h⟩ := Option.bind_eq_some_iff.mp h
  obtain ⟨_, _, h⟩ := Option.bind_eq_some_iff.mp h
  obtain rfl := Option.some.inj h
  exact settled

theorem distinct_data {set : ResultSet} (h : ofJson value = some set) :
    ∀ entries ∈ set.data, (entries.map Prod.fst).Nodup := by
  unfold ofJson at h
  split at h
  · obtain ⟨_, _, h⟩ := Option.bind_eq_some_iff.mp h
    obtain ⟨_, _, h⟩ := Option.bind_eq_some_iff.mp h
    obtain ⟨_, _, h⟩ := Option.bind_eq_some_iff.mp h
    obtain ⟨_, _, h⟩ := Option.bind_eq_some_iff.mp h
    obtain ⟨_, _, h⟩ := Option.bind_eq_some_iff.mp h
    exact distinct_objects (objects_data h)
  · split at h
    · exact distinct_objects (objects_data h)
    · cases h
  · cases h

end ResultSet

theorem Sends.distinct_data {set : ResultSet} (sends : Sends body set) :
    ∀ entries ∈ set.data, (entries.map Prod.fst).Nodup := by
  obtain ⟨⟨value, others, _, shape⟩, _⟩ := sends
  unfold Shape.ofJson at shape
  split at shape
  · obtain ⟨sets, received, same⟩ := Option.map_eq_some_iff.mp shape
    obtain rfl := Shape.sets.inj same
    obtain ⟨item, _, here⟩ := mem_mapM received set List.mem_cons_self
    exact ResultSet.distinct_data here
  · split at shape
    · cases shape
    · cases shape
  · cases shape

/-- The cells of a table that was decoded. There is a row for each data object, in their order; its
cells stand under the names in the order of the header. A cell is the value sent under its name, and
null only if there is none, except that a name listed again finds its value used up. -/
theorem decode_cells {set : ResultSet} (sends : Sends body set) :
    ∃ table, decode body = .ok table ∧ table.columns = set.names ∧
      table.rows.length = set.data.length ∧
      ∀ (i : Nat) (entries : Entries), set.data[i]? = some entries →
        ∃ cells : Row, table.rows[i]? = some cells ∧ cells.map Prod.fst = set.names ∧
          ∀ j name, set.names[j]? = some name →
            cells[j]? = some (name, if name ∈ set.names.take j then .null
              else ((Json.lookup name entries).map cell).getD .null) := by
  refine ⟨set.table, decode_sends sends, rfl, List.length_map .., fun i entries here => ?_⟩
  obtain ⟨keys, cells⟩ :=
    row_cells set.names (sends.distinct_data entries (List.mem_of_getElem? here))
  refine ⟨row set.names entries, ?_, keys, cells⟩
  rw [ResultSet.table, List.getElem?_map, here, Option.map_some]

/-- Two data objects with their keys in different orders, one key of the header missing in each, and
one that the header does not list. -/
def unordered : List Entries :=
  [[(['a'], .whole 1), (['b'], .string ['x'])],
    [(['c'], .null), (['d'], .whole 2), (['b'], .bool true)]]

theorem sends_unordered (names : List Text) :
    Sends (listedJson names unordered).compact (listed names unordered) := by
  apply sends_listed
  · simp only [unordered, List.forall_mem_cons]
    exact ⟨⟨.whole (by decide) (by decide), .string _, nofun⟩,
      ⟨.null, .whole (by decide) (by decide), .bool _, nofun⟩, nofun⟩
  · simp only [unordered, List.forall_mem_cons]
    exact ⟨rfl, rfl, nofun⟩

theorem decode_cells_unordered :
    Sends (listedJson [['b'], ['a'], ['b'], ['c']] unordered).compact
        (listed [['b'], ['a'], ['b'], ['c']] unordered) ∧
      ∃ table cells,
        decode (listedJson [['b'], ['a'], ['b'], ['c']] unordered).compact = .ok table ∧
        table.rows[1]? = some cells ∧ cells[0]? = some (['b'], .integer 1) ∧
        cells[1]? = some (['a'], .null) ∧ cells[2]? = some (['b'], .null) := by
  have sends := sends_unordered [['b'], ['a'], ['b'], ['c']]
  obtain ⟨table, decoded, _, _, each⟩ := decode_cells sends
  obtain ⟨cells, row, _, all⟩ := each 1 _ rfl
  exact ⟨sends, table, cells, decoded, row, all 0 _ rfl, all 1 _ rfl, all 2 _ rfl⟩

/-- A header that lists a name twice: the second cell is null, although a value was sent under its
name. -/
theorem decode_repeated_name :
    (listedJson [['a'], ['a']] [[(['a'], .whole 1)]]).compact =
        ("[\x7b\"columns\":[\x7b\"a\":\x7b\x7d\x7d,\x7b\"a\":\x7b\x7d\x7d]," ++
          "\"data\":[\x7b\"a\":1\x7d]\x7d]").toList ∧
      Sends (listedJson [['a'], ['a']] [[(['a'], .whole 1)]]).compact
        (listed [['a'], ['a']] [[(['a'], .whole 1)]]) ∧
      decode (listedJson [['a'], ['a']] [[(['a'], .whole 1)]]).compact =
        .ok ⟨[['a'], ['a']], [[(['a'], .integer 1), (['a'], .null)]], none, none⟩ ∧
      Json.lookup ['a'] [(['a'], .whole 1)] = some (.whole 1) ∧ cell (.whole 1) ≠ .null := by
  have sends : Sends (listedJson [['a'], ['a']] [[(['a'], .whole 1)]]).compact
      (listed [['a'], ['a']] [[(['a'], .whole 1)]]) := by
    apply sends_listed
    · simp only [List.forall_mem_singleton]
      exact .whole (by decide) (by decide)
    · rw [List.forall_mem_singleton]
      rfl
  exact ⟨rfl, sends, decode_sends sends, rfl, by decide⟩

end Response
end Subselect
