import Subselect.Proofs.Rereading

/-! Values are read again from their text, be it compact or over indented lines. -/
namespace Subselect.Json

def isLeaf : Json → Bool
  | array _ | object _ => false
  | _ => true

/-- Layouts of values differ in the white space between tokens only. -/
structure Lays (write : Nat → Json → Text) : Prop where
  leaf : ∀ level v, isLeaf v = true → write level v = compact v
  array : ∀ level items, ∃ a b, Gap a ∧ Gap b ∧ write level (.array items) =
    '[' :: (Text.join [','] (items.map fun item => a ++ write (level + 1) item) ++ (b ++ [']']))
  object : ∀ level entries, ∃ a b c, Gap a ∧ Gap b ∧ Gap c ∧ write level (.object entries) =
    '\x7b' :: (Text.join [','] (entries.map fun entry =>
      a ++ (quote entry.1 ++ ':' :: (b ++ write (level + 1) entry.2))) ++ (c ++ ['\x7d']))

namespace Lays

theorem opens (lays : Lays write) (received : Received depth v) (level : Nat) :
    Opens (write level v) := by
  cases received with
  | null =>
    rw [lays.leaf level _ rfl]
    exact ⟨'n', _, rfl, by decide⟩
  | bool b =>
    rw [lays.leaf level _ rfl]
    cases b <;> exact ⟨_, _, rfl, by decide⟩
  | @whole n =>
    rw [lays.leaf level _ rfl]
    cases n with
    | ofNat n => exact opens_ofNat n
    | negSucc n => exact ⟨'-', _, rfl, by decide⟩
  | double canonical =>
    rw [lays.leaf level _ rfl]
    exact opens_doubleText _ canonical
  | string s =>
    rw [lays.leaf level _ rfl]
    exact opens_quote s
  | array =>
    obtain ⟨_, _, _, _, text⟩ := lays.array level _
    rw [text]
    exact ⟨'[', _, rfl, by decide⟩
  | object =>
    obtain ⟨_, _, _, _, _, _, text⟩ := lays.object level _
    rw [text]
    exact ⟨'\x7b', _, rfl, by decide⟩

/-- A value is read from its text in any layout, with what follows left over. -/
theorem readValue (lays : Lays write) (received : Received depth v) (level : Nat)
    (stops : Stops t) :
    (Json.readValue depth (write level v ++ t)).toOption = v.reread.map (·, t) := by
  induction received generalizing level t with
  | null =>
    rw [lays.leaf level _ rfl, Json.readValue]
    rfl
  | bool b =>
    rw [lays.leaf level _ rfl]
    cases b <;> (rw [Json.readValue]; rfl)
  | whole low high =>
    rw [lays.leaf level _ rfl, compact, readValue_ofInt _ low high stops]
    rfl
  | @double _ _ _ negative canonical =>
    rw [lays.leaf level _ rfl]
    exact readValue_doubleText negative canonical stops _
  | string s =>
    rw [lays.leaf level _ rfl, compact, readValue_quote]
    rfl
  | @array items depth received ih =>
    obtain ⟨a, b, before, behind, text⟩ := lays.array level items
    have each : List.Forall₂ (Gives (Json.readValue depth))
        (items.map fun item => a ++ write (level + 1) item) (items.map reread) := by
      rw [List.forall₂_map_left_iff, List.forall₂_map_right_iff, List.forall₂_same]
      intro item member
      exact gives_of_reads before (lays.opens (received item member) _)
        fun more stops => ih item member _ stops
    rw [text, List.cons_append, List.append_assoc, List.append_assoc, List.singleton_append,
      readValue_array each behind t, reread, rereadItems_eq]
  | @object entries depth received ih =>
    obtain ⟨a, b, c, before, between, behind, text⟩ := lays.object level entries
    have each : List.Forall₂ (Gives (readEntry (Json.readValue depth)))
        (entries.map fun entry => a ++ (quote entry.1 ++ ':' :: (b ++ write (level + 1) entry.2)))
        (entries.map rereadEntry) := by
      rw [List.forall₂_map_left_iff, List.forall₂_map_right_iff, List.forall₂_same]
      intro entry member
      rw [rereadEntry_eq]
      exact gives_of_reads before ((opens_quote entry.1).append _)
        fun more stops => readEntry_quote entry.1 between (ih entry member _ stops)
    rw [text, List.cons_append, List.append_assoc, List.append_assoc, List.singleton_append,
      readValue_object each behind t, reread, rereadEntries_eq]

theorem parse (lays : Lays write) (received : Received depthLimit v) (level : Nat) :
    (Json.parse (write level v)).toOption = v.reread := by
  have whole := lays.readValue received level stops_nil
  rw [List.append_nil] at whole
  exact parse_of_read whole

end Lays

/-! Compact text. -/

theorem compactItems_eq (items : List Json) :
    compactItems items = Text.join [','] (items.map compact) := by
  induction items with
  | nil => rfl
  | cons item more ih =>
    cases more with
    | nil => rfl
    | cons next more => rw [compactItems, ih]; simp [Text.join]

theorem compactEntry_eq (entry : Text × Json) :
    compactEntry entry = quote entry.1 ++ ':' :: compact entry.2 := by
  rw [← entry.eta, compactEntry]

theorem compactEntries_eq (entries : List (Text × Json)) :
    compactEntries entries = Text.join [','] (entries.map compactEntry) := by
  induction entries with
  | nil => rfl
  | cons entry more ih =>
    cases more with
    | nil => rfl
    | cons next more => rw [compactEntries, ih]; simp [Text.join]

theorem lays_compact : Lays fun _ => compact where
  leaf _ _ _ := rfl
  array _ items := ⟨[], [], gap_nil, gap_nil, by rw [compact, compactItems_eq]; rfl⟩
  object _ entries := ⟨[], [], [], gap_nil, gap_nil, gap_nil, by
    rw [compact, compactEntries_eq, funext compactEntry_eq]; rfl⟩

/-! Text over indented lines. -/

theorem gap_newline (level : Nat) : Gap (newline level) := by
  intro c member
  rw [newline, List.mem_cons] at member
  obtain rfl | member := member
  · rfl
  · rw [List.eq_of_mem_replicate member]
    rfl

theorem prettyItems_eq (level : Nat) (item : Json) (more : List Json) :
    newline level ++ pretty level item ++ prettyItems level more =
      Text.join [','] ((item :: more).map fun item => newline level ++ pretty level item) := by
  induction more generalizing item with
  | nil => simp [prettyItems, Text.join]
  | cons next more ih =>
    rw [prettyItems, ih]
    simp [Text.join]

theorem prettyEntry_eq (level : Nat) (entry : Text × Json) :
    prettyEntry level entry = quote entry.1 ++ ':' :: ' ' :: pretty level entry.2 := by
  rw [← entry.eta, prettyEntry]

theorem prettyEntries_eq (level : Nat) (entry : Text × Json) (more : List (Text × Json)) :
    newline level ++ prettyEntry level entry ++ prettyEntries level more =
      Text.join [',']
        ((entry :: more).map fun entry => newline level ++ prettyEntry level entry) := by
  induction more generalizing entry with
  | nil => simp [prettyEntries, Text.join]
  | cons next more ih =>
    rw [prettyEntries, ih]
    simp [Text.join]

theorem lays_pretty : Lays pretty where
  leaf level v leaf := by
    cases v with
    | array => cases leaf
    | object => cases leaf
    | _ => simp only [pretty, compact]
  array level items := by
    cases items with
    | nil => exact ⟨[], [], gap_nil, gap_nil, by rw [pretty]; rfl⟩
    | cons item more =>
      refine ⟨newline (level + 1), newline level, gap_newline _, gap_newline _, ?_⟩
      rw [pretty, prettyItems_eq, List.append_assoc]
  object level entries := by
    cases entries with
    | nil => exact ⟨[], [], [], gap_nil, gap_nil, gap_nil, by rw [pretty]; rfl⟩
    | cons entry more =>
      have space : Gap [' '] := List.forall_mem_singleton.mpr rfl
      refine ⟨newline (level + 1), [' '], newline level, gap_newline _, space, gap_newline _, ?_⟩
      rw [pretty, prettyEntries_eq, List.append_assoc, funext (prettyEntry_eq (level + 1))]
      rfl

/-- A value is read back from its compact text if every double in it is kept. -/
theorem Kept.parse_compact (kept : Kept v) (received : Received depthLimit v) :
    Json.parse (compact v) = .ok v := by
  have read := lays_compact.parse received 0
  rw [(reread_eq_self_iff received).mpr kept] at read
  exact toOption_eq_some_iff.mp read

/-! Values without doubles. -/

/-- Values that keep within the limits of whole numbers and of nesting, and hold no doubles. -/
inductive Exact : Nat → Json → Prop where
  | null : Exact depth .null
  | bool (b : Bool) : Exact depth (.bool b)
  | whole : -(Decimal.signedLimit : Int) ≤ n → n < Decimal.wordLimit → Exact depth (.whole n)
  | string (s : Text) : Exact depth (.string s)
  | array : (∀ item ∈ items, Exact depth item) → Exact (depth + 1) (.array items)
  | object : (∀ entry ∈ entries, Exact depth entry.2) → Exact (depth + 1) (.object entries)

theorem Exact.received (exact : Exact depth v) : Received depth v := by
  induction exact with
  | null => exact .null
  | bool b => exact .bool b
  | whole low high => exact .whole low high
  | string s => exact .string s
  | array _ ih => exact .array ih
  | object _ ih => exact .object ih

theorem Exact.kept (exact : Exact depth v) : Kept v := by
  induction exact with
  | null => exact .null
  | bool b => exact .bool b
  | whole => exact .whole _
  | string s => exact .string s
  | array _ ih => exact .array ih
  | object _ ih => exact .object ih

/-- A value is read back from its compact text, with what follows left over. -/
theorem readValue_compact (exact : Exact depth v) (stops : Stops t) :
    readValue depth (compact v ++ t) = .ok (v, t) := by
  have read := lays_compact.readValue exact.received 0 stops
  rw [(reread_eq_self_iff exact.received).mpr exact.kept] at read
  exact toOption_eq_some_iff.mp read

theorem read_compact (exact : Exact depthLimit v) : read (compact v) = .ok (v, []) := by
  have whole := readValue_compact exact stops_nil
  rwa [List.append_nil] at whole

/-- The compact text of a value makes up that value alone. -/
theorem parse_compact (exact : Exact depthLimit v) : parse (compact v) = .ok v :=
  exact.kept.parse_compact exact.received

end Subselect.Json
