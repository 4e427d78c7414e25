import Subselect.Proofs.Columns

/-! Values as they are received. Whatever a reader takes for a value keeps within the limits of whole
numbers and of nesting, with finite doubles, and so does the same value with its keys made
distinct. -/
namespace Subselect.Json

open Binary64 (Canonical)

/-! Reading. -/

/-- What a reader gives is of a kind. -/
def Yields (read : Text → Reads α) (kind : α → Prop) : Prop :=
  ∀ t x rest, read t = .ok (x, rest) → kind x

theorem number_received (known : number negative digits fraction exponent = some v) :
    Received depth v := by
  obtain ⟨_, _, rfl, fits⟩ | ⟨_, _, rfl, canonical⟩ := number_cases known
  · cases negative with
    | false =>
      simp only [Bool.false_eq_true, if_false] at fits ⊢
      exact .whole (by simp only [Decimal.signedLimit]; omega) (by omega)
    | true =>
      simp only [if_true] at fits ⊢
      exact .whole (by omega) (by simp only [Decimal.wordLimit]; omega)
  · exact .double canonical

theorem yields_readNumber (negative : Bool) : Yields (readNumber negative) (Received depth) := by
  intro t v rest read
  obtain ⟨_, _, _, _, _, _, _, _, known⟩ := readNumber_parts read
  exact number_received known

theorem yields_readSequence {item : Text → Reads α} (items : Yields item kind) (fuel : Nat) :
    Yields (readSequence.go close atEnd other item fuel) fun xs => ∀ x ∈ xs, kind x := by
  induction fuel with
  | zero => exact nofun
  | succ fuel ih =>
    intro t xs rest read
    rw [readSequence.go] at read
    split at read
    · cases read
    · next x left first =>
      have here := items t x left first
      split at read
      · cases read
      split at read
      · cases read
        exact List.forall_mem_singleton.mpr here
      split at read
      · split at read
        · cases read
        split at read
        · cases read
        · obtain ⟨⟨others, _⟩, further, same⟩ := map_inv read
          cases same
          exact List.forall_mem_cons.mpr ⟨here, ih _ _ _ further⟩
      · cases read

theorem yields_readBody {item : Text → Reads α} (items : Yields item kind) :
    Yields (readBody close atEnd other item) fun xs => ∀ x ∈ xs, kind x := by
  intro t xs rest read
  rw [readBody] at read
  cases space : skipSpace t with
  | nil =>
    rw [space] at read
    cases read
  | cons c u =>
    simp only [space] at read
    by_cases closing : c = close
    · rw [if_pos closing] at read
      cases read
      exact List.forall_mem_nil kind
    · rw [if_neg closing] at read
      exact yields_readSequence items _ _ _ _ read

theorem yields_readEntry {value : Text → Reads Json} (values : Yields value kind) :
    Yields (readEntry value) fun entry => kind entry.2 := by
  intro t entry rest read
  unfold readEntry at read
  split at read
  · obtain ⟨⟨key, _⟩, _, second⟩ := bind_inv read
    obtain ⟨⟨_, t⟩, _, third⟩ := bind_inv second
    obtain ⟨⟨v, _⟩, here, last⟩ := bind_inv third
    cases last
    exact values _ _ _ here
  · cases read

theorem yields_readValue (depth : Nat) : Yields (readValue depth) (Received depth) := by
  induction depth using Nat.strongRecOn with
  | ind depth nested =>
  intro t v rest read
  rw [readValue] at read
  split at read
  · cases read
  split at read
  · exact readIdent_inv read ▸ .null
  split at read
  · exact readIdent_inv read ▸ .bool true
  split at read
  · exact readIdent_inv read ▸ .bool false
  split at read
  · exact yields_readNumber true _ _ _ read
  split at read
  · exact yields_readNumber false _ _ _ read
  split at read
  · obtain ⟨⟨s, _⟩, _, same⟩ := map_inv read
    cases same
    exact .string s
  split at read
  · cases depth with
    | zero => cases read
    | succ depth =>
      have values := nested depth (Nat.lt_succ_self depth)
      simp only at read
      split at read
      · obtain ⟨⟨items, _⟩, body, same⟩ := map_inv read
        cases same
        exact .array (yields_readBody values _ _ _ body)
      · obtain ⟨⟨entries, _⟩, body, same⟩ := map_inv read
        cases same
        exact .object (yields_readBody (yields_readEntry values) _ _ _ body)
  · cases read

/-! Settling. -/

/-- The keys of every object are distinct. -/
inductive Distinct : Json → Prop where
  | null : Distinct .null
  | bool (b : Bool) : Distinct (.bool b)
  | whole (n : Int) : Distinct (.whole n)
  | double (x : Binary64) : Distinct (.double x)
  | string (s : Text) : Distinct (.string s)
  | array : (∀ item ∈ items, Distinct item) → Distinct (.array items)
  | object : (entries.map Prod.fst).Nodup → (∀ entry ∈ entries, Distinct entry.2) →
      Distinct (.object entries)

theorem settleItems_eq (items : List Json) : settleItems items = items.map settle := by
  induction items with
  | nil => rfl
  | cons item more ih => rw [settleItems, ih, List.map_cons]

/-- Distinct keys are left alone. -/
theorem Distinct.settle_eq (distinct : Distinct v) : v.settle = v := by
  induction distinct with
  | null => rfl
  | bool => rfl
  | whole => rfl
  | double => rfl
  | string => rfl
  | array _ ih =>
    rw [settle, settleItems_eq, List.map_congr_left ih, List.map_id']
  | @object entries keys _ ih =>
    have same : settleEntries [] entries = entries := settleEntries_distinct keys ih
    rw [settle, same]

theorem mem_insert (member : entry ∈ insert key value entries) :
    entry = (key, value) ∨ entry ∈ entries := by
  induction entries with
  | nil => exact .inl (List.mem_singleton.mp member)
  | cons first more ih =>
    rw [insert] at member
    split at member
    · exact (List.mem_cons.mp member).imp_right (List.mem_cons_of_mem first)
    · rcases List.mem_cons.mp member with rfl | member
      · exact .inr List.mem_cons_self
      · exact (ih member).imp_right (List.mem_cons_of_mem first)

/-- Settled entries are entries of the object with their values settled. -/
theorem mem_settleEntries (member : entry ∈ settleEntries done entries) :
    entry ∈ done ∨ ∃ sent ∈ entries, entry = (sent.1, sent.2.settle) := by
  induction entries generalizing done with
  | nil => exact .inl (by rwa [settleEntries] at member)
  | cons first more ih =>
    obtain ⟨key, value⟩ := first
    rw [settleEntries] at member
    rcases ih member with inside | ⟨sent, further, rfl⟩
    · rcases mem_insert inside with rfl | inside
      · exact .inr ⟨(key, value), List.mem_cons_self, rfl⟩
      · exact .inl inside
    · exact .inr ⟨sent, List.mem_cons_of_mem _ further, rfl⟩

/-- A value that was read has distinct keys once it is settled, and keeps within its limits. -/
theorem Received.settle (received : Received depth v) :
    Received depth v.settle ∧ Distinct v.settle := by
  induction received with
  | null => exact ⟨.null, .null⟩
  | bool b => exact ⟨.bool b, .bool b⟩
  | whole low high => exact ⟨.whole low high, .whole _⟩
  | double canonical => exact ⟨.double canonical, .double _⟩
  | string s => exact ⟨.string s, .string s⟩
  | array _ ih =>
    rw [Json.settle, settleItems_eq]
    refine ⟨.array ?_, .array ?_⟩
    all_goals rw [List.forall_mem_map]
    · exact fun item member => (ih item member).1
    · exact fun item member => (ih item member).2
  | @object entries depth _ ih =>
    have each : ∀ entry ∈ settleEntries [] entries, Received depth entry.2 ∧ Distinct entry.2 := by
      intro entry member
      obtain inside | ⟨sent, here, rfl⟩ := mem_settleEntries member
      · cases inside
      · exact ih sent here
    rw [Json.settle]
    exact ⟨.object fun entry member => (each entry member).1,
      .object (distinct_settleEntries entries List.nodup_nil)
        fun entry member => (each entry member).2⟩

end Subselect.Json
