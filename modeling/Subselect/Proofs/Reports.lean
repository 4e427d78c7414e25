import Subselect.Proofs.Received

/-! What is reported of a failure. An error value that is no text, and has no text for a reason, is
shown as compact text, from which it is read again with each double as its digits are read, unless
it is an object with a reason of another kind: that entry is lost, and the last one stands in its
place. -/
namespace Subselect.Response

open Json (Distinct Exact Kept Nearest Received Short lays_compact reread_eq_self_iff)

/-- A body that is an object with one `error`, whatever else is in it. -/
structure Reports (body : Text) (sent : Json) : Prop where
  received : ∃ entries, Json.parse body = .ok (.object entries) ∧
    entries.filter (·.1 == "error".toList) = [("error".toList, sent)]

/-- What the message of an error value keeps of it. -/
structure Tells (value : Json) (message : Text) : Prop where
  text : ∀ s, value = .string s → message = s
  reason : ∀ entries s, value = .object entries →
    Json.lookup "reason".toList entries = some (.string s) → message = s
  whole : (∀ s, value ≠ .string s) →
    (∀ entries, value = .object entries → Json.lookup "reason".toList entries = none) →
    message = value.compact ∧ (Json.parse message).toOption = value.reread ∧
      (Json.parse message = .ok value ↔ Kept value) ∧
      (Short value → Json.parse message = .ok value) ∧ Nearest value
  loss : ∀ front x behind, value = .object (front ++ ("reason".toList, x) :: behind) →
    (∀ s, x ≠ .string s) →
    message = (Json.object (front ++ behind.rotateRight)).compact ∧
      (Json.parse message).toOption = (Json.object (front ++ behind.rotateRight)).reread ∧
      Json.parse message ≠ .ok value

theorem decode_sent (reports : Reports body sent) :
    decode body = .error (.query (errorMessage sent.settle)) := by
  obtain ⟨entries, parsed, single⟩ := reports.received
  obtain ⟨rest, read, ended⟩ := Json.parse_inv parsed
  have shape : Shape.ofJson (.object entries) = some (.failure sent.settle) := by
    rw [Shape.ofJson, field, single]
  rw [decode, read]
  simp only [shape, ended, Shape.reply]

theorem received_sent (reports : Reports body sent) : Received Json.depthLimit sent := by
  obtain ⟨entries, parsed, single⟩ := reports.received
  obtain ⟨rest, read, _⟩ := Json.parse_inv parsed
  have member : ("error".toList, sent) ∈ entries := by
    apply List.mem_of_mem_filter
    rw [single]
    exact List.mem_singleton_self _
  exact (Json.yields_readValue _ _ _ _ read).of_mem member

theorem errorMessage_reason (found : Json.lookup "reason".toList entries = some (.string s)) :
    errorMessage (.object entries) = s := by
  have removed := Json.swapRemove_fst "reason".toList entries
  rw [found] at removed
  rw [errorMessage]
  generalize Json.swapRemove "reason".toList entries = result at removed ⊢
  obtain ⟨_, others⟩ := result
  cases removed
  rfl

theorem errorMessage_whole (other : ∀ s, value ≠ .string s)
    (none : ∀ entries, value = .object entries → Json.lookup "reason".toList entries = none) :
    errorMessage value = value.compact := by
  cases value with
  | string s => exact absurd rfl (other s)
  | object entries => rw [errorMessage, Json.swapRemove_absent (none entries rfl)]
  | null => rfl
  | bool => rfl
  | whole => rfl
  | double => rfl
  | array => rfl

theorem errorMessage_split (fresh : "reason".toList ∉ front.map Prod.fst)
    (other : ∀ s, x ≠ .string s) :
    errorMessage (.object (front ++ ("reason".toList, x) :: behind)) =
      (Json.object (front ++ behind.rotateRight)).compact := by
  rw [errorMessage, Json.swapRemove_split fresh]
  split
  · next same =>
    cases same
    exact absurd rfl (other _)
  · next same =>
    cases same
    rfl

/-- The message of an error value with distinct keys. -/
theorem tells_errorMessage (received : Received Json.depthLimit value) (distinct : Distinct value) :
    Tells value (errorMessage value) := by
  refine ⟨?_, ?_, ?_, ?_⟩
  · rintro s rfl
    rfl
  · rintro entries s rfl found
    exact errorMessage_reason found
  · intro other none
    have shown := errorMessage_whole other none
    have read := lays_compact.parse received 0
    rw [← shown] at read
    have same : Json.parse (errorMessage value) = .ok value ↔ Kept value := by
      rw [← toOption_eq_some_iff, read]
      exact reread_eq_self_iff received
    exact ⟨shown, read, same, fun short => same.mpr (short.kept received), received.nearest⟩
  · rintro front x behind rfl other
    have fresh : "reason".toList ∉ front.map Prod.fst := by
      cases distinct with
      | object keys =>
        rw [List.map_append, List.nodup_append] at keys
        exact fun member => keys.2.2 _ member _ List.mem_cons_self rfl
    have part : front ++ behind.rotateRight ⊆ front ++ ("reason".toList, x) :: behind := by
      have rotated : behind.rotateRight ⊆ behind := (Json.rotateRight_perm behind).subset
      exact List.append_subset.mpr ⟨List.subset_append_left _ _,
        fun entry member => List.mem_append_right _ (List.mem_cons_of_mem _ (rotated member))⟩
    have shown : errorMessage (.object (front ++ ("reason".toList, x) :: behind)) =
        (Json.object (front ++ behind.rotateRight)).compact := errorMessage_split fresh other
    have read := lays_compact.parse (received.subset part) 0
    rw [← shown] at read
    refine ⟨shown, read, fun same => ?_⟩
    rw [← toOption_eq_some_iff, read] at same
    have count := Json.length_of_reread same
    rw [List.length_append, List.length_append, (Json.rotateRight_perm behind).length_eq,
      List.length_cons] at count
    omega

/-- A body that is an object with one `error` is a failure of the query, and the message is made of
the error value as it was sent, its keys made distinct if they were not: a text or the text under
`reason` is the message, and any other value is read back from it, each double as its digits are
read, except that an object with a reason that is no text comes back without the reason and with its
last entry in that place. -/
theorem decode_reports (reports : Reports body sent) :
    ∃ message, decode body = .error (.query message) ∧ Tells sent.settle message ∧
      Distinct sent.settle ∧ (Distinct sent → sent.settle = sent) := by
  obtain ⟨received, distinct⟩ := (received_sent reports).settle
  exact ⟨errorMessage sent.settle, decode_sent reports, tells_errorMessage received distinct,
    distinct, Distinct.settle_eq⟩

/-- An object with an `error` alone. -/
def withError (sent : Json) : Json := .object [("error".toList, sent)]

theorem reports_withError (received : Received 126 sent) (kept : Kept sent) :
    Reports (withError sent).compact sent := by
  have whole : Received Json.depthLimit (withError sent) := by
    apply Received.object
    exact List.forall_mem_singleton.mpr received
  have same : Kept (withError sent) := by
    apply Json.Doubles.object
    exact List.forall_mem_singleton.mpr kept
  exact ⟨_, same.parse_compact whole, rfl⟩

/-- An error with a reason deep inside, a fraction and a negative zero. -/
def nested : Json :=
  .object [("type".toList, .object [("reason".toList, .null)]),
    ("at".toList, .array [.double (.finite false 7205759403792794 1018), .double (.zero true)])]

theorem received_nested : Received 126 nested := by
  have tenth : Binary64.Canonical 7205759403792794 1018 := ⟨by decide, .inr (by decide), by decide⟩
  apply Received.object
  simp only [List.forall_mem_cons]
  refine ⟨.object ?_, .array ?_, nofun⟩
  · simp only [List.forall_mem_cons]
    exact ⟨.null, nofun⟩
  · simp only [List.forall_mem_cons]
    exact ⟨.double tenth, .double Binary64.canonical_zero, nofun⟩

theorem short_nested : Short nested := by
  have tenth : (Decimal.written 7205759403792794 1018).Short := by
    rw [show Decimal.written 7205759403792794 1018 = ⟨1, -1⟩ by decide +kernel]
    exact ⟨by decide, by decide⟩
  apply Json.Doubles.object
  simp only [List.forall_mem_cons]
  refine ⟨.object ?_, .array ?_, nofun⟩
  · simp only [List.forall_mem_cons]
    exact ⟨.null, nofun⟩
  · simp only [List.forall_mem_cons]
    refine ⟨.double ?_, .double ?_, nofun⟩
    · rintro _ _ _ ⟨⟩
      exact tenth
    · rintro _ _ _ ⟨⟩
      exact ⟨by decide, by decide⟩

theorem decode_reports_nested :
    (withError nested).compact = ("\x7b\"error\":\x7b\"type\":\x7b\"reason\":null\x7d," ++
        "\"at\":[0.1,-0.0]\x7d\x7d").toList ∧
      Reports (withError nested).compact nested ∧
      ∃ message, decode (withError nested).compact = .error (.query message) ∧
        message = nested.compact ∧ Json.parse message = .ok nested := by
  have reports := reports_withError received_nested (short_nested.kept received_nested)
  obtain ⟨message, decoded, tells, _⟩ := decode_reports reports
  have settled : nested.settle = nested := rfl
  rw [settled] at tells
  obtain ⟨shown, _, _, same, _⟩ := tells.whole nofun (by rintro _ ⟨⟩; rfl)
  exact ⟨by decide +kernel, reports, message, decoded, shown, same short_nested⟩

/-- A double of many digits is shown with them and may be read as another. -/
example : decode "\x7b\"error\":[31.2452701914394380]\x7d".toList =
      .error (.query "[31.245270191439438]".toList) ∧
    (Json.parse "[31.245270191439438]".toList).toOption.map Json.compact =
      some "[31.24527019143944]".toList := by
  decide +kernel

/-- An object whose reason is no text, and the object that its message is the text of. -/
def reasonless : Json :=
  .object [(['a'], .whole 1), ("reason".toList, .null), (['b'], .whole 2), (['c'], .whole 3)]

def reasonLost : Json := .object [(['a'], .whole 1), (['c'], .whole 3), (['b'], .whole 2)]

theorem decode_reasonless :
    (withError reasonless).compact =
        ("\x7b\"error\":\x7b\"a\":1,\"reason\":null,\"b\":2,\"c\":3\x7d\x7d").toList ∧
      Reports (withError reasonless).compact reasonless ∧ Distinct reasonless ∧
      decode (withError reasonless).compact =
        .error (.query "\x7b\"a\":1,\"c\":3,\"b\":2\x7d".toList) ∧
      Json.parse "\x7b\"a\":1,\"c\":3,\"b\":2\x7d".toList = .ok reasonLost ∧
      reasonLost ≠ reasonless := by
  have keys : ∀ entry ∈ [(['a'], Json.whole 1), ("reason".toList, .null), (['b'], .whole 2),
      (['c'], .whole 3)], Exact 125 entry.2 ∧ Distinct entry.2 := by
    simp only [List.forall_mem_cons]
    exact ⟨⟨.whole (by decide) (by decide), .whole 1⟩, ⟨.null, .null⟩,
      ⟨.whole (by decide) (by decide), .whole 2⟩, ⟨.whole (by decide) (by decide), .whole 3⟩, nofun⟩
  have exact : Exact 126 reasonless := .object fun entry member => (keys entry member).1
  have distinct : Distinct reasonless :=
    .object (by decide) fun entry member => (keys entry member).2
  have left : Exact Json.depthLimit reasonLost := by
    apply Exact.object
    simp only [List.forall_mem_cons]
    exact ⟨.whole (by decide) (by decide), .whole (by decide) (by decide),
      .whole (by decide) (by decide), nofun⟩
  have reports := reports_withError exact.received exact.kept
  have shown : reasonLost.compact = "\x7b\"a\":1,\"c\":3,\"b\":2\x7d".toList := rfl
  have message : errorMessage reasonless.settle = reasonLost.compact := rfl
  refine ⟨rfl, reports, distinct, ?_, ?_, nofun⟩
  · rw [decode_sent reports, message, shown]
  · rw [← shown]
    exact Json.parse_compact left

end Subselect.Response
