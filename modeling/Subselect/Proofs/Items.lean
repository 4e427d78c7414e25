import Subselect.Proofs.Seams
import Subselect.Proofs.Values

/-! The items of a list literal. A reader that knows only parentheses, separators and the escapes of
strings finds in a list just the values that were written: every string with its own characters, and
every number. So a list is written in one way, and no other list is written so. -/
namespace Subselect

open Text

namespace Literal

inductive Item where
  | bare (text : Text)
  | string (content : Text)
  deriving DecidableEq, Repr

/-- The content of a string up to its closing quote, without the backslashes of its escapes. -/
def readQuoted : Text → Option (Text × Text)
  | [] => none
  | ['\\'] => none
  | '\\' :: c :: t => (readQuoted t).map fun (s, rest) => (c :: s, rest)
  | c :: t =>
    if c = '\'' then some ([], t) else (readQuoted t).map fun (s, rest) => (c :: s, rest)

def endsItem (c : Char) : Bool := c == ',' || c == ')'

namespace Item

def literal : Item → Text
  | bare t => t
  | string s => quote s

/-- What the encoding of a text is read as. -/
def ofText (t : Text) : Item := if isNumeral (trim t) then bare (trim t) else string t

/-- The item a text begins with, and what follows it. -/
def read : Text → Option (Item × Text)
  | '\'' :: t => (readQuoted t).map fun (s, rest) => (string s, rest)
  | t => some (bare (t.takeWhile (!endsItem ·)), t.dropWhile (!endsItem ·))

end Item

theorem readQuoted_length (h : readQuoted t = some (s, rest)) : rest.length < t.length := by
  fun_induction readQuoted t generalizing s with
  | case1 => cases h
  | case2 => cases h
  | case3 c t ih =>
    obtain ⟨⟨s', rest'⟩, found, eq⟩ := Option.map_eq_some_iff.mp h
    cases eq
    have := ih found
    simp only [List.length_cons]
    omega
  | case4 t =>
    cases h
    exact Nat.lt_succ_self _
  | case5 c t _ _ _ ih =>
    obtain ⟨⟨s', rest'⟩, found, eq⟩ := Option.map_eq_some_iff.mp h
    cases eq
    exact Nat.lt_succ_of_lt (ih found)

theorem Item.read_length (h : read t = some (item, rest)) : rest.length ≤ t.length := by
  unfold read at h
  split at h
  · obtain ⟨⟨s', rest'⟩, found, eq⟩ := Option.map_eq_some_iff.mp h
    cases eq
    exact Nat.le_succ_of_le (Nat.le_of_lt (readQuoted_length found))
  · cases h
    exact (List.dropWhile_sublist _).length_le

/-- The items up to the parenthesis that ends the text, with a comma and a space between them. -/
def readItems (t : Text) : Option (List Item) :=
  match _read : Item.read t with
  | some (item, ',' :: ' ' :: rest) => (readItems rest).map (item :: ·)
  | some (item, [')']) => some [item]
  | _ => none
termination_by t.length
decreasing_by
  have := Item.read_length _read
  simp only [List.length_cons] at this
  omega

theorem readItems_eq (t : Text) : readItems t =
    match Item.read t with
    | some (item, ',' :: ' ' :: rest) => (readItems rest).map (item :: ·)
    | some (item, [')']) => some [item]
    | _ => none := by
  rw [readItems.eq_def]
  split <;> simp_all

/-- Reads a list. -/
def unlist : Text → Option (List Item)
  | '(' :: t => readItems t
  | _ => none

/-- The values that rows and texts are made into. -/
inductive Made : Text → Prop where
  | encoded (t : Text) : Made (encode t)
  | cell : v ∈ ofCell cell → Made v

theorem Made.value (h : Made v) : Value v := by
  cases h with
  | encoded t => exact encode_value t
  | cell member => exact ofCell_value _ v member

/-! What has been written is read. -/

/-- A bare item holds no character that would end it or make it a string. -/
def Item.Proper : Item → Prop
  | .bare t => ∀ c ∈ t, endsItem c = false ∧ c ≠ '\''
  | .string _ => True

theorem readQuoted_escape (c : Char) (t : Text) :
    readQuoted (escape c ++ t) = (readQuoted t).map fun (s, rest) => (c :: s, rest) := by
  by_cases special : c = '\'' ∨ c = '\\'
  · simp only [escape, special, if_true, List.cons_append, List.nil_append, readQuoted]
  · have other : c ≠ '\'' ∧ c ≠ '\\' := by simpa using special
    simp only [escape, special, if_false, List.cons_append, List.nil_append]
    rw [readQuoted.eq_4 _ _ (fun same => absurd same other.2) fun _ _ same => absurd same other.2,
      if_neg other.1]

theorem readQuoted_quote (s rest : Text) :
    readQuoted (s.flatMap escape ++ '\'' :: rest) = some (s, rest) := by
  induction s with
  | nil => rfl
  | cons c s ih => rw [List.flatMap_cons, List.append_assoc, readQuoted_escape, ih, Option.map_some]

theorem numberChars_bare : ∀ c ∈ numberChars, endsItem c = false ∧ c ≠ '\'' := by
  simp [numberChars, endsItem]

theorem Value.exists_item (h : Value v) : ∃ item : Item, item.Proper ∧ item.literal = v := by
  cases h with
  | number _ chars => exact ⟨.bare v, fun c member => numberChars_bare c (chars c member), rfl⟩
  | string s => exact ⟨.string s, trivial, rfl⟩

theorem encode_eq (t : Text) : encode t = (Item.ofText t).literal := by
  unfold encode Item.ofText
  split <;> rfl

theorem Item.ofText_proper (t : Text) : (ofText t).Proper := by
  by_cases number : isNumeral (trim t) = true
  · rw [ofText, if_pos number]
    exact fun c member => numberChars_bare c ((isNumeral_number number).2 c member)
  · rw [ofText, if_neg number]
    trivial

/-- An item is read up to the character that ends it. -/
theorem Item.read_literal (proper : Item.Proper item) (ends : endsItem e = true) (rest : Text) :
    Item.read (item.literal ++ e :: rest) = some (item, e :: rest) := by
  cases item with
  | bare t =>
    have stop : ∀ c, (e :: rest).head? = some c → (!endsItem c) = false := by
      rintro c ⟨⟩
      simp [ends]
    obtain ⟨run, behind⟩ := span_seam (!endsItem ·)
      (fun c member => by simp [(proper c member).1]) stop
    have first : ∀ u, t ++ e :: rest ≠ '\'' :: u := by
      intro u eq
      cases t with
      | nil =>
        cases eq
        exact absurd ends (by decide)
      | cons c t =>
        cases eq
        exact (proper '\'' (by simp)).2 rfl
    rw [literal, read.eq_2 _ fun u eq => first u eq, run, behind]
  | string s =>
    rw [literal, quote, List.cons_append, List.append_assoc, List.singleton_append, read,
      readQuoted_quote, Option.map_some]

theorem readItems_join (item : Item) (more : List Item) (proper : ∀ i ∈ item :: more, i.Proper) :
    readItems (join [',', ' '] ((item :: more).map Item.literal) ++ [')']) = some (item :: more) := by
  induction more generalizing item with
  | nil =>
    have here := Item.read_literal (proper item (by simp)) (e := ')') rfl []
    rw [readItems_eq, List.map_singleton, join, here]
    rfl
  | cons next more ih =>
    have rest := ih next fun i member => proper i (by simp [List.mem_cons.mp member])
    have here := Item.read_literal (proper item (by simp)) (e := ',') rfl
      (' ' :: (join [',', ' '] ((next :: more).map Item.literal) ++ [')']))
    have whole : join [',', ' '] ((item :: next :: more).map Item.literal) ++ [')'] =
        item.literal ++ ',' :: ' ' :: (join [',', ' '] ((next :: more).map Item.literal) ++ [')']) := by
      simp [join]
    rw [whole, readItems_eq, here]
    exact congrArg (Option.map (item :: ·)) rest

/-- A list is read as the items it was made of. -/
theorem unlist_literals (items : List Item) (some : items ≠ []) (proper : ∀ i ∈ items, i.Proper) :
    unlist (list (items.map Item.literal)) = .some items := by
  obtain ⟨item, more, rfl⟩ := List.exists_cons_of_ne_nil some
  rw [list, List.map_cons, List.isEmpty_cons, if_neg Bool.false_ne_true, unlist]
  exact readItems_join item more proper

/-- Values are the literals of proper items. -/
theorem exists_items (values : List Text) (h : ∀ v ∈ values, Value v) :
    ∃ items : List Item, (∀ i ∈ items, i.Proper) ∧ items.map Item.literal = values := by
  induction values with
  | nil => exact ⟨[], by simp, rfl⟩
  | cons v values ih =>
    obtain ⟨item, proper, rfl⟩ := (h v (by simp)).exists_item
    obtain ⟨items, rest, rfl⟩ := ih fun w member => h w (by simp [member])
    exact ⟨item :: items, List.forall_mem_cons.mpr ⟨proper, rest⟩, rfl⟩

theorem not_value_null : ¬Value null := by
  intro value
  generalize eq : null = t at value
  cases value with
  | number _ chars =>
    subst eq
    exact absurd (chars 'N' (by decide)) (by decide)
  | string s => cases eq

/-- Only the list of no values is `(NULL)`. -/
theorem list_eq_null_iff (h : ∀ v ∈ values, Value v) :
    list values = '(' :: (null ++ [')']) ↔ values = [] := by
  constructor
  · intro eq
    by_contra some
    obtain ⟨items, proper, rfl⟩ := exists_items values h
    have read := unlist_literals items (by simpa using some) proper
    have same : unlist ('(' :: (null ++ [')'])) = .some [.bare null] := by
      rw [unlist, readItems_eq]
      rfl
    rw [eq, same] at read
    obtain rfl := Option.some.inj read
    exact not_value_null (h null (by simp [Item.literal]))
  · rintro rfl
    rfl

theorem list_injective (ha : ∀ v ∈ a, Value v) (hb : ∀ v ∈ b, Value v) (same : list a = list b) :
    a = b := by
  by_cases none : a = []
  · subst none
    exact ((list_eq_null_iff hb).mp same.symm).symm
  · have some : b ≠ [] := by
      rintro rfl
      exact none ((list_eq_null_iff ha).mp same)
    obtain ⟨items, proper, rfl⟩ := exists_items a ha
    obtain ⟨items', proper', rfl⟩ := exists_items b hb
    have left := unlist_literals items (by simpa using none) proper
    have right := unlist_literals items' (by simpa using some) proper'
    rw [same, right] at left
    rw [Option.some.inj left]

/-- A list of encoded texts is read as these texts again, in their order: the ones that are quoted
whole, and the numbers without the white space around them. Only the list of no values is `(NULL)`,
and lists of values that differ have literals that differ. -/
theorem unlist_list :
    (∀ texts : List Text, texts ≠ [] →
      unlist (list (texts.map encode)) = some (texts.map Item.ofText)) ∧
    (∀ values : List Text, (∀ v ∈ values, Made v) →
      (list values = "(NULL)".toList ↔ values = [])) ∧
    ∀ a b : List Text, (∀ v ∈ a, Made v) → (∀ v ∈ b, Made v) → list a = list b → a = b := by
  refine ⟨?_, ?_, ?_⟩
  · intro texts some
    have literals : texts.map encode = (texts.map Item.ofText).map Item.literal := by
      rw [List.map_map]
      exact List.map_congr_left fun t _ => encode_eq t
    rw [literals]
    apply unlist_literals _ (by simpa using some)
    intro item member
    obtain ⟨t, _, rfl⟩ := List.mem_map.mp member
    exact Item.ofText_proper t
  · exact fun values made => list_eq_null_iff fun v member => (made v member).value
  · exact fun a b madeA madeB => list_injective (fun v member => (madeA v member).value)
      fun v member => (madeB v member).value

/-- Texts that look like parts of a list, and a number that is written as a text and as a number. -/
theorem unlist_list_mixed :
    unlist "('a\\', \\'b)', 12, '\\\\', '')".toList =
        some [.string "a', 'b)".toList, .bare "12".toList, .string "\\".toList, .string []] ∧
      (list [encode []] = "(NULL)".toList ↔ [encode []] = []) ∧
      [encode " 12 ".toList] = ofCell (.integer 12) := by
  obtain ⟨read, null, same⟩ := unlist_list
  refine ⟨?_, null [encode []] ?_, same _ _ ?_ ?_ (by decide)⟩
  · exact read ["a', 'b)".toList, " 12 ".toList, "\\".toList, []] (by simp)
  · exact List.forall_mem_singleton.mpr (.encoded _)
  · exact List.forall_mem_singleton.mpr (.encoded _)
  · exact fun v member => .cell member

end Literal
end Subselect
