import Subselect.Proofs.RoundTrip

/-! What a value is read as from its own text: itself, except that each double is what the text of
that double is read as. Doubles with few digits are read as themselves. -/
namespace Subselect.Json

open Binary64 (Canonical)

/-- Values that a reader gives, with as many levels of nesting at most. -/
inductive Received : Nat → Json → Prop where
  | null : Received depth .null
  | bool (b : Bool) : Received depth (.bool b)
  | whole : -(Decimal.signedLimit : Int) ≤ n → n < Decimal.wordLimit → Received depth (.whole n)
  | double : Canonical s k → Received depth (.double (.finite negative s k))
  | string (s : Text) : Received depth (.string s)
  | array : (∀ item ∈ items, Received depth item) → Received (depth + 1) (.array items)
  | object : (∀ entry ∈ entries, Received depth entry.2) → Received (depth + 1) (.object entries)

theorem Received.mono (received : Received depth v) (more : depth ≤ limit) : Received limit v := by
  induction received generalizing limit with
  | null => exact .null
  | bool b => exact .bool b
  | whole low high => exact .whole low high
  | double canonical => exact .double canonical
  | string s => exact .string s
  | array _ ih =>
    cases limit with
    | zero => cases more
    | succ limit => exact .array fun item member => ih item member (Nat.le_of_succ_le_succ more)
  | object _ ih =>
    cases limit with
    | zero => cases more
    | succ limit => exact .object fun entry member => ih entry member (Nat.le_of_succ_le_succ more)

theorem Received.of_mem (received : Received depth (.object entries)) (member : entry ∈ entries) :
    Received depth entry.2 := by
  cases received with
  | object each => exact (each entry member).mono (Nat.le_succ _)

theorem Received.subset (received : Received depth (.object entries)) (part : others ⊆ entries) :
    Received depth (.object others) := by
  cases received with
  | object each => exact .object fun entry member => each entry (part member)

/-! What a value is read as. -/

mutual
/-- What a reader takes the text of a value for, if it takes it: each double is what its own text is
read as, and the rest is as it was. -/
def reread : Json → Option Json
  | double x => (parse (doubleText x)).toOption
  | array items => (rereadItems items).map array
  | object entries => (rereadEntries entries).map object
  | null => some null
  | bool b => some (bool b)
  | whole n => some (whole n)
  | string s => some (string s)

def rereadItems : List Json → Option (List Json)
  | [] => some []
  | item :: more => do
    let item ← reread item
    let more ← rereadItems more
    pure (item :: more)

def rereadEntry : Text × Json → Option (Text × Json)
  | (key, value) => (reread value).map (key, ·)

def rereadEntries : List (Text × Json) → Option (List (Text × Json))
  | [] => some []
  | entry :: more => do
    let entry ← rereadEntry entry
    let more ← rereadEntries more
    pure (entry :: more)
end

theorem rereadItems_eq (items : List Json) : rereadItems items = (items.map reread).mapM id := by
  induction items with
  | nil => rfl
  | cons item more ih => rw [rereadItems, ih, List.map_cons, List.mapM_cons, id]

theorem rereadEntry_eq (entry : Text × Json) :
    rereadEntry entry = (reread entry.2).map (entry.1, ·) := by
  rw [← entry.eta, rereadEntry]

theorem rereadEntries_eq (entries : List (Text × Json)) :
    rereadEntries entries = (entries.map rereadEntry).mapM id := by
  induction entries with
  | nil => rfl
  | cons entry more ih => rw [rereadEntries, ih, List.map_cons, List.mapM_cons, id]

/-- Every double in a value has a property. -/
inductive Doubles (p : Binary64 → Prop) : Json → Prop where
  | null : Doubles p .null
  | bool (b : Bool) : Doubles p (.bool b)
  | whole (n : Int) : Doubles p (.whole n)
  | double : p x → Doubles p (.double x)
  | string (s : Text) : Doubles p (.string s)
  | array : (∀ item ∈ items, Doubles p item) → Doubles p (.array items)
  | object : (∀ entry ∈ entries, Doubles p entry.2) → Doubles p (.object entries)

theorem Doubles.mp (each : Doubles (fun x => p x → q x) v) (all : Doubles p v) : Doubles q v := by
  induction each with
  | null => exact .null
  | bool b => exact .bool b
  | whole => exact .whole _
  | string s => exact .string s
  | double here =>
    cases all with
    | double holds => exact .double (here holds)
  | array _ ih =>
    cases all with
    | array all => exact .array fun item member => ih item member (all item member)
  | object _ ih =>
    cases all with
    | object all => exact .object fun entry member => ih entry member (all entry member)

theorem Received.doubles (received : Received depth v)
    (each : ∀ negative s k, Canonical s k → p (.finite negative s k)) : Doubles p v := by
  induction received with
  | null => exact .null
  | bool b => exact .bool b
  | whole => exact .whole _
  | string s => exact .string s
  | double canonical => exact .double (each _ _ _ canonical)
  | array _ ih => exact .array ih
  | object _ ih => exact .object ih

/-- Every double in a value is what its own text is read as. -/
def Kept : Json → Prop := Doubles fun x => parse (doubleText x) = .ok (.double x)

/-- Every double in a value is written with few digits. -/
def Short : Json → Prop := Doubles fun x =>
  ∀ negative s k, x = .finite negative s k → (Decimal.written s k).Short

/-- Every double in a value is the one nearest to the number that it is written as. -/
def Nearest : Json → Prop := Doubles fun x => ∃ (negative : Bool) (parts : Numeral), parts.Valid ∧
  doubleText x = (if negative then ['-'] else []) ++ parts.text ∧
  Binary64.ofDecimal negative parts.digits parts.scale = x

theorem mapM_id_eq_some_iff {xs : List (Option α)} {ys : List α} :
    xs.mapM id = some ys ↔ xs = ys.map some := by
  induction xs generalizing ys with
  | nil => cases ys <;> simp
  | cons x more ih =>
    cases ys with
    | nil => cases x <;> simp [Option.bind_eq_some_iff]
    | cons y ys => cases x <;> simp [Option.bind_eq_some_iff, ih, and_comm]

/-- A value is read as itself just if every double in it is kept. -/
theorem reread_eq_self_iff (received : Received depth v) : v.reread = some v ↔ Kept v := by
  induction received with
  | null => exact ⟨fun _ => .null, fun _ => rfl⟩
  | bool b => exact ⟨fun _ => .bool b, fun _ => rfl⟩
  | whole => exact ⟨fun _ => .whole _, fun _ => rfl⟩
  | string s => exact ⟨fun _ => .string s, fun _ => rfl⟩
  | double =>
    rw [reread, toOption_eq_some_iff]
    constructor
    · exact fun kept => .double kept
    · rintro (_ | _ | _ | kept)
      exact kept
  | @array items _ _ ih =>
    have each : (array items).reread = some (array items) ↔
        ∀ item ∈ items, item.reread = some item := by
      rw [reread, rereadItems_eq, Option.map_eq_some_iff]
      simp only [mapM_id_eq_some_iff, array.injEq, exists_eq_right, List.map_inj_left]
    rw [each]
    constructor
    · exact fun same => .array fun item member => (ih item member).mp (same item member)
    · rintro (_ | _ | _ | _ | _ | kept) item member
      exact (ih item member).mpr (kept item member)
  | @object entries _ _ ih =>
    have each : (object entries).reread = some (object entries) ↔
        ∀ entry ∈ entries, entry.2.reread = some entry.2 := by
      rw [reread, rereadEntries_eq, Option.map_eq_some_iff]
      simp only [mapM_id_eq_some_iff, object.injEq, exists_eq_right, List.map_inj_left]
      simp [rereadEntry_eq, Prod.ext_iff]
    rw [each]
    constructor
    · exact fun same => .object fun entry member => (ih entry member).mp (same entry member)
    · rintro (_ | _ | _ | _ | _ | _ | kept) entry member
      exact (ih entry member).mpr (kept entry member)

theorem length_of_reread (read : (object entries).reread = some (object entries')) :
    entries'.length = entries.length := by
  rw [reread, rereadEntries_eq, Option.map_eq_some_iff] at read
  obtain ⟨_, read, ⟨⟩⟩ := read
  have count := congrArg List.length (mapM_id_eq_some_iff.mp read)
  rwa [List.length_map, List.length_map, eq_comm] at count

theorem opens_quote (s : Text) : Opens (quote s) :=
  ⟨'"', s.flatMap escape ++ ['"'], rfl, rfl, by decide, by decide⟩

theorem not_isSpace_of_isDigit (digit : c.isDigit = true) :
    isSpace c = false ∧ c ≠ ']' ∧ c ≠ '\x7d' := by
  constructor
  · apply eq_false_of_ne_true
    intro space
    simp only [isSpace, Bool.or_eq_true, beq_iff_eq, or_assoc] at space
    rcases space with rfl | rfl | rfl | rfl <;> cases digit
  · constructor <;> rintro rfl <;> cases digit

theorem opens_ofNat (n : Nat) : Opens (Decimal.ofNat n) := by
  obtain ⟨c, more, eq, digit⟩ := Decimal.exists_ofNat_cons n
  exact ⟨c, more, eq, not_isSpace_of_isDigit digit⟩

/-! What the first character of a value says about the rest of it. -/

theorem readValue_digit (depth : Nat) (digit : c.isDigit = true) (t : Text) :
    readValue depth (c :: t) = readNumber false (c :: t) := by
  have other : c ≠ 'n' ∧ c ≠ 't' ∧ c ≠ 'f' ∧ c ≠ '-' := by
    refine ⟨?_, ?_, ?_, ?_⟩ <;> rintro rfl <;> cases digit
  have space : skipSpace (c :: t) = c :: t :=
    List.dropWhile_cons_of_neg (by simp [not_isSpace_of_isDigit digit])
  rw [readValue, space]
  simp only [other, digit, if_false, if_true]

theorem readValue_minus (depth : Nat) (t : Text) :
    readValue depth ('-' :: t) = readNumber true t := by
  rw [readValue]
  rfl

theorem readValue_string (depth : Nat) (t : Text) : readValue depth ('"' :: t) =
    (readString t).map (·.map .string id) := by
  rw [readValue]
  rfl

theorem readValue_bracket (depth : Nat) (t : Text) : readValue (depth + 1) ('[' :: t) =
    (readBody ']' .endInList .expectedCommaOrBracket (readValue depth) t).map
      (·.map .array id) := by
  rw [readValue]
  rfl

theorem readValue_brace (depth : Nat) (t : Text) : readValue (depth + 1) ('\x7b' :: t) =
    (readBody '\x7d' .endInObject .expectedCommaOrBrace (readEntry (readValue depth)) t).map
      (·.map .object id) := by
  rw [readValue]
  rfl

theorem readValue_ofInt (depth : Nat) (low : -(Decimal.signedLimit : Int) ≤ n)
    (high : n < Decimal.wordLimit) (stops : Stops t) :
    readValue depth (Decimal.ofInt n ++ t) = .ok (.whole n, t) := by
  cases n with
  | ofNat n =>
    have read := readNumber_ofNat stops (number_ofNat n (by simpa using high))
    obtain ⟨c, more, eq, digit⟩ := Decimal.exists_ofNat_cons n
    rw [Decimal.ofInt]
    rw [eq, List.cons_append] at read ⊢
    rw [readValue_digit depth digit]
    exact read
  | negSucc n =>
    rw [Decimal.ofInt, List.cons_append, readValue_minus]
    exact readNumber_ofNat stops (number_negative n (by omega))

theorem readValue_quote (depth : Nat) (s t : Text) :
    readValue depth (quote s ++ t) = .ok (.string s, t) := by
  rw [quote, List.cons_append, List.append_assoc, readValue_string, List.singleton_append,
    readString_escape]
  rfl

/-! Arrays and objects from their items. -/

theorem readValue_array (items : List.Forall₂ (Gives (readValue depth)) ms xs) (gap : Gap w)
    (t : Text) : (readValue (depth + 1) ('[' :: (Text.join [','] ms ++ (w ++ ']' :: t)))).toOption =
      ((xs.mapM id).map array).map (·, t) := by
  have body := readBody_join .endInList .expectedCommaOrBracket (.inl rfl) items gap t
  rw [readValue_bracket, toOption_map, body]
  cases xs.mapM id <;> rfl

theorem readValue_object (entries : List.Forall₂ (Gives (readEntry (readValue depth))) ms xs)
    (gap : Gap w) (t : Text) :
    (readValue (depth + 1) ('\x7b' :: (Text.join [','] ms ++ (w ++ '\x7d' :: t)))).toOption =
      ((xs.mapM id).map object).map (·, t) := by
  have body := readBody_join .endInObject .expectedCommaOrBrace (.inr rfl) entries gap t
  rw [readValue_brace, toOption_map, body]
  cases xs.mapM id <;> rfl

/-- A key, a colon and a value. -/
theorem readEntry_quote {x : Option Json} (key : Text) (gap : Gap w)
    (value : (readValue depth (m ++ t)).toOption = x.map (·, t)) :
    (readEntry (readValue depth) (quote key ++ ':' :: (w ++ m) ++ t)).toOption =
      (x.map (key, ·)).map (·, t) := by
  have name := readString_escape key (':' :: (w ++ (m ++ t)))
  have colon (t : Text) : readColon (':' :: t) = .ok ((), t) := rfl
  have behind : readValue depth (w ++ (m ++ t)) = readValue depth (m ++ t) := by
    rw [← readValue_skipSpace, gap.skipSpace, readValue_skipSpace]
  have steps : readEntry (readValue depth) (quote key ++ ':' :: (w ++ m) ++ t) =
      (readValue depth (m ++ t)).map fun found => ((key, found.1), found.2) := by
    simp only [readEntry, quote, List.cons_append, List.append_assoc, List.nil_append, name, colon,
      behind, bind, Except.bind]
    rfl
  rw [steps, toOption_map, value]
  cases x <;> rfl

/-! Doubles. -/

theorem parse_of_read (whole : (readValue depthLimit t).toOption = x.map (·, [])) :
    (parse t).toOption = x := by
  rw [parse, read, toOption_bind, whole]
  cases x <;> rfl

theorem readValue_parts {parts : Numeral} (valid : parts.Valid) (stops : Stops t)
    (negative : Bool) (depth : Nat) :
    (readValue depth ((if negative then ['-'] else []) ++ parts.text ++ t)).toOption =
      (parts.read negative).map (·, t) := by
  have read := readNumber_text valid stops negative
  cases negative with
  | false =>
    obtain ⟨c, u, eq, digit⟩ := valid.exists_digit
    rw [eq] at read ⊢
    exact (congrArg Except.toOption (readValue_digit depth digit (u ++ t))).trans read
  | true => exact (congrArg Except.toOption (readValue_minus depth (parts.text ++ t))).trans read

theorem exists_parts (negative : Bool) (canonical : Canonical s k) : ∃ parts : Numeral,
    doubleText (.finite negative s k) = (if negative then ['-'] else []) ++ parts.text ∧
      (Decimal.written s k).Shown parts := by
  obtain ⟨parts, same, shown⟩ := Decimal.writes_written canonical
  exact ⟨parts, congrArg _ same, shown⟩

theorem opens_doubleText (negative : Bool) (canonical : Canonical s k) :
    Opens (doubleText (.finite negative s k)) := by
  obtain ⟨parts, same, shown⟩ := exists_parts negative canonical
  obtain ⟨c, t, eq, digit⟩ := shown.valid.exists_digit
  rw [same]
  cases negative with
  | false => exact ⟨c, t, eq, not_isSpace_of_isDigit digit⟩
  | true => exact ⟨'-', parts.text, rfl, by decide⟩

theorem parse_parts {parts : Numeral} (valid : parts.Valid) (negative : Bool) :
    (parse ((if negative then ['-'] else []) ++ parts.text)).toOption = parts.read negative := by
  have alone := readValue_parts valid stops_nil negative depthLimit
  rw [List.append_nil] at alone
  exact parse_of_read alone

/-- The text of a double is read as the same wherever it stands. -/
theorem readValue_doubleText (negative : Bool) (canonical : Canonical s k) (stops : Stops t)
    (depth : Nat) : (readValue depth (doubleText (.finite negative s k) ++ t)).toOption =
      (parse (doubleText (.finite negative s k))).toOption.map (·, t) := by
  obtain ⟨parts, same, shown⟩ := exists_parts negative canonical
  rw [same, parse_parts shown.valid]
  exact readValue_parts shown.valid stops negative depth

/-- A double with few digits is read as itself. -/
theorem parse_short (negative : Bool) (canonical : Canonical s k)
    (short : (Decimal.written s k).Short) :
    parse (doubleText (.finite negative s k)) = .ok (.double (.finite negative s k)) := by
  obtain ⟨parts, same, shown⟩ := exists_parts negative canonical
  rw [← toOption_eq_some_iff, same, parse_parts shown.valid]
  exact shown.read_short short (Decimal.ofDecimal_written negative canonical)

theorem Short.kept (short : Short v) (received : Received depth v) : Kept v := by
  refine (received.doubles fun negative s k canonical short => ?_).mp short
  exact parse_short negative canonical (short negative s k rfl)

/-- Nothing of a double is lost in its text, even where the reader loses it. -/
theorem Received.nearest (received : Received depth v) : Nearest v := by
  apply received.doubles
  intro negative s k canonical
  obtain ⟨parts, same, shown⟩ := exists_parts negative canonical
  refine ⟨negative, parts, shown.valid, same, ?_⟩
  rw [shown.ofDecimal_eq, Decimal.ofDecimal_written negative canonical]

/-- The last of many digits may be lost. -/
example : doubleText (.finite false 8794761699453570 1026) = "31.245270191439438".toList ∧
    (reread (.double (.finite false 8794761699453570 1026))).map compact =
      some "31.24527019143944".toList := by
  decide +kernel

end Subselect.Json
