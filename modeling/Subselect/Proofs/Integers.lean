import Subselect.Proofs.Membership
import Subselect.Proofs.Reception

/-! Whole numbers on their way from a body into the query around a sub-select. One that fits a word,
with a sign or without, is read from its digits, kept in a cell and written as the same digits.
Above the greatest signed word the cell is a text, and the digits pass for a number again. -/
namespace Subselect

open Text

namespace Decimal

/-- The digits of a whole number, behind a minus sign if it is negative. -/
def digits (n : Int) : Text := (toString n).toList

theorem ofInt_eq_digits (n : Int) : ofInt n = digits n := by
  cases n with
  | ofNat n => simp [ofInt, ofNat, digits, Int.toString_eq_repr, Int.repr]
  | negSucc n => simp [ofInt, ofNat, digits, Int.toString_eq_repr, Int.repr]

theorem ofInt_neg {m : Nat} (positive : m ≠ 0) : ofInt (-(m : Int)) = '-' :: ofNat m := by
  obtain ⟨k, rfl⟩ := Nat.exists_eq_succ_of_ne_zero positive
  rfl

/-- A whole number that fits a word of 64 bits, with a sign or without. -/
def Fits (n : Int) : Prop := -2 ^ 63 ≤ n ∧ n < 2 ^ 64

end Decimal

/-! Reading. A whole number is read from its own digits and from nothing else. -/

namespace Json

/-- A run of digits that no zero leads is the text of its value. -/
theorem takeWhile_isDigit_eq (first : c ≠ '0') (digit : c.isDigit = true) (t : Text) :
    (c :: t).takeWhile Char.isDigit =
      Decimal.ofNat (Decimal.value 0 ((c :: t).takeWhile Char.isDigit)) := by
  rw [List.takeWhile_cons_of_pos digit]
  refine (Decimal.ofNat_value first fun d member => ?_).symm
  rcases List.mem_cons.mp member with rfl | member
  · exact digit
  · exact List.mem_takeWhile_imp member

theorem readWhole_inv (read : readWhole t = .ok (run, rest)) :
    ∃ m, run = Decimal.ofNat m ∧ t = run ++ rest ∧
      ∀ c, rest.head? = some c → c.isDigit = false := by
  cases t with
  | nil => cases read
  | cons c t =>
    by_cases zero : c = '0'
    · subst zero
      cases t with
      | nil => cases read; exact ⟨0, rfl, rfl, nofun⟩
      | cons d more =>
        simp only [readWhole, if_true] at read
        split at read
        next => cases read
        next other =>
          cases read
          refine ⟨0, rfl, rfl, ?_⟩
          rintro _ ⟨⟩
          exact eq_false_of_ne_true other
    · simp only [readWhole, zero, if_false] at read
      split at read
      next digit =>
        cases read
        exact ⟨_, takeWhile_isDigit_eq zero digit t, List.takeWhile_append_dropWhile.symm,
          Text.head?_dropWhile Char.isDigit (c :: t)⟩
      next => cases read

theorem readFraction_inv (read : readFraction t = .ok (none, rest)) :
    rest = t ∧ t.head? ≠ some '.' := by
  unfold readFraction at read
  split at read
  · split at read <;> cases read
  · rename_i other
    cases read
    refine ⟨rfl, fun head => ?_⟩
    obtain ⟨more, rfl⟩ := List.head?_eq_some_iff.mp head
    exact other more rfl

theorem readExponent_inv (read : readExponent isZero t = .ok (none, rest)) :
    rest = t ∧ ∀ c, t.head? = some c → c ≠ 'e' ∧ c ≠ 'E' := by
  cases t with
  | nil => cases read; exact ⟨rfl, nofun⟩
  | cons c t =>
    by_cases mark : c = 'e' ∨ c = 'E'
    · simp only [readExponent, mark, if_true] at read
      repeat' split at read
      all_goals cases read
    · simp only [readExponent, mark, if_false] at read
      cases read
      refine ⟨rfl, ?_⟩
      rintro _ ⟨⟩
      exact not_or.mp mark

/-- What a whole number is made of: digits without point and exponent, whose value fits. -/
theorem number_inv (known : number negative run fraction exponent = some (.whole n)) :
    fraction = none ∧ exponent = none ∧
      n = (if negative then -(Decimal.value 0 run : Int) else Decimal.value 0 run) ∧
      (if negative then Decimal.value 0 run ≠ 0 ∧ Decimal.value 0 run ≤ Decimal.signedLimit
        else Decimal.value 0 run < Decimal.wordLimit) := by
  obtain ⟨noFraction, noExponent, value, fits⟩ | ⟨_, _, ⟨⟩, _⟩ := number_cases known
  exact ⟨noFraction, noExponent, Json.whole.inj value, fits⟩

/-- A step that another one follows has given a result. -/
theorem bind_inv {first : Except Fault α} {next : α → Except Fault β}
    (ok : first >>= next = .ok y) : ∃ x, first = .ok x ∧ next x = .ok y := by
  cases first with
  | error => cases ok
  | ok x => exact ⟨x, rfl, ok⟩

theorem map_inv {first : Except Fault α} {f : α → β} (ok : first.map f = .ok y) :
    ∃ x, first = .ok x ∧ f x = y := by
  cases first with
  | error => cases ok
  | ok x => exact ⟨x, rfl, Except.ok.inj ok⟩

/-- One value with nothing but white space behind it. -/
theorem parse_inv (parsed : parse t = .ok v) :
    ∃ rest, read t = .ok (v, rest) ∧ readEnd rest = .ok () := by
  obtain ⟨⟨_, rest⟩, first, last⟩ := bind_inv parsed
  obtain ⟨_, ended, same⟩ := bind_inv last
  cases same
  exact ⟨rest, first, ended⟩

/-- A number has been read part by part. -/
theorem readNumber_parts (read : readNumber negative t = .ok (v, rest)) :
    ∃ run fraction exponent behind behind', readWhole t = .ok (run, behind) ∧
      readFraction behind = .ok (fraction, behind') ∧
      readExponent ((run ++ fraction.getD []).all (· == '0')) behind' = .ok (exponent, rest) ∧
      number negative run fraction exponent = some v := by
  obtain ⟨⟨run, behind⟩, whole, second⟩ := bind_inv read
  obtain ⟨⟨fraction, behind'⟩, point, third⟩ := bind_inv second
  obtain ⟨⟨exponent, behind''⟩, power, last⟩ := bind_inv third
  simp only at last
  split at last
  · next known =>
    cases last
    exact ⟨run, fraction, exponent, behind, behind', whole, point, power, known⟩
  · cases last

theorem readNumber_inv (read : readNumber negative t = .ok (.whole n, rest)) :
    ∃ m, t = Decimal.ofNat m ++ rest ∧ Stops rest ∧
      n = (if negative then -(m : Int) else m) ∧
      (if negative then m ≠ 0 ∧ m ≤ Decimal.signedLimit else m < Decimal.wordLimit) := by
  obtain ⟨run, fraction, exponent, behind, behind', whole, point, power, known⟩ :=
    readNumber_parts read
  obtain ⟨m, rfl, rfl, digits⟩ := readWhole_inv whole
  obtain ⟨rfl, rfl, valued, fits⟩ := number_inv known
  obtain ⟨rfl, noPoint⟩ := readFraction_inv point
  obtain ⟨rfl, noExponent⟩ := readExponent_inv power
  rw [Decimal.value_ofNat] at valued fits
  refine ⟨m, rfl, fun c head => ?_, valued, fits⟩
  exact ⟨digits c head, fun same => noPoint (same ▸ head), noExponent c head⟩

theorem readIdent_inv (read : readIdent value letters t = .ok (v, rest)) : v = value := by
  induction letters generalizing t with
  | nil => cases read; rfl
  | cons expected letters ih =>
    cases t with
    | nil => cases read
    | cons c t =>
      rw [readIdent] at read
      split at read
      · exact ih read
      · cases read

theorem readValue_whole_inv (read : readValue depth t = .ok (.whole n, rest)) :
    skipSpace t = Decimal.digits n ++ rest ∧ Decimal.Fits n ∧ Stops rest := by
  rw [readValue] at read
  split at read
  · cases read
  rename_i c u eq
  rw [eq, ← Decimal.ofInt_eq_digits]
  split at read
  · cases readIdent_inv read
  split at read
  · cases readIdent_inv read
  split at read
  · cases readIdent_inv read
  split at read
  next minus =>
    obtain ⟨m, rfl, stops, rfl, positive, bound⟩ := readNumber_inv read
    rw [if_pos rfl, Decimal.ofInt_neg positive, minus]
    refine ⟨rfl, ⟨?_, ?_⟩, stops⟩
    · simp only [Decimal.signedLimit] at bound
      omega
    · omega
  split at read
  next =>
    obtain ⟨m, same, stops, valued, bound⟩ := readNumber_inv read
    simp only [Bool.false_eq_true, if_false, Decimal.wordLimit] at valued bound
    subst valued
    exact ⟨same, ⟨by omega, by omega⟩, stops⟩
  split at read
  · obtain ⟨_, _, other⟩ := map_inv read
    cases other
  split at read
  · split at read
    · cases read
    · split at read
      all_goals
        obtain ⟨_, _, other⟩ := map_inv read
        cases other
  · cases read

/-- Between white space and what cannot go on a number stand the digits of the whole number read. -/
theorem readValue_eq_whole_iff : readValue depth t = .ok (.whole n, rest) ↔
    skipSpace t = Decimal.digits n ++ rest ∧ Decimal.Fits n ∧ Stops rest := by
  constructor
  · exact readValue_whole_inv
  · rintro ⟨written, ⟨low, high⟩, stops⟩
    rw [← readValue_skipSpace, written, ← Decimal.ofInt_eq_digits]
    apply readValue_ofInt depth _ _ stops
    · simp only [Decimal.signedLimit]
      omega
    · simp only [Decimal.wordLimit]
      omega

theorem swapRemove_fst (key : Text) (entries : List (Text × Json)) :
    (swapRemove key entries).1 = lookup key entries := by
  cases found : entries.findIdx? (·.1 == key) with
  | none =>
    have absent : entries.find? (·.1 == key) = none := by
      rw [List.find?_eq_none]
      intro entry member same
      rw [List.findIdx?_eq_none_iff.mp found entry member] at same
      cases same
    rw [swapRemove, lookup, found, absent]
    rfl
  | some i =>
    obtain ⟨inside, here, first⟩ := List.findIdx?_eq_some_iff_getElem.mp found
    have present : entries.find? (·.1 == key) = some entries[i] :=
      List.find?_eq_some_iff_getElem.mpr
        ⟨here, i, inside, rfl, fun j before => by simpa using first j before⟩
    rw [swapRemove, lookup, found, present]
    simp only [List.getElem?_eq_getElem inside]
    split <;> rfl

end Json

/-! Writing. The literal of a whole number is made of its digits, whichever cell keeps it. -/

namespace Literal

open ListTest (numberChars_plain trim_eq)

theorem isSign_of_isDigit {c : Char} (digit : c.isDigit = true) : isSign c = false := by
  apply eq_false_of_ne_true
  intro sign
  rcases (by simpa [isSign] using sign : c = '+' ∨ c = '-') with rfl | rfl <;> cases digit

theorem isExponentMark_of_isDigit {c : Char} (digit : c.isDigit = true) :
    isExponentMark c = false := by
  apply eq_false_of_ne_true
  intro mark
  rcases (by simpa [isExponentMark] using mark : c = 'e' ∨ c = 'E') with rfl | rfl <;> cases digit

/-- Digits alone are a number. -/
theorem isNumeral_of_digits (some : t ≠ []) (digits : ∀ c ∈ t, c.isDigit = true) :
    isNumeral t = true := by
  have unsigned : dropSign t = t := by
    cases t with
    | nil => rfl
    | cons c more => simp [dropSign, isSign_of_isDigit (digits c List.mem_cons_self)]
  have unmarked : ∀ c ∈ t, (!isExponentMark c) = true := fun c member => by
    simp [isExponentMark_of_isDigit (digits c member)]
  rw [isNumeral, unsigned]
  simp only [List.takeWhile_eq_self_iff.mpr unmarked, List.dropWhile_eq_nil_iff.mpr unmarked,
    (isMantissa_iff t).mpr (.whole some digits), Bool.and_self]

theorem isNumeral_ofNat (n : Nat) : isNumeral (Decimal.ofNat n) = true :=
  isNumeral_of_digits (Decimal.ofNat_ne_nil n) fun _ => Decimal.isDigit_of_mem_ofNat

theorem encode_ofNat (n : Nat) : encode (Decimal.ofNat n) = Decimal.ofNat n := by
  have plain : ∀ c ∈ Decimal.ofNat n, isBlank c = false := fun c member =>
    (numberChars_plain c ((ofNat_number n).2 c member)).2.1
  rw [encode, trim_eq plain, if_pos (isNumeral_ofNat n)]

theorem ofCell_whole (fits : Decimal.Fits n) :
    ofCell (Response.cell (.whole n)) = [Decimal.digits n] := by
  obtain ⟨low, high⟩ := fits
  rw [← Decimal.ofInt_eq_digits, Response.cell]
  split
  next small =>
    have exact : (Int64.ofInt n).toInt = n := Int64.toInt_ofInt_of_le low small
    rw [ofCell, exact]
  next great =>
    obtain ⟨m, rfl⟩ : ∃ m : Nat, n = m := Int.eq_ofNat_of_zero_le (by omega)
    have comma : ',' ∉ Decimal.ofNat m := fun member =>
      (numberChars_plain ',' ((ofNat_number m).2 ',' member)).1 rfl
    have whole : Decimal.ofInt m = Decimal.ofNat m := rfl
    rw [whole, ofCell, if_neg comma, encode_ofNat]

/-- The literals of the first column of some rows. -/
def ofRows (rows : List Row) : List Text := (rows.filterMap Row.first).flatMap ofCell

theorem ofTable_eq_ofRows (table : Table) : ofTable table = ofRows table.rows := rfl

theorem ofRows_append (a b : List Row) : ofRows (a ++ b) = ofRows a ++ ofRows b := by
  simp [ofRows]

theorem ofRows_cons (row : Row) (rows : List Row) :
    ofRows (row :: rows) = ofRows [row] ++ ofRows rows :=
  ofRows_append [row] rows

theorem ofRows_split (found : rows[i]? = some row) :
    ofRows rows = ofRows (rows.take i) ++ ofRows [row] ++ ofRows (rows.drop (i + 1)) := by
  obtain ⟨inside, rfl⟩ := List.getElem?_eq_some_iff.mp found
  have whole : rows = rows.take i ++ rows[i] :: rows.drop (i + 1) := by simp
  calc ofRows rows = ofRows (rows.take i ++ rows[i] :: rows.drop (i + 1)) := by rw [← whole]
    _ = ofRows (rows.take i) ++ ofRows [rows[i]] ++ ofRows (rows.drop (i + 1)) := by
      rw [ofRows_append, ofRows_cons, List.append_assoc]

end Literal

namespace Context

theorem replacement_list (some : values ≠ []) (keyword : Text) :
    replacement values (.list keyword) =
      keyword ++ " (".toList ++ join ", ".toList values ++ ")".toList := by
  cases values with
  | nil => exact absurd rfl some
  | cons v more => simp [replacement, Literal.list]

theorem replacement_scalar (v : Text) (more : List Text) (op : Comparison) :
    replacement (v :: more) (.scalar op) = op.symbol ++ " ".toList ++ v := by
  simp [replacement, Literal.scalar]

end Context

/-- A row of a table puts the digits of one whole number into the query and nothing else: in a list
they stand between the values of the other rows, and a scalar is made of them if no row in front
has a value. -/
structure Table.Puts (table : Table) (i : Nat) (n : Int) : Prop where
  row : ∃ row, table.rows[i]? = some row ∧ Literal.ofRows [row] = [Decimal.digits n]
  values : Literal.ofTable table = Literal.ofRows (table.rows.take i) ++ Decimal.digits n ::
    Literal.ofRows (table.rows.drop (i + 1))
  list : ∀ keyword, Context.replacement (Literal.ofTable table) (.list keyword) =
    keyword ++ " (".toList ++ join ", ".toList (Literal.ofRows (table.rows.take i) ++
      Decimal.digits n :: Literal.ofRows (table.rows.drop (i + 1))) ++ ")".toList
  scalar : Literal.ofRows (table.rows.take i) = [] → ∀ op,
    Context.replacement (Literal.ofTable table) (.scalar op) =
      op.symbol ++ " ".toList ++ Decimal.digits n

theorem Table.puts (found : table.rows[i]? = some row)
    (single : Literal.ofRows [row] = [Decimal.digits n]) : Table.Puts table i n := by
  have values := Literal.ofRows_split found
  rw [single, List.append_assoc, List.singleton_append, ← Literal.ofTable_eq_ofRows] at values
  refine ⟨⟨row, found, single⟩, values, fun keyword => ?_, fun first op => ?_⟩
  · rw [values]
    exact Context.replacement_list (by simp) keyword
  · rw [values, first]
    exact Context.replacement_scalar _ _ op

/-! The way of a body. -/

namespace Response

/-- The result set of a body that counts, free of errors. -/
structure Sends (body : Text) (set : ResultSet) : Prop where
  shape : ∃ value others, Json.parse body = .ok value ∧
    Shape.ofJson value = some (.sets (set :: others))
  clean : set.error = []

theorem decode_sends {set : ResultSet} (sends : Sends body set) : decode body = .ok set.table := by
  obtain ⟨⟨value, others, parsed, shape⟩, clean⟩ := sends
  obtain ⟨rest, read, ended⟩ := Json.parse_inv parsed
  rw [decode, read]
  simp only [shape, ended, Shape.reply, clean, List.isEmpty_nil, if_true]

/-! Bodies with one result set, whose header has one name in each object. -/

/-- The result set that a header and data objects are received as. -/
def listed (names : List Text) (data : List Entries) : ResultSet where
  columns := names.map Table.header
  data := data
  total := none
  error := []
  warning := []

/-- The result set as it is sent. -/
def listedJson (names : List Text) (data : List Entries) : Json :=
  .array [.object [("columns".toList, .array (names.map fun name => .object (Table.header name))),
    ("data".toList, .array (data.map .object))]]

theorem exact_listedJson (names : List Text)
    (exact : ∀ entries ∈ data, ∀ entry ∈ entries, Json.Exact 123 entry.2) :
    Json.Exact Json.depthLimit (listedJson names data) := by
  have header : Json.Exact 125 (.array (names.map fun name => .object (Table.header name))) := by
    apply Json.Exact.array
    rw [List.forall_mem_map]
    exact fun name _ => Table.exact_header name
  have rows : Json.Exact 125 (.array (data.map .object)) := by
    apply Json.Exact.array
    rw [List.forall_mem_map]
    exact fun entries member => .object (exact entries member)
  apply Json.Exact.array
  rw [List.forall_mem_singleton]
  apply Json.Exact.object
  rw [List.forall_mem_cons, List.forall_mem_singleton]
  exact ⟨header, rows⟩

theorem sends_listed (names : List Text) (data : List Entries)
    (exact : ∀ entries ∈ data, ∀ entry ∈ entries, Json.Exact 123 entry.2)
    (settled : ∀ entries ∈ data, Json.settleEntries [] entries = entries) :
    Sends (listedJson names data).compact (listed names data) := by
  have header : objects (some (.array (names.map fun name => .object (Table.header name)))) =
      some (names.map Table.header) := objects_map Table.header names fun _ _ => rfl
  have rows : objects (some (.array (data.map .object))) = some data := by
    simpa using objects_map id data settled
  have fields : ResultSet.ofFields
      (some (.array (names.map fun name => .object (Table.header name))))
      (some (.array (data.map .object))) none none none = some (listed names data) := by
    rw [ResultSet.ofFields, header, rows]
    rfl
  have received : ResultSet.ofJson (.object
      [("columns".toList, .array (names.map fun name => .object (Table.header name))),
        ("data".toList, .array (data.map .object))]) = some (listed names data) := fields
  have shape : Shape.ofJson (listedJson names data) = some (.sets [listed names data]) := by
    rw [listedJson, Shape.ofJson, List.mapM_cons, received]
    rfl
  exact ⟨⟨listedJson names data, [], Json.parse_compact (exact_listedJson names exact), shape⟩, rfl⟩

/-- An object holds a whole number that fits a word under a name. -/
structure Holds (name : Text) (entries : Entries) (n : Int) : Prop where
  found : Json.lookup name entries = some (.whole n)
  fits : Decimal.Fits n

theorem ofRows_row (head : names.head? = some name) (holds : Holds name entries n) :
    Literal.ofRows [row names entries] = [Decimal.digits n] := by
  obtain ⟨names, rfl⟩ := List.head?_eq_some_iff.mp head
  have first : Row.first (row (name :: names) entries) = some (cell (.whole n)) := by
    simp [row, Row.first, Json.swapRemove_fst, holds.found]
  simp [Literal.ofRows, first, Literal.ofCell_whole holds.fits]

theorem ofRows_map (head : names.head? = some name)
    (holds : List.Forall₂ (Holds name) data numbers) :
    Literal.ofRows (data.map (row names)) = numbers.map Decimal.digits := by
  induction holds with
  | nil => rfl
  | cons first _ ih =>
    rw [List.map_cons, Literal.ofRows_cons, ofRows_row head first, ih]
    rfl

/-- A whole number that fits a word, with a sign or without, goes from a body into the query digit
by digit. The reader takes it for what its digits say and takes nothing else for it; as the first
cell of a row it is the one value of that row; and a column of such numbers is listed in the order
of the rows. -/
theorem decode_integers {set : ResultSet} (sends : Sends body set)
    (head : set.names.head? = some name) :
    (∀ depth t rest n, Json.readValue depth t = .ok (.whole n, rest) ↔
      Json.skipSpace t = Decimal.digits n ++ rest ∧ Decimal.Fits n ∧ Json.Stops rest) ∧
    ∃ table, decode body = .ok table ∧
      (∀ i entries n, set.data[i]? = some entries → Holds name entries n → Table.Puts table i n) ∧
      ∀ n more, List.Forall₂ (Holds name) set.data (n :: more) →
        Literal.ofTable table = (n :: more).map Decimal.digits ∧
        (∀ keyword, Context.replacement (Literal.ofTable table) (.list keyword) =
          keyword ++ " (".toList ++ join ", ".toList ((n :: more).map Decimal.digits) ++
            ")".toList) ∧
        ∀ op, Context.replacement (Literal.ofTable table) (.scalar op) =
          op.symbol ++ " ".toList ++ Decimal.digits n := by
  refine ⟨fun _ _ _ _ => Json.readValue_eq_whole_iff, set.table, decode_sends sends, ?_, ?_⟩
  · intro i entries n found holds
    have same : set.table.rows[i]? = some (row set.names entries) := by
      simp [ResultSet.table, found]
    exact Table.puts same (ofRows_row head holds)
  · intro n more holds
    have values : Literal.ofTable set.table = (n :: more).map Decimal.digits :=
      ofRows_map head holds
    refine ⟨values, fun keyword => ?_, fun op => ?_⟩
    · rw [values]
      exact Context.replacement_list (by simp) keyword
    · rw [values]
      exact Context.replacement_scalar _ _ op

/-- The least and the greatest words, with a sign and without, and the first one that needs no
sign. -/
def bounds : List Int :=
  [-9223372036854775808, 9223372036854775807, 9223372036854775808, 18446744073709551615]

theorem fits_bounds (member : n ∈ bounds) : Decimal.Fits n := by
  simp only [bounds, List.mem_cons, List.not_mem_nil, or_false] at member
  rcases member with rfl | rfl | rfl | rfl <;> constructor <;> omega

def boundsRow (n : Int) : Entries := [("rank".toList, .whole 0), ("id".toList, .whole n)]

/-- The bounds stand under the name that is listed first, which comes second in the rows. -/
def boundsSet : ResultSet where
  columns := [Table.header "id".toList, Table.header "rank".toList]
  data := bounds.map boundsRow
  total := none
  error := []
  warning := []

def boundsJson : Json :=
  .array [.object [("columns".toList, .array (boundsSet.columns.map .object)),
    ("data".toList, .array (boundsSet.data.map .object))]]

theorem exact_boundsJson : Json.Exact Json.depthLimit boundsJson := by
  apply exact_listedJson ["id".toList, "rank".toList]
  simp only [boundsSet, List.forall_mem_map]
  intro n member
  obtain ⟨low, high⟩ := fits_bounds member
  simp only [boundsRow, List.forall_mem_cons]
  refine ⟨.whole ?_ ?_, .whole ?_ ?_, nofun⟩
  all_goals simp only [Decimal.signedLimit, Decimal.wordLimit]; omega

theorem decode_integers_bounds :
    Sends boundsJson.compact boundsSet ∧ boundsSet.names.head? = some "id".toList ∧
      List.Forall₂ (Holds "id".toList) boundsSet.data bounds ∧
      ∃ table, decode boundsJson.compact = .ok table ∧ Table.Puts table 2 9223372036854775808 ∧
        Context.replacement (Literal.ofTable table) (.list "IN".toList) =
          ("IN (-9223372036854775808, 9223372036854775807, 9223372036854775808, " ++
            "18446744073709551615)").toList := by
  have sends : Sends boundsJson.compact boundsSet :=
    ⟨⟨boundsJson, [], Json.parse_compact exact_boundsJson, rfl⟩, rfl⟩
  have holds (n : Int) (member : n ∈ bounds) : Holds "id".toList (boundsRow n) n :=
    ⟨rfl, fits_bounds member⟩
  have column : List.Forall₂ (Holds "id".toList) boundsSet.data bounds := by
    rw [boundsSet, List.forall₂_map_left_iff, List.forall₂_same]
    exact holds
  obtain ⟨_, table, decoded, each, all⟩ := decode_integers sends rfl
  obtain ⟨_, list, _⟩ := all _ _ column
  refine ⟨sends, rfl, column, table, decoded, ?_, ?_⟩
  · exact each 2 _ _ rfl (holds 9223372036854775808 (by simp [bounds]))
  · rw [list]
    rfl

end Response
end Subselect
