import Subselect.Proofs.Digits
import Subselect.Settings.Basic

/-! The options of a command line. They may come in any order and be given again, in one argument or
in two; what counts is the last value of each. -/
namespace Subselect

/-! Words. -/

/-- The digits of a word, without the plus sign there may be in front of them. -/
def wordDigits : Text → Text
  | '+' :: digits => digits
  | digits => digits

/-- The number that a word stands for. -/
def wordValue (t : Text) : Nat := Decimal.value 0 (wordDigits t)

/-- Digits, with or without a plus sign, of a number that fits 64 bits. -/
structure IsWord (t : Text) : Prop where
  some : wordDigits t ≠ []
  digits : ∀ c ∈ wordDigits t, c.isDigit = true
  fits : wordValue t < Decimal.wordLimit

theorem readWord_eq_ok_iff (small : n < Decimal.wordLimit) : readWord n t = .ok m ↔
    (∀ c ∈ t, c.isDigit = true) ∧ Decimal.value n t = m ∧ m < Decimal.wordLimit := by
  induction t generalizing n with
  | nil =>
    constructor
    · rintro ⟨⟩
      exact ⟨nofun, rfl, small⟩
    · rintro ⟨_, rfl, _⟩
      rfl
  | cons c t ih =>
    rw [List.forall_mem_cons, Decimal.value_cons, readWord, Decimal.digit?]
    by_cases digit : c.isDigit = true
    · simp only [digit, if_true, true_and]
      by_cases next : 10 * n + (c.toNat - '0'.toNat) < Decimal.wordLimit
      · rw [if_pos next, ih next]
      · rw [if_neg next]
        refine ⟨nofun, ?_⟩
        rintro ⟨_, rfl, fits⟩
        exact absurd (Nat.lt_of_le_of_lt (Decimal.le_value _ t) fits) next
    · simp [digit]

theorem readWord_digits (some : wordDigits t ≠ []) :
    readWord 0 (wordDigits t) = .ok n ↔ IsWord t ∧ wordValue t = n := by
  rw [readWord_eq_ok_iff (by decide)]
  constructor
  · rintro ⟨digits, rfl, fits⟩
    exact ⟨⟨some, digits, fits⟩, rfl⟩
  · rintro ⟨⟨_, digits, fits⟩, rfl⟩
    exact ⟨digits, rfl, fits⟩

theorem parseWord_unsigned (other : c ≠ '+') (t : Text) :
    parseWord (c :: t) = readWord 0 (c :: t) := by
  unfold parseWord
  split
  · next eq => cases eq
  · next eq => exact absurd (List.cons.inj eq).1 other
  · rfl

theorem wordDigits_unsigned (other : c ≠ '+') (t : Text) : wordDigits (c :: t) = c :: t := by
  unfold wordDigits
  split
  · next eq => exact absurd (List.cons.inj eq).1 other
  · rfl

/-- The words are just the texts that are read as numbers. -/
theorem parseWord_eq_ok_iff : parseWord t = .ok n ↔ IsWord t ∧ wordValue t = n := by
  cases t with
  | nil => exact iff_of_false nofun fun word => word.1.some rfl
  | cons c t =>
    by_cases sign : c = '+'
    · subst sign
      cases t with
      -- a plus sign alone is no number
      | nil => exact iff_of_false nofun fun word => word.1.some rfl
      | cons d t =>
        have some : wordDigits ('+' :: d :: t) ≠ [] := List.cons_ne_nil d t
        exact readWord_digits some
    · have whole := wordDigits_unsigned sign t
      have some : wordDigits (c :: t) ≠ [] := by
        rw [whole]
        exact List.cons_ne_nil c t
      have read : readWord 0 (wordDigits (c :: t)) = .ok n ↔
          IsWord (c :: t) ∧ wordValue (c :: t) = n := readWord_digits some
      rwa [whole, ← parseWord_unsigned sign] at read

namespace Settings

/-- The texts that an option takes for a value. -/
def Key.Takes : Key → Text → Prop
  | .url, _ => True
  | .timeout, t => IsWord t
  | .passes, t => IsWord t
  | .socket, t => (Net.SocketAddress.parse t).isSome
  | .query, _ => True

/-- An option and the text of its value, in one argument or in two. -/
structure Choice where
  key : Key
  value : Text
  joined : Bool
  deriving DecidableEq, Repr

namespace Choice

def words (choice : Choice) : List Text :=
  let option := '-' :: '-' :: choice.key.name.toList
  if choice.joined then [option ++ '=' :: choice.value] else [option, choice.value]

def Taken (choice : Choice) : Prop := choice.key.Takes choice.value

end Choice

/-- The value that an option is given last. -/
def last (key : Key) (choices : List Choice) : Option Text :=
  (choices.reverse.find? (·.key == key)).map Choice.value

/-- What choices come to: the last value of each option counts, or what holds without it. The pass
limit is looked at first. -/
def settle (choices : List Choice) : Except SettingsError (Wish Settings) :=
  let passes := (last .passes choices).map wordValue
  if passes = some 0 then .error (.invalid "max_passes".toList "0".toList)
  else
    match last .url choices with
    | none => .error (.missing "engine_url".toList)
    | some url => .ok <| .run
        { url
          timeoutMs := (last .timeout choices).map wordValue
          maxPasses := passes.getD 10
          metricsSocket := (last .socket choices).bind Net.SocketAddress.parse
          query := last .query choices }

/-! Reading choices one by one. -/

/-- The values given so far, with those of some more choices over them. -/
def Given.over (given : Given) (choices : List Choice) : Given where
  url := (last .url choices).or given.url
  timeoutMs := ((last .timeout choices).map wordValue).or given.timeoutMs
  maxPasses := ((last .passes choices).map wordValue).or given.maxPasses
  metricsSocket := ((last .socket choices).map Net.SocketAddress.parse).getD given.metricsSocket
  query := (last .query choices).or given.query

theorem last_cons (key : Key) (choice : Choice) (choices : List Choice) :
    last key (choice :: choices) =
      (last key choices).or (if choice.key = key then some choice.value else none) := by
  rw [last, List.reverse_cons, List.find?_append, Option.map_or]
  congr 1
  by_cases same : choice.key = key <;> simp [same]

theorem last_nil (key : Key) : last key [] = none := rfl

/-- One choice is accepted and goes over what was given before. -/
theorem accept_taken (given : Given) {choice : Choice} (taken : choice.Taken) :
    given.accept choice.key choice.value = .ok (given.over [choice]) := by
  obtain ⟨key, value, joined⟩ := choice
  cases key with
  | url => rfl
  | query => rfl
  | timeout =>
    have read := parseWord_eq_ok_iff.mpr ⟨taken, rfl⟩
    simp [Given.accept, Given.set, read, Except.map, Given.over, last]
  | passes =>
    have read := parseWord_eq_ok_iff.mpr ⟨taken, rfl⟩
    simp [Given.accept, Given.set, read, Except.map, Given.over, last]
  | socket =>
    obtain ⟨address, read⟩ := Option.isSome_iff_exists.mp taken
    simp [Given.accept, Given.set, parseAddress, read, Except.map, Given.over, last]

theorem Given.over_cons (given : Given) (choice : Choice) (choices : List Choice) :
    given.over (choice :: choices) = (given.over [choice]).over choices := by
  simp only [Given.over, last_cons, last_nil, Option.map_or, Option.getD_or, Option.or_assoc,
    Option.none_or]

/-- The words of a choice are read whatever is behind them, and its value whatever it looks like. -/
theorem readArguments_words (given : Given) {choice : Choice} (taken : choice.Taken)
    (rest : List Text) : readArguments given (choice.words ++ rest) =
      readArguments (given.over [choice]) rest := by
  obtain ⟨key, value, joined⟩ := choice
  have apart : Argument.ofText ('-' :: '-' :: key.name.toList) =
      .long key.name.toList none := by cases key <;> rfl
  have together : Argument.ofText ('-' :: '-' :: key.name.toList ++ '=' :: value) =
      .long key.name.toList (some value) := by cases key <;> rfl
  have known : Key.ofName? key.name.toList = some key := by cases key <;> rfl
  have other : key.name.toList ≠ "help".toList := by cases key <;> decide
  have accepted := accept_taken given taken
  cases joined with
  | false =>
    simp only [Choice.words, Bool.false_eq_true, if_false, List.cons_append, List.nil_append]
    rw [readArguments.eq_def]
    simp only [apart, other, known, accepted, if_false]
  | true =>
    simp only [Choice.words, if_true, List.singleton_append]
    rw [readArguments.eq_def]
    simp only [together, other, known, accepted, if_false]

/-- Choices are read to the last one, and the last value of each option is kept. -/
theorem readArguments_choices (given : Given) (taken : ∀ choice ∈ choices, choice.Taken) :
    readArguments given (choices.flatMap Choice.words) = .ok (.run (given.over choices)) := by
  induction choices generalizing given with
  | nil => rfl
  | cons choice choices ih =>
    rw [List.forall_mem_cons] at taken
    rw [List.flatMap_cons, readArguments_words given taken.1, ih _ taken.2, ← Given.over_cons]

theorem parse_choices (taken : ∀ choice ∈ choices, choice.Taken) :
    parse (choices.flatMap Choice.words) = settle choices := by
  have socket : ((last .socket choices).map Net.SocketAddress.parse).getD none =
      (last .socket choices).bind Net.SocketAddress.parse := by
    cases last .socket choices <;> rfl
  rw [parse, readArguments_choices {} taken]
  simp only [Given.over, Option.or_none, socket, ofGiven, settle]
  generalize (last .passes choices).map wordValue = passes
  have zero : passes.getD Query.defaultMaxPasses = 0 ↔ passes = some 0 := by
    cases passes <;> simp [Query.defaultMaxPasses]
  by_cases refused : passes = some 0
  · rw [if_pos (zero.mpr refused), if_pos refused]
    rfl
  · rw [if_neg (mt zero.mp refused), if_neg refused]
    cases last .url choices <;> rfl

/-! Rearranging choices. -/

/-- The same choices in another order among different options, in another spelling, or with some
that are overridden. -/
inductive Rearranges : List Choice → List Choice → Prop where
  | swap (front back : List Choice) {a b : Choice} : a.key ≠ b.key →
      Rearranges (front ++ a :: b :: back) (front ++ b :: a :: back)
  | respell (front back : List Choice) : Rearranges (front ++ ⟨key, value, joined⟩ :: back)
      (front ++ ⟨key, value, joined'⟩ :: back)
  | overridden (front back : List Choice) {a b : Choice} : a.Taken → b ∈ back → b.key = a.key →
      Rearranges (front ++ back) (front ++ a :: back)
  | refl : Rearranges choices choices
  | symm : Rearranges choices others → Rearranges others choices
  | trans : Rearranges choices others → Rearranges others more → Rearranges choices more

theorem last_append (key : Key) (front back : List Choice) :
    last key (front ++ back) = (last key back).or (last key front) := by
  rw [last, List.reverse_append, List.find?_append, Option.map_or]
  rfl

theorem last_isSome (member : choice ∈ choices) : (last choice.key choices).isSome = true := by
  rw [last, Option.isSome_map, List.find?_isSome]
  exact ⟨choice, List.mem_reverse.mpr member, BEq.rfl⟩

/-- Rearranged choices are accepted just as they were, and give each option the same last value. -/
theorem Rearranges.last_eq (same : Rearranges choices others) :
    ((∀ choice ∈ choices, choice.Taken) ↔ ∀ choice ∈ others, choice.Taken) ∧
      ∀ key, last key choices = last key others := by
  induction same with
  | @swap front back a b apart =>
    refine ⟨by simp only [List.forall_mem_append, List.forall_mem_cons, and_left_comm],
      fun key => ?_⟩
    simp only [last_append, last_cons, Option.or_assoc]
    -- at most one of the two gives the option a value
    by_cases first : a.key = key
    · have second : ¬b.key = key := fun second => apart (first.trans second.symm)
      simp only [if_neg second, Option.none_or]
    · simp only [if_neg first, Option.none_or]
  | respell =>
    refine ⟨by simp only [List.forall_mem_append, List.forall_mem_cons, Choice.Taken],
      fun key => ?_⟩
    rw [last_append, last_append, last_cons, last_cons]
  | @overridden front back a b taken member same =>
    refine ⟨by simp only [List.forall_mem_append, List.forall_mem_cons, taken, true_and],
      fun key => ?_⟩
    simp only [last_append, last_cons, Option.or_assoc]
    by_cases here : a.key = key
    · have later : (last key back).isSome = true := here ▸ same ▸ last_isSome member
      simp only [Option.or_of_isSome later]
    · simp only [if_neg here, Option.none_or]
  | refl => exact ⟨.rfl, fun _ => rfl⟩
  | symm _ ih => exact ⟨ih.1.symm, fun key => (ih.2 key).symm⟩
  | trans _ _ first second =>
    exact ⟨first.1.trans second.1, fun key => (first.2 key).trans (second.2 key)⟩

theorem settle_congr (same : ∀ key, last key choices = last key others) :
    settle choices = settle others := by
  simp only [settle, same]

theorem maxPasses_pos (read : parse arguments = .ok (.run settings)) : 1 ≤ settings.maxPasses := by
  unfold parse at read
  split at read
  · cases read
  · cases read
  · next given _ =>
    unfold ofGiven at read
    extract_lets passes at read
    by_cases zero : passes = 0
    · rw [if_pos zero] at read
      cases read
    · rw [if_neg zero] at read
      cases address : given.url with
      | none =>
        rw [address] at read
        cases read
      | some url =>
        rw [address] at read
        cases read
        exact Nat.one_le_iff_ne_zero.mpr zero

/-- Settings depend on the last value of each option and on nothing else: not on the program's name,
the order of different options, the spelling of an option and its value in one argument or in two,
or on values that are overridden. The pass limit of a run is never zero, whatever the command
line. -/
theorem ofCommandLine_choices (taken : ∀ choice ∈ choices, choice.Taken) (program : Text) :
    ofCommandLine (program :: choices.flatMap Choice.words) = settle choices ∧
    (∀ program' others, Rearranges choices others →
      ofCommandLine (program' :: others.flatMap Choice.words) =
        ofCommandLine (program :: choices.flatMap Choice.words)) ∧
    ∀ line settings, ofCommandLine line = .ok (.run settings) → 1 ≤ settings.maxPasses := by
  refine ⟨parse_choices taken, fun program' others same => ?_, fun line settings => maxPasses_pos⟩
  obtain ⟨accepted, equal⟩ := same.last_eq
  calc parse (others.flatMap Choice.words) = settle others := parse_choices (accepted.mp taken)
    _ = settle choices := (settle_congr equal).symm
    _ = parse (choices.flatMap Choice.words) := (parse_choices taken).symm

/-- A pass limit of zero that is overridden, and values that look like options. -/
def contrary : List Choice :=
  [⟨.passes, "0".toList, true⟩, ⟨.query, "--".toList, false⟩, ⟨.url, "--query=x".toList, false⟩,
    ⟨.socket, "127.0.0.1:09".toList, true⟩, ⟨.passes, "+3".toList, false⟩, ⟨.url, [], true⟩]

/-- The contrary choices without the overridden ones, and with the last two turned round. -/
def plainer : List Choice :=
  [⟨.query, "--".toList, true⟩, ⟨.socket, "127.0.0.1:09".toList, true⟩, ⟨.url, [], true⟩,
    ⟨.passes, "+3".toList, false⟩]

theorem ofCommandLine_contrary :
    (∀ choice ∈ contrary, choice.Taken) ∧ Rearranges contrary plainer ∧
      ofCommandLine ["resolver".toList, "--max_passes=0".toList, "--query".toList, "--".toList,
        "--engine_url".toList, "--query=x".toList, "--metrics_socket=127.0.0.1:09".toList,
        "--max_passes".toList, "+3".toList, "--engine_url=".toList] =
        .ok (.run ⟨[], none, 3, some (.v4 [127, 0, 0, 1] 9), some "--".toList⟩) ∧
      ofCommandLine [[], "--query=--".toList, "--metrics_socket=127.0.0.1:09".toList,
        "--engine_url=".toList, "--max_passes".toList, "+3".toList] =
        .ok (.run ⟨[], none, 3, some (.v4 [127, 0, 0, 1] 9), some "--".toList⟩) ∧
      ofCommandLine ["resolver".toList, "--engine_url=".toList, "--max_passes=+00".toList] =
        .error (.invalid "max_passes".toList "0".toList) := by
  have few : 3 < Decimal.wordLimit := by simp [Decimal.wordLimit]
  have zero : IsWord "0".toList := ⟨by decide, by simp [wordDigits], Nat.zero_lt_of_lt few⟩
  have three : IsWord "+3".toList := ⟨by decide, by simp [wordDigits], few⟩
  have taken : ∀ choice ∈ contrary, choice.Taken := by
    simp only [contrary, List.forall_mem_cons]
    exact ⟨zero, trivial, trivial, rfl, three, trivial, nofun⟩
  have same : Rearranges contrary plainer := by
    have limit : (⟨.passes, "+3".toList, false⟩ : Choice) ∈ contrary.tail := by decide
    have address : (⟨.url, [], true⟩ : Choice) ∈ contrary.drop 3 := by decide
    have first : Rearranges contrary.tail contrary :=
      .overridden [] contrary.tail (taken _ List.mem_cons_self) limit rfl
    have second : Rearranges (⟨.query, "--".toList, false⟩ :: contrary.drop 3) contrary.tail :=
      .overridden [⟨.query, "--".toList, false⟩] (contrary.drop 3) trivial address rfl
    have spelled : Rearranges (⟨.query, "--".toList, false⟩ :: contrary.drop 3)
        (⟨.query, "--".toList, true⟩ :: contrary.drop 3) := .respell [] (contrary.drop 3)
    have turned : Rearranges (⟨.query, "--".toList, true⟩ :: contrary.drop 3) plainer :=
      .swap [⟨.query, "--".toList, true⟩, ⟨.socket, "127.0.0.1:09".toList, true⟩] [] (by decide)
    exact first.symm.trans (second.symm.trans (spelled.trans turned))
  obtain ⟨settled, rearranged, _⟩ := ofCommandLine_choices taken "resolver".toList
  have value : settle contrary =
      .ok (.run ⟨[], none, 3, some (.v4 [127, 0, 0, 1] 9), some "--".toList⟩) := rfl
  have refused : ∀ choice ∈ [Choice.mk .url [] true, ⟨.passes, "+00".toList, true⟩],
      choice.Taken := by
    simp only [List.forall_mem_cons]
    exact ⟨trivial, ⟨by decide, by simp [wordDigits], Nat.zero_lt_of_lt few⟩, nofun⟩
  exact ⟨taken, same, settled.trans value, (rearranged [] plainer same).trans (settled.trans value),
    (ofCommandLine_choices refused "resolver".toList).1⟩

end Settings
end Subselect
