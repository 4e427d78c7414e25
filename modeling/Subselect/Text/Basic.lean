/-! Text as a list of characters. Sizes and offsets count the octets of its UTF-8 form;
`divide` and `replace` refuse an offset outside the text or inside a character. -/
namespace Subselect

abbrev Text := List Char

namespace Text

def size : Text → Nat
  | [] => 0
  | c :: t => c.utf8Size + size t

@[simp] theorem size_nil : size [] = 0 := rfl
@[simp] theorem size_cons (c : Char) (t : Text) : size (c :: t) = c.utf8Size + size t := rfl

@[simp] theorem size_append (s t : Text) : size (s ++ t) = size s + size t := by
  induction s with
  | nil => simp
  | cons c s ih => simp [ih, Nat.add_assoc]

@[simp] theorem size_reverse (t : Text) : size t.reverse = size t := by
  induction t with
  | nil => rfl
  | cons c t ih => simp [ih, Nat.add_comm]

/-- The two parts of a text on either side of an offset. -/
def divide : Nat → Text → Option (Text × Text)
  | 0, t => some ([], t)
  | _ + 1, [] => none
  | n + 1, c :: t =>
    if c.utf8Size ≤ n + 1 then
      (divide (n + 1 - c.utf8Size) t).map fun (before, after) => (c :: before, after)
    else none

/-- Puts `new` in the place of `length` octets from `offset` on. -/
def replace (offset length : Nat) (new t : Text) : Option Text :=
  match divide offset t with
  | none => none
  | some (before, after) =>
    match divide length after with
    | none => none
    | some (_, rest) => some (before ++ new ++ rest)

@[simp] theorem divide_size (s t : Text) : divide (size s) (s ++ t) = some (s, t) := by
  induction s with
  | nil => cases t <;> simp [divide]
  | cons c s ih =>
    have pos := Char.utf8Size_pos c
    obtain ⟨n, h⟩ : ∃ n, c.utf8Size + size s = n + 1 := ⟨c.utf8Size + size s - 1, by omega⟩
    have rest : n + 1 - c.utf8Size = size s := by omega
    simp [divide, h, rest, ih, show c.utf8Size ≤ n + 1 by omega]

theorem replace_append (a b c new : Text) :
    replace (size a) (size b) new (a ++ (b ++ c)) = some (a ++ new ++ c) := by
  simp [replace]

/-- The pieces between the occurrences of a character; one more than there are occurrences. -/
def pieces (separator : Char) : Text → List Text
  | [] => [[]]
  | c :: t =>
    if c = separator then [] :: pieces separator t
    else
      match pieces separator t with
      | [] => [[c]]
      | piece :: more => (c :: piece) :: more

def join (separator : Text) : List Text → Text
  | [] => []
  | [t] => t
  | t :: more => t ++ separator ++ join separator more

/-- The parts of a text between its line ends; a return in front of a line end belongs to it. -/
def lineParts (t : Text) : List Text :=
  let all := pieces '\n' t
  all.dropLast.map dropReturn ++ [all.getLastD []]
where
  dropReturn (line : Text) : Text :=
    if line.getLast? = some '\r' then line.dropLast else line

/-- The lines of a text, without their ends; a final line end opens no further line. -/
def lines (t : Text) : List Text :=
  let all := lineParts t
  if all.getLastD [] = [] then all.dropLast else all

end Text
end Subselect
