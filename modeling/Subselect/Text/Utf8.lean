import Subselect.Text.Basic

/-! UTF-8. Decoding never fails: each longest run of octets that starts a character but does not
complete it becomes one replacement character. -/
namespace Subselect.Text

def encodeUtf8 (t : Text) : List UInt8 := t.flatMap String.utf8EncodeChar

def replacement : Char := '\ufffd'

/-- A character in the making: the octets it still needs, the range the next of them has to be
in, and the bits gathered. -/
structure Partial where
  owed : Nat
  low : Nat
  high : Nat
  bits : Nat

/-- The character or the beginning of one that an octet between characters stands for. -/
def startUtf8 (b : Nat) : Char ⊕ Partial :=
  if b < 0x80 then .inl (Char.ofNat b)
  else if 0xC2 ≤ b ∧ b ≤ 0xDF then .inr ⟨1, 0x80, 0xBF, b - 0xC0⟩
  else if b = 0xE0 then .inr ⟨2, 0xA0, 0xBF, 0⟩
  else if b = 0xED then .inr ⟨2, 0x80, 0x9F, 0xD⟩
  else if 0xE1 ≤ b ∧ b ≤ 0xEF then .inr ⟨2, 0x80, 0xBF, b - 0xE0⟩
  else if b = 0xF0 then .inr ⟨3, 0x90, 0xBF, 0⟩
  else if 0xF1 ≤ b ∧ b ≤ 0xF3 then .inr ⟨3, 0x80, 0xBF, b - 0xF0⟩
  else if b = 0xF4 then .inr ⟨3, 0x80, 0x8F, 4⟩
  else .inl replacement

def decodeUtf8 (octets : List UInt8) : Text := go none octets
where
  go : Option Partial → List UInt8 → Text
    | none, [] => []
    | some _, [] => [replacement]
    | none, b :: more =>
      match startUtf8 b.toNat with
      | .inl c => c :: go none more
      | .inr p => go (some p) more
    | some p, b :: more =>
      if p.low ≤ b.toNat ∧ b.toNat ≤ p.high then
        let bits := p.bits * 64 + b.toNat % 64
        if p.owed ≤ 1 then Char.ofNat bits :: go none more
        else go (some ⟨p.owed - 1, 0x80, 0xBF, bits⟩) more
      else
        match startUtf8 b.toNat with
        | .inl c => replacement :: c :: go none more
        | .inr p => replacement :: go (some p) more

/-- Whether octets are the UTF-8 form of a text: a replaced run would not come back. -/
def isUtf8 (octets : List UInt8) : Bool := encodeUtf8 (decodeUtf8 octets) == octets

end Subselect.Text
