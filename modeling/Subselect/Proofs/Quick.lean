import Subselect.Proofs.Doubles

/-! The quick reading of decimal numbers. It gives a double or is out of range. Where the digits are
few and the power of ten is small nothing is rounded but the result, so that the reading is the
nearest double. -/
namespace Subselect

namespace Decimal

/-- Digits that fit a word are all taken. -/
theorem takeWord_fits (fits : value n t < wordLimit) : takeWord n t = (value n t, []) := by
  induction t generalizing n with
  | nil => rfl
  | cons c t ih =>
    rw [value_cons] at fits ⊢
    have here := Nat.lt_of_le_of_lt (le_value _ t) fits
    rw [takeWord, if_pos here, ih fits]

end Decimal

namespace Binary64

/-! Every step gives a double or is out of range. -/

theorem rounded_withSign (rounded : Rounded false x) : Rounded negative (x.withSign negative) := by
  cases rounded with
  | infinite => exact .infinite
  | finite canonical => exact .finite canonical

theorem rounded_timesPower (rounded : Rounded false x) (e : Nat) :
    Rounded false (x.timesPower e) := by
  unfold timesPower
  split
  · exact rounded_ofUnits false _ _
  split
  · exact rounded
  · exact .infinite

theorem rounded_go (rounded : Rounded false x) (fuel e : Nat) :
    Rounded false (overPower.go fuel x e) := by
  induction fuel generalizing x e with
  | zero => exact rounded_ofUnits false _ _
  | succ fuel ih =>
    rw [overPower.go]
    split
    · exact rounded_ofUnits false _ _
    split
    · exact rounded
    · exact ih (rounded_ofUnits false _ _) _

/-- A decimal number is read as a double or is out of range. -/
theorem rounded_ofWord (negative : Bool) (word : Nat) (e : Int) :
    Rounded negative (ofWord negative word e) := by
  have start : Rounded false (ofQuotient false word 1) := rounded_ofUnits false _ _
  cases e with
  | ofNat e => exact rounded_withSign (rounded_timesPower start e)
  | negSucc e => exact rounded_withSign (rounded_go start _ _)

/-! Exact steps. -/

/-- A number of units that needs no more than 53 binary digits is a double. -/
theorem exists_canonical (below : m < significandLimit) (inside : j ≤ greatestScale) :
    ∃ s k, Canonical s k ∧ s * 2 ^ k = m * 2 ^ j := by
  induction j generalizing m with
  | zero => exact ⟨m, 0, ⟨below, .inl rfl, Nat.zero_le _⟩, rfl⟩
  | succ j ih =>
    by_cases full : significandLimit / 2 ≤ m
    · exact ⟨m, j + 1, ⟨below, .inr full, inside⟩, rfl⟩
    · have twice : 2 * m < significandLimit := by
        simp only [significandLimit] at full ⊢
        omega
      obtain ⟨s, k, canonical, same⟩ := ih twice (Nat.le_of_succ_le inside)
      refine ⟨s, k, canonical, same.trans ?_⟩
      rw [Nat.pow_succ]
      ring

theorem units_exact (below : m < significandLimit) (inside : j ≤ greatestScale) :
    (ofUnits false (m * 2 ^ j) 1).units = m * 2 ^ j := by
  obtain ⟨s, k, canonical, same⟩ := exists_canonical below inside
  rw [← same, ofUnits_exact false canonical]
  rfl

theorem units_word (below : word < significandLimit) :
    (ofQuotient false word 1).units = word * 2 ^ unitPlaces := by
  have inside : unitPlaces ≤ greatestScale := by decide
  rw [ofQuotient, Nat.pow_eq, units_exact below inside]

/-- The exponent of the greatest power of ten that is a double and all powers below it too. -/
def exactPower : Nat := 22

theorem units_powerOfTen (small : e ≤ exactPower) :
    (powerOfTen e).units = 10 ^ e * 2 ^ unitPlaces := by
  have five : 5 ^ e < significandLimit :=
    Nat.lt_of_le_of_lt (Nat.pow_le_pow_right (by decide) small) (by decide)
  have units : 1 * 10 ^ e * 2 ^ unitPlaces = 5 ^ e * 2 ^ (e + unitPlaces) := by
    rw [Nat.one_mul, Nat.pow_add, show 10 = 5 * 2 from rfl, Nat.mul_pow, Nat.mul_assoc]
  have inside : e + unitPlaces ≤ greatestScale := by
    simp only [exactPower, unitPlaces, greatestScale] at small ⊢
    omega
  have nearest : powerOfTen e = ofUnits false (5 ^ e * 2 ^ (e + unitPlaces)) 1 := by
    have one : (Decimal.ofNat 1).length = 1 := rfl
    have low : ¬(e : Int) + (Decimal.ofNat 1).length < -330 := by omega
    have high : ¬(e : Int) + (Decimal.ofNat 1).length > 310 := by
      simp only [exactPower] at small
      omega
    rw [powerOfTen, ofDecimal_eq false (by decide), if_neg high, if_neg low, Int.toNat_natCast,
      Int.toNat_neg_natCast, Nat.pow_zero, ofQuotient, Nat.pow_eq, units]
  rw [nearest, units_exact five inside, ← units, Nat.one_mul]

theorem product_exact (left : x.units = m * 2 ^ unitPlaces) (right : y.units = n * 2 ^ unitPlaces) :
    product x y = ofQuotient false (m * n) 1 := by
  have units (one : Nat) : m * one * (n * one) = m * n * one * one := by ring
  have scaled := ofUnits_scale false (m * n * 2 ^ unitPlaces) 1 (Nat.two_pow_pos unitPlaces)
  rw [Nat.one_mul] at scaled
  rw [product, left, right, units, Nat.pow_eq, scaled, ofQuotient, Nat.pow_eq]

theorem quotient_exact (left : x.units = m * 2 ^ unitPlaces)
    (right : y.units = n * 2 ^ unitPlaces) : quotient x y = ofQuotient false m n := by
  rw [quotient, left, right, Nat.pow_eq, ofUnits_scale false _ _ (Nat.two_pow_pos unitPlaces),
    ofQuotient, Nat.pow_eq]

theorem ofQuotient_zero (positive : 0 < d) : ofQuotient false 0 d = zero false := by
  have scaled := ofQuotient_scale false 0 1 positive
  rw [Nat.zero_mul, Nat.one_mul] at scaled
  rw [scaled, ofQuotient, Nat.zero_mul]
  exact ofUnits_exact false canonical_zero

/-- A significand that is a double, with a power of ten that is one, is read as the nearest
double. -/
theorem ofWord_exact (negative : Bool) (below : word < significandLimit)
    (small : e.natAbs ≤ exactPower) : ofWord negative word e = ofDecimal negative word e := by
  have power (n : Nat) (least : n ≤ exactPower) : n ≤ greatestPower :=
    Nat.le_trans least (by decide)
  have read : ofWord negative word e =
      (ofQuotient false (word * 10 ^ e.toNat) (10 ^ (-e).toNat)).withSign negative := by
    cases e with
    | ofNat n =>
      have small : n ≤ exactPower := small
      have times : (ofQuotient false word 1).timesPower n = ofQuotient false (word * 10 ^ n) 1 := by
        rw [timesPower, if_pos (power n small),
          product_exact (units_word below) (units_powerOfTen small)]
      rw [Int.ofNat_eq_natCast, Int.toNat_neg_natCast, Int.toNat_natCast, Nat.pow_zero, ← times]
      rfl
    | negSucc n =>
      have small : n + 1 ≤ exactPower := small
      have divided : (ofQuotient false word 1).overPower (n + 1) =
          ofQuotient false word (10 ^ (n + 1)) := by
        have few : (n + 1) / greatestPower = 0 :=
          Nat.div_eq_of_lt (Nat.lt_of_le_of_lt small (by decide))
        rw [overPower, few]
        exact quotient_exact (units_word below) (units_powerOfTen small)
      rw [Int.toNat_negSucc, Nat.pow_zero, Nat.mul_one, Int.neg_negSucc, ofWord, divided]
      rfl
  rw [read]
  by_cases none : word = 0
  · subst none
    rw [Nat.zero_mul, ofQuotient_zero (Nat.pow_pos (by decide)), ofDecimal_zero]
    rfl
  · have digits : (Decimal.ofNat word).length ≤ 16 :=
      (length_le_iff word (by decide)).mpr (Nat.lt_trans below (by decide))
    simp only [exactPower] at small
    rw [← ofDecimal_withSign, ofDecimal_eq false none, if_neg (by omega), if_neg (by omega)]

theorem rounded_ofDigits (negative : Bool) (digits places : Text) (e : Int) :
    Rounded negative (ofDigits negative digits places e) :=
  rounded_ofWord negative _ _

/-- Few digits and a small power of ten are read as the nearest double. -/
theorem ofDigits_exact (negative : Bool)
    (below : Decimal.value 0 (digits ++ places) < significandLimit)
    (small : (e - places.length : Int).natAbs ≤ exactPower) :
    ofDigits negative digits places e =
      ofDecimal negative (Decimal.value 0 (digits ++ places)) (e - places.length) := by
  rw [Decimal.value_append] at below ⊢
  have fits : Decimal.value (Decimal.value 0 digits) places < Decimal.wordLimit :=
    Nat.lt_trans below (by decide)
  have front := Decimal.takeWord_fits (Nat.lt_of_le_of_lt (Decimal.le_value _ places) fits)
  have whole := Decimal.takeWord_fits fits
  simp only [ofDigits, front, whole, List.length_nil, Int.natCast_zero, Int.add_zero]
  exact ofWord_exact negative below small

example : ofWord false 31245270191439438 (-15) ≠ ofDecimal false 31245270191439438 (-15) := by
  decide +kernel

end Binary64
end Subselect
