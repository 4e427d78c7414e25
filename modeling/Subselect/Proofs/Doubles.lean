import Mathlib.Tactic.Ring
import Subselect.Decimal.Layout
import Subselect.Decimal.Quick
import Subselect.Proofs.Digits

/-! Doubles and the decimal digits that stand for them. Which double a decimal number is read as
depends on its value alone, and the shortest digits of a double are read as that double. -/
namespace Subselect

namespace Binary64

/-- A significand and a scale as finite numbers have them. -/
structure Canonical (significand scale : Nat) : Prop where
  below : significand < significandLimit
  full : scale = 0 ∨ significandLimit / 2 ≤ significand
  inside : scale ≤ greatestScale

theorem canonical_zero : Canonical 0 0 := ⟨by decide, .inl rfl, Nat.zero_le _⟩

/-- What rounding gives: a double, or infinity where that is out of range. -/
inductive Rounded (negative : Bool) : Binary64 → Prop where
  | infinite : Rounded negative (infinite negative)
  | finite : Canonical s k → Rounded negative (finite negative s k)

/-! Rounding. -/

theorem roundQuotient_bounds (n d : Nat) :
    n / d ≤ roundQuotient n d ∧ roundQuotient n d ≤ n / d + 1 := by
  unfold roundQuotient
  dsimp only
  repeat' split
  all_goals omega

theorem roundQuotient_mul (q : Nat) (positive : 0 < d) : roundQuotient (q * d) d = q := by
  simp [roundQuotient, Nat.mul_div_cancel q positive, positive]

theorem roundQuotient_scale (n d : Nat) (positive : 0 < c) :
    roundQuotient (n * c) (d * c) = roundQuotient n d := by
  have twice : 2 * (n % d * c) = 2 * (n % d) * c := (Nat.mul_assoc 2 (n % d) c).symm
  simp only [roundQuotient, Nat.mul_div_mul_right n d positive, Nat.mul_mod_mul_right, twice,
    Nat.mul_lt_mul_right positive]

/-- Only the value of a quotient counts. -/
theorem ofUnits_scale (negative : Bool) (n d : Nat) (positive : 0 < c) :
    ofUnits negative (n * c) (d * c) = ofUnits negative n d := by
  have scale : scaleOf (n * c) (d * c) = scaleOf n d := by
    rw [scaleOf, Nat.mul_div_mul_right n d positive, scaleOf]
  dsimp only [ofUnits]
  rw [scale, Nat.mul_right_comm, roundQuotient_scale _ _ positive]

theorem ofQuotient_scale (negative : Bool) (n d : Nat) (positive : 0 < c) :
    ofQuotient negative (n * c) (d * c) = ofQuotient negative n d := by
  rw [ofQuotient, Nat.mul_right_comm, ofUnits_scale negative _ _ positive, ofQuotient]

/-- At its scale a quotient has 53 binary digits, or less at the least scale. -/
theorem rounded_bounds (n d : Nat) :
    roundQuotient n (d * 2 ^ scaleOf n d) ≤ significandLimit ∧
      (scaleOf n d = 0 ∨ significandLimit / 2 ≤ roundQuotient n (d * 2 ^ scaleOf n d)) := by
  obtain ⟨low, high⟩ := roundQuotient_bounds n (d * 2 ^ scaleOf n d)
  rw [← Nat.div_div_eq_div_mul] at low high
  generalize roundQuotient n (d * 2 ^ scaleOf n d) = rounded at low high ⊢
  have top : n / d / 2 ^ scaleOf n d < significandLimit := by
    rw [Nat.div_lt_iff_lt_mul (Nat.two_pow_pos _)]
    calc n / d < 2 ^ ((n / d).log2 + 1) := Nat.lt_log2_self
      _ ≤ 2 ^ (53 + scaleOf n d) := Nat.pow_le_pow_right (by decide) (by rw [scaleOf]; omega)
      _ = significandLimit * 2 ^ scaleOf n d := Nat.pow_add 2 53 _
  refine ⟨by omega, ?_⟩
  by_cases least : scaleOf n d = 0
  · exact .inl least
  · refine .inr (Nat.le_trans ?_ low)
    have log : (n / d).log2 = 52 + scaleOf n d := by
      rw [scaleOf] at least ⊢
      omega
    have some : n / d ≠ 0 := by
      intro zero
      rw [zero, Nat.log2_zero] at log
      omega
    rw [Nat.le_div_iff_mul_le (Nat.two_pow_pos _)]
    calc significandLimit / 2 * 2 ^ scaleOf n d
      _ = 2 ^ (52 + scaleOf n d) := (Nat.pow_add 2 52 _).symm
      _ ≤ n / d := log ▸ Nat.log2_self_le some

theorem rounded_ofUnits (negative : Bool) (n d : Nat) :
    Rounded negative (ofUnits negative n d) := by
  obtain ⟨high, full⟩ := rounded_bounds n d
  simp only [ofUnits, Nat.pow_eq]
  generalize roundQuotient n (d * 2 ^ scaleOf n d) = rounded at high full ⊢
  generalize scaleOf n d = scale at full ⊢
  -- a significand that is rounded up to the limit goes to the next scale
  by_cases carry : rounded = significandLimit
  · simp only [carry, if_true]
    by_cases out : scale + 1 > greatestScale
    · rw [if_pos out]
      exact .infinite
    · rw [if_neg out]
      exact .finite ⟨by decide, .inr (Nat.le_refl _), Nat.le_of_not_lt out⟩
  · simp only [carry, if_false]
    by_cases out : scale > greatestScale
    · rw [if_pos out]
      exact .infinite
    · rw [if_neg out]
      exact .finite ⟨Nat.lt_of_le_of_ne high carry, full, Nat.le_of_not_lt out⟩

theorem scaleOf_mul (canonical : Canonical s k) : scaleOf (s * 2 ^ k) 1 = k := by
  obtain ⟨below, full, _⟩ := canonical
  rw [scaleOf, Nat.div_one]
  by_cases least : k = 0
  · subst least
    by_cases zero : s = 0
    · rw [zero]
      decide
    · have log : s.log2 < 53 := (Nat.log2_lt zero).mpr below
      rw [Nat.pow_zero, Nat.mul_one]
      omega
  · have some : significandLimit / 2 ≤ s := full.resolve_left least
    have zero : s * 2 ^ k ≠ 0 :=
      Nat.mul_ne_zero (fun zero => absurd (zero ▸ some) (by decide)) (Nat.two_pow_pos k).ne'
    have log : (s * 2 ^ k).log2 = 52 + k := by
      rw [Nat.log2_eq_iff zero, Nat.add_right_comm, Nat.pow_add, Nat.pow_add]
      exact ⟨Nat.mul_le_mul_right _ some, Nat.mul_lt_mul_of_pos_right below (Nat.two_pow_pos k)⟩
    omega

/-- A double is the one nearest to its own value. -/
theorem ofUnits_exact (negative : Bool) (canonical : Canonical s k) :
    ofUnits negative (s * 2 ^ k) 1 = finite negative s k := by
  have rounded : roundQuotient (s * 2 ^ k) (1 * 2 ^ k) = s := by
    rw [Nat.one_mul]
    exact roundQuotient_mul s (Nat.two_pow_pos k)
  simp only [ofUnits, Nat.pow_eq, scaleOf_mul canonical, rounded,
    Nat.ne_of_lt canonical.below, if_false]
  exact if_neg (Nat.not_lt_of_le canonical.inside)

/-! Decimal numbers. -/

theorem ofUnits_withSign (negative : Bool) (n d : Nat) :
    (ofUnits false n d).withSign negative = ofUnits negative n d := by
  dsimp only [ofUnits]
  split <;> split <;> rfl

/-- A decimal number within the cut-offs is a quotient of whole numbers. -/
theorem ofDecimal_eq (negative : Bool) (some : d ≠ 0) (e : Int) : ofDecimal negative d e =
    if e + (Decimal.ofNat d).length > 310 then infinite negative
    else if e + (Decimal.ofNat d).length < -330 then zero negative
    else ofQuotient negative (d * 10 ^ e.toNat) (10 ^ (-e).toNat) := by
  rw [ofDecimal.eq_def, if_neg some]
  cases e with
  | ofNat e =>
    rw [Int.ofNat_eq_natCast, Int.toNat_neg_natCast]
    rfl
  | negSucc e =>
    rw [Int.toNat_negSucc, Nat.pow_zero, Nat.mul_one]
    rfl

theorem ofDecimal_zero (negative : Bool) (e : Int) : ofDecimal negative 0 e = zero negative := rfl

theorem ofDecimal_withSign (negative : Bool) (d : Nat) (e : Int) :
    (ofDecimal false d e).withSign negative = ofDecimal negative d e := by
  by_cases none : d = 0
  · rw [none, ofDecimal_zero, ofDecimal_zero]
    rfl
  · rw [ofDecimal_eq false none, ofDecimal_eq negative none]
    split
    · rfl
    split
    · rfl
    · exact ofUnits_withSign negative _ _

theorem length_ofNat_ten (some : d ≠ 0) :
    (Decimal.ofNat (10 * d)).length = (Decimal.ofNat d).length + 1 := by
  have digits : Decimal.ofNat (10 * d) = Decimal.ofNat d ++ ['0'] :=
    Decimal.ofNat_append_digit (Nat.pos_of_ne_zero some) (c := '0') rfl
  rw [digits, List.length_append]
  rfl

/-- A zero behind the digits is as good as none. -/
theorem ofDecimal_shift (negative : Bool) (d : Nat) (e : Int) :
    ofDecimal negative (10 * d) (e - 1) = ofDecimal negative d e := by
  by_cases none : d = 0
  · rw [none, Nat.mul_zero, ofDecimal_zero, ofDecimal_zero]
  have some : 10 * d ≠ 0 := by omega
  have places : e - 1 + ((Decimal.ofNat d).length + 1 : Nat) = e + (Decimal.ofNat d).length := by
    omega
  have quotient : ofQuotient negative (10 * d * 10 ^ (e - 1).toNat) (10 ^ (-(e - 1)).toNat) =
      ofQuotient negative (d * 10 ^ e.toNat) (10 ^ (-e).toNat) := by
    by_cases whole : 1 ≤ e
    · have more : e.toNat = (e - 1).toNat + 1 := by omega
      have none : (-(e - 1)).toNat = 0 ∧ (-e).toNat = 0 := by omega
      rw [none.1, none.2, more, Nat.pow_succ, Nat.mul_comm 10 d, Nat.mul_assoc,
        Nat.mul_comm 10]
    · have more : (-(e - 1)).toNat = (-e).toNat + 1 := by omega
      have none : (e - 1).toNat = 0 ∧ e.toNat = 0 := by omega
      rw [none.1, none.2, more, Nat.pow_succ, Nat.pow_zero, Nat.mul_one, Nat.mul_one,
        Nat.mul_comm 10 d, ofQuotient_scale negative _ _ (by decide)]
  rw [ofDecimal_eq negative some, ofDecimal_eq negative none, length_ofNat_ten none, places,
    quotient]

theorem ofDecimal_zeros (negative : Bool) (d : Nat) (e : Int) (k : Nat) :
    ofDecimal negative (d * 10 ^ k) (e - k) = ofDecimal negative d e := by
  induction k with
  | zero => simp
  | succ k ih =>
    have digits : d * 10 ^ (k + 1) = 10 * (d * 10 ^ k) := by
      rw [Nat.pow_succ, ← Nat.mul_assoc, Nat.mul_comm]
    have exponent : e - (k + 1 : Nat) = e - k - 1 := by omega
    rw [digits, exponent, ofDecimal_shift, ih]

/-- The first digit of a number that is read as a finite one other than zero is not far from the
point. -/
theorem places_bounds (read : ofDecimal negative d e = finite negative s k) (some : s ≠ 0) :
    d ≠ 0 ∧ -330 ≤ e + (Decimal.ofNat d).length ∧ e + (Decimal.ofNat d).length ≤ 310 := by
  have positive : d ≠ 0 := by
    rintro rfl
    cases read
    exact some rfl
  refine ⟨positive, ?_⟩
  rw [ofDecimal_eq negative positive] at read
  split at read
  · cases read
  split at read
  · cases read
    exact absurd rfl some
  · omega

/-! The exact digits of a double. -/

/-- The cut-offs are beyond the greatest double and below the least. -/
theorem two_pow_lt (cutoff : k = 1024 ∧ m = 309 ∨ k = 1074 ∧ m = 330) (small : n ≤ k) :
    2 ^ n < 10 ^ m := by
  have beyond : Nat.pow 2 k < Nat.pow 10 m := by
    rcases cutoff with ⟨rfl, rfl⟩ | ⟨rfl, rfl⟩ <;> decide +kernel
  exact Nat.lt_of_le_of_lt (Nat.pow_le_pow_right (by decide) small) beyond

theorem length_le_iff (n : Nat) (positive : 0 < k) : (Decimal.ofNat n).length ≤ k ↔ n < 10 ^ k :=
  Nat.length_toDigits_le_iff (by decide) positive

/-- A double without a fraction is not too great. -/
theorem length_whole (below : s < significandLimit) (small : n ≤ 971) :
    (Decimal.ofNat (s * 2 ^ n)).length ≤ 309 := by
  rw [length_le_iff _ (by decide)]
  calc s * 2 ^ n < 2 ^ 53 * 2 ^ n := Nat.mul_lt_mul_of_pos_right below (Nat.two_pow_pos _)
    _ = 2 ^ (53 + n) := (Nat.pow_add 2 53 _).symm
    _ < 10 ^ 309 := two_pow_lt (.inl ⟨rfl, rfl⟩) (by omega)

/-- Nor is one with a fraction. -/
theorem length_fraction (below : s < significandLimit) (p : Nat) :
    (Decimal.ofNat (s * 5 ^ p)).length ≤ 16 + p := by
  rw [length_le_iff _ (by omega)]
  calc s * 5 ^ p < 10 ^ 16 * 5 ^ p :=
        Nat.mul_lt_mul_of_pos_right (Nat.lt_trans below (by decide)) (Nat.pow_pos (by decide))
    _ ≤ 10 ^ 16 * 10 ^ p := Nat.mul_le_mul_left _ (Nat.pow_le_pow_left (by decide) p)
    _ = 10 ^ (16 + p) := (Nat.pow_add 10 16 p).symm

/-- A double with a fraction is not too small: `2 ^ -p` is above the cut-off. -/
theorem sub_lt_length (some : s ≠ 0) (far : 330 < p) (small : p ≤ 1074) :
    p - 330 < (Decimal.ofNat (s * 5 ^ p)).length := by
  rw [← Nat.not_le, length_le_iff _ (by omega), Nat.not_lt]
  have cutoff : 2 ^ p < 10 ^ 330 := two_pow_lt (.inr ⟨rfl, rfl⟩) small
  apply Nat.le_of_mul_le_mul_right _ (Nat.pow_pos (n := 330) (by decide : 0 < 10))
  calc 10 ^ (p - 330) * 10 ^ 330 = 2 ^ p * 5 ^ p := by
        rw [← Nat.pow_add, Nat.sub_add_cancel (Nat.le_of_lt far), ← Nat.mul_pow]
    _ ≤ 10 ^ 330 * 5 ^ p := Nat.mul_le_mul_right _ (Nat.le_of_lt cutoff)
    _ ≤ 10 ^ 330 * (s * 5 ^ p) :=
        Nat.mul_le_mul_left _ (Nat.le_mul_of_pos_left _ (Nat.pos_of_ne_zero some))
    _ = s * 5 ^ p * 10 ^ 330 := Nat.mul_comm _ _

/-- The first of the exact digits stands within the cut-offs. -/
theorem exactDecimal_places (canonical : Canonical s k) (some : s ≠ 0) :
    (exactDecimal s k).1 ≠ 0 ∧
      -330 ≤ -(exactDecimal s k).2 + ((Decimal.ofNat (exactDecimal s k).1).length : Int) ∧
      -(exactDecimal s k).2 + ((Decimal.ofNat (exactDecimal s k).1).length : Int) ≤ 310 := by
  obtain ⟨below, _, inside⟩ := canonical
  simp only [exactDecimal, unitPlaces, greatestScale, Nat.pow_eq] at inside ⊢
  by_cases whole : 1074 ≤ k
  · simp only [whole, if_true]
    have high : (Decimal.ofNat (s * 2 ^ (k - 1074))).length ≤ 309 := length_whole below (by omega)
    exact ⟨Nat.mul_ne_zero some (Nat.two_pow_pos _).ne', by omega, by omega⟩
  · simp only [whole, if_false]
    generalize fraction : 1074 - k = p
    have high := length_fraction below p
    have low (far : 330 < p) := sub_lt_length some far (by omega)
    exact ⟨Nat.mul_ne_zero some (Nat.pow_pos (by decide)).ne', by omega, by omega⟩

theorem ofQuotient_exactDecimal (negative : Bool) (s k : Nat) :
    ofQuotient negative (exactDecimal s k).1 (10 ^ (exactDecimal s k).2) =
      ofUnits negative (s * 2 ^ k) 1 := by
  simp only [exactDecimal, ofQuotient, Nat.pow_eq]
  by_cases whole : unitPlaces ≤ k
  · simp only [whole, if_true]
    rw [Nat.mul_assoc, ← Nat.pow_add, Nat.sub_add_cancel whole, Nat.pow_zero]
  · simp only [whole, if_false]
    generalize fraction : unitPlaces - k = p
    have units : s * 5 ^ p * 2 ^ unitPlaces = s * 2 ^ k * 10 ^ p := by
      have split : unitPlaces = k + p := by omega
      rw [split, Nat.pow_add, show 10 = 2 * 5 from rfl, Nat.mul_pow]
      ring
    have scaled := ofUnits_scale negative (s * 2 ^ k) 1 (Nat.pow_pos (n := p) (by decide : 0 < 10))
    rw [Nat.one_mul] at scaled
    rw [units, scaled]

/-- The exact digits of a double are read as that double. -/
theorem ofDecimal_exact (canonical : Canonical s k) (some : s ≠ 0) :
    ofDecimal false (exactDecimal s k).1 (-(exactDecimal s k).2) = finite false s k := by
  obtain ⟨positive, low, high⟩ := exactDecimal_places canonical some
  rw [ofDecimal_eq false positive, if_neg (Int.not_lt.mpr high), if_neg (Int.not_lt.mpr low),
    Int.neg_neg, Int.toNat_natCast, Int.toNat_neg_natCast, Nat.pow_zero, Nat.mul_one,
    ofQuotient_exactDecimal, ofUnits_exact false canonical]

end Binary64

/-! The shortest digits of a double. -/

namespace Decimal

open Binary64 (Canonical ofDecimal ofDecimal_shift ofDecimal_exact ofDecimal_withSign exactDecimal)

theorem ofDecimal_go (negative : Bool) (fuel : Nat) (m : Magnitude) :
    ofDecimal negative (Magnitude.reduce.go fuel m).digits (Magnitude.reduce.go fuel m).exponent =
      ofDecimal negative m.digits m.exponent := by
  induction fuel generalizing m with
  | zero => rfl
  | succ fuel ih =>
    rw [Magnitude.reduce.go]
    split
    · next trailing =>
      have shift := ofDecimal_shift negative (m.digits / 10) (m.exponent + 1)
      have digits : 10 * (m.digits / 10) = m.digits := by omega
      rw [digits, Int.add_sub_cancel] at shift
      rw [ih, shift]
    · rfl

/-- Digits without trailing zeros are read as the same double. -/
theorem ofDecimal_reduce (negative : Bool) (m : Magnitude) :
    ofDecimal negative m.reduce.digits m.reduce.exponent = ofDecimal negative m.digits m.exponent :=
  ofDecimal_go negative _ m

theorem nearest_readsAs (found : nearest tie x exact drop = some m) : m.readsAs x = true := by
  simp only [nearest] at found
  split at found
  all_goals
    split at found
    · next reads => exact Option.some.inj found ▸ reads
    split at found
    · next reads => exact Option.some.inj found ▸ reads
    · cases found

/-- The digits a double is written with are read as that double. -/
theorem ofDecimal_shortest (negative : Bool) (tie : Tie) (canonical : Canonical s k)
    (some : s ≠ 0) : ofDecimal negative (shortest tie s k).digits (shortest tie s k).exponent =
      .finite negative s k := by
  have exact : ofDecimal false (exactDecimal s k).1 (-(exactDecimal s k).2) = .finite false s k :=
    ofDecimal_exact canonical some
  have reads : ofDecimal false (shortest tie s k).digits (shortest tie s k).exponent =
      .finite false s k := by
    simp only [shortest, ofDecimal_reduce]
    generalize found : List.findSome? _ _ = result
    cases result with
    | none => exact exact
    | some m =>
      obtain ⟨i, _, here⟩ := List.exists_of_findSome?_eq_some found
      split at here
      · exact beq_iff_eq.mp (nearest_readsAs here)
      · exact Option.some.inj here ▸ exact
  rw [← ofDecimal_withSign, reads]
  rfl

end Decimal
end Subselect
