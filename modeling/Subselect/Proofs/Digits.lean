import Subselect.Decimal.Layout

/-! The digits of whole numbers. They are read back as the number, and none but zero begins with a
zero; so no two runs of digits have one value, but for leading zeros. Numbers that are not whole
have a point among their digits. -/
namespace Subselect.Decimal

theorem ofNat_ne_nil (n : Nat) : ofNat n ≠ [] := Nat.toDigits_ne_nil

theorem isDigit_of_mem_ofNat (member : c ∈ ofNat n) : c.isDigit = true :=
  Nat.isDigit_of_mem_toDigits (by decide) (by decide) member

theorem exists_ofNat_cons (n : Nat) : ∃ c t, ofNat n = c :: t ∧ c.isDigit = true := by
  obtain ⟨c, t, eq⟩ := List.exists_cons_of_ne_nil (ofNat_ne_nil n)
  have member : c ∈ ofNat n := by rw [eq]; exact List.mem_cons_self
  exact ⟨c, t, eq, isDigit_of_mem_ofNat member⟩

theorem value_eq_ofDigitChars (n : Nat) (t : Text) : value n t = Nat.ofDigitChars 10 t n := by
  induction t generalizing n with
  | nil => rfl
  | cons c t ih => exact ih _

theorem value_cons (n : Nat) (c : Char) (t : Text) :
    value n (c :: t) = value (10 * n + (c.toNat - '0'.toNat)) t := by
  rw [value_eq_ofDigitChars, Nat.ofDigitChars_cons, value_eq_ofDigitChars]

theorem value_nil (n : Nat) : value n [] = n := rfl

theorem value_append (n : Nat) (s t : Text) : value n (s ++ t) = value (value n s) t := by
  induction s generalizing n with
  | nil => rfl
  | cons c s ih => rw [List.cons_append, value_cons, value_cons, ih]

theorem le_value (n : Nat) (t : Text) : n ≤ value n t := by
  induction t generalizing n with
  | nil => exact Nat.le_refl n
  | cons c t ih =>
    rw [value_cons]
    have := ih (10 * n + (c.toNat - '0'.toNat))
    omega

theorem value_replicate_zero (n k : Nat) : value n (List.replicate k '0') = n * Nat.pow 10 k := by
  induction k generalizing n with
  | zero => exact (Nat.mul_one n).symm
  | succ k ih =>
    rw [List.replicate_succ, value_cons, ih, Nat.pow_eq, Nat.pow_eq, Nat.pow_succ]
    simp only [Nat.sub_self, Nat.add_zero]
    rw [Nat.mul_comm 10 n, Nat.mul_assoc, Nat.mul_comm 10]

theorem value_ofNat (n : Nat) : value 0 (ofNat n) = n := by
  rw [value_eq_ofDigitChars]
  exact Nat.ofDigitChars_ten_toDigits

theorem digitChar_ne_zero : ∀ n < 10, n ≠ 0 → Nat.digitChar n ≠ '0' := by decide

theorem head?_ofNat (positive : n ≠ 0) : (ofNat n).head? ≠ some '0' := by
  induction n using Nat.strongRecOn with
  | ind n ih =>
    by_cases small : n < 10
    · rw [ofNat, Nat.toDigits_of_lt_base small]
      exact fun same => digitChar_ne_zero n small positive (Option.some.inj same)
    · have whole : ofNat n = ofNat (n / 10) ++ [Nat.digitChar (n % 10)] :=
        Nat.toDigits_of_base_le (by decide) (Nat.le_of_not_lt small)
      have first := ih (n / 10) (by omega) (by omega)
      obtain ⟨c, more, eq, _⟩ := exists_ofNat_cons (n / 10)
      rw [eq] at whole first
      rwa [whole]

theorem ofNat_first (positive : n ≠ 0) : ∃ c more, ofNat n = c :: more ∧ c ≠ '0' := by
  obtain ⟨c, more, eq, _⟩ := exists_ofNat_cons n
  refine ⟨c, more, eq, fun zero => head?_ofNat positive ?_⟩
  rw [eq, zero]
  rfl

theorem digit_lt_ten {c : Char} (digit : c.isDigit = true) : c.toNat - '0'.toNat < 10 := by
  have high := (Char.isDigit_iff_toNat.mp digit).2
  have nine : '9'.toNat = '0'.toNat + 9 := rfl
  omega

theorem digitChar_value {c : Char} (digit : c.isDigit = true) :
    Nat.digitChar (c.toNat - '0'.toNat) = c := by
  apply Char.toNat_inj.mp
  rw [Nat.toNat_digitChar_of_lt_ten (digit_lt_ten digit)]
  exact Nat.add_sub_of_le (Char.isDigit_iff_toNat.mp digit).1

theorem ofNat_digit {c : Char} (digit : c.isDigit = true) : ofNat (c.toNat - '0'.toNat) = [c] := by
  rw [ofNat, Nat.toDigits_of_lt_base (digit_lt_ten digit), digitChar_value digit]

theorem ofNat_append_digit {c : Char} (positive : 0 < n) (digit : c.isDigit = true) :
    ofNat (10 * n + (c.toNat - '0'.toNat)) = ofNat n ++ [c] := by
  rw [← ofNat_digit digit]
  exact (Nat.toDigits_append_toDigits (by decide) positive (digit_lt_ten digit)).symm

/-- Digits read on behind a positive number stand behind its own. -/
theorem ofNat_value_append (positive : 0 < n) (digits : ∀ c ∈ t, c.isDigit = true) :
    ofNat (value n t) = ofNat n ++ t := by
  induction t generalizing n with
  | nil => rw [value_eq_ofDigitChars, Nat.ofDigitChars_nil, List.append_nil]
  | cons c t ih =>
    have next : 0 < 10 * n + (c.toNat - '0'.toNat) := by omega
    rw [value_cons, ih next fun d member => digits d (List.mem_cons_of_mem _ member),
      ofNat_append_digit positive (digits c List.mem_cons_self), ← List.append_cons]

/-- Digits that no zero leads are those of their value. -/
theorem ofNat_value (first : c ≠ '0') (digits : ∀ d ∈ c :: t, d.isDigit = true) :
    ofNat (value 0 (c :: t)) = c :: t := by
  have digit := digits c List.mem_cons_self
  have positive : 0 < c.toNat - '0'.toNat := by
    apply Nat.pos_of_ne_zero
    intro zero
    have back := digitChar_value digit
    rw [zero] at back
    exact first back.symm
  rw [value_cons, Nat.mul_zero, Nat.zero_add,
    ofNat_value_append positive fun d member => digits d (List.mem_cons_of_mem _ member),
    ofNat_digit digit, List.singleton_append]

/-- Digits with at most one point among them. -/
inductive Pointed : Text → Prop where
  | whole : t ≠ [] → (∀ c ∈ t, c.isDigit = true) → Pointed t
  | point : whole ++ fraction ≠ [] → (∀ c ∈ whole ++ fraction, c.isDigit = true) →
      Pointed (whole ++ '.' :: fraction)

theorem Pointed.ne_nil (h : Pointed t) : t ≠ [] := by
  cases h with
  | whole some _ => exact some
  | point => exact List.append_ne_nil_of_right_ne_nil _ (List.cons_ne_nil _ _)

theorem Pointed.mem (h : Pointed t) (member : c ∈ t) : c.isDigit = true ∨ c = '.' := by
  cases h with
  | whole _ digits => exact .inl (digits c member)
  | point _ digits =>
    rcases List.mem_cons.mp (List.perm_middle.mem_iff.mp member) with point | digit
    · exact .inr point
    · exact .inl (digits c digit)

theorem pointed_ofNat (n : Nat) : Pointed (ofNat n) :=
  .whole (ofNat_ne_nil n) fun _ => isDigit_of_mem_ofNat

theorem isDigit_zeros (member : c ∈ Layout.zeros n) : c.isDigit = true := by
  rw [List.eq_of_mem_replicate member]
  rfl

theorem pointed_positionalText (m : Magnitude) : Pointed (Layout.plain.positionalText m) := by
  have digits : ∀ c ∈ ofNat m.digits, c.isDigit = true := fun _ => isDigit_of_mem_ofNat
  have some := ofNat_ne_nil m.digits
  unfold Layout.positionalText
  cases m.exponent with
  | ofNat e =>
    have all : ∀ c ∈ ofNat m.digits ++ Layout.zeros e, c.isDigit = true :=
      List.forall_mem_append.mpr ⟨digits, fun _ => isDigit_zeros⟩
    simpa [Layout.plain] using Pointed.whole (List.append_ne_nil_of_left_ne_nil some _) all
  | negSucc e =>
    dsimp only
    split
    · apply Pointed.point
      · rwa [List.take_append_drop]
      · rwa [List.take_append_drop]
    · refine @Pointed.point ['0'] _ (List.cons_ne_nil _ _) ?_
      rw [List.forall_mem_append, List.forall_mem_append]
      exact ⟨List.forall_mem_singleton.mpr rfl, fun _ => isDigit_zeros, digits⟩

theorem pointed_magnitudeText (significand scale : Nat) :
    Pointed (Layout.plain.magnitudeText significand scale) := by
  unfold Layout.magnitudeText
  split
  · exact pointed_ofNat 0
  · exact pointed_positionalText _

end Subselect.Decimal
