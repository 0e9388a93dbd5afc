import Mathlib.Algebra.Order.Ring.Int

/-!
# Integers of 53 binary digits

A float keeps the 53 leading binary digits of an integer. The integer is rounded to the nearest one
that has no more of them, and half way to the one whose last digit is even. Integers below `2 ^ 53`
are kept as they are, and rounding keeps the order of integers, so two integers are confused only
when both are that great.
-/

namespace ClassApi.Rounding

/-- A quotient rounded to the nearest integer; a half goes to the even neighbour. -/
def divide (n d : Nat) : Nat :=
  if 2 * (n % d) < d then n / d
  else if d < 2 * (n % d) then n / d + 1
  else n / d + n / d % 2

/-- How many binary digits of an integer are more than a float keeps. -/
def excess (n : Nat) : Nat :=
  n.log2 - 52

/-- The natural number that is kept of a natural number. -/
def nearestNat (n : Nat) : Nat :=
  divide n (2 ^ excess n) * 2 ^ excess n

/-- The integer that is kept of an integer. -/
def nearest : Int → Int
  | .ofNat n => nearestNat n
  | .negSucc n => -nearestNat (n + 1)

variable {m n d : Nat}

theorem divide_one (n : Nat) : divide n 1 = n := by
  simp [divide, Nat.mod_one]

theorem le_divide (n d : Nat) : n / d ≤ divide n d := by
  rw [divide]
  split
  · exact Nat.le_refl _
  · split
    · exact Nat.le_succ _
    · exact Nat.le_add_right _ _

theorem divide_le (n d : Nat) : divide n d ≤ n / d + 1 := by
  have hparity := Nat.mod_lt (n / d) (show 0 < 2 by decide)
  rw [divide]
  split
  · exact Nat.le_succ _
  · split
    · exact Nat.le_refl _
    · omega

/-- A factor of both numbers does not count. -/
theorem divide_mul_right (n d : Nat) {c : Nat} (hc : 0 < c) :
    divide (n * c) (d * c) = divide n d := by
  have hless : 2 * (n % d * c) < d * c ↔ 2 * (n % d) < d := by
    rw [← Nat.mul_assoc, Nat.mul_lt_mul_right hc]
  have hgreater : d * c < 2 * (n % d * c) ↔ d < 2 * (n % d) := by
    rw [← Nat.mul_assoc, Nat.mul_lt_mul_right hc]
  simp only [divide, Nat.mul_div_mul_right _ _ hc, Nat.mul_mod_mul_right, hless, hgreater]

theorem divide_mono (h : m ≤ n) : divide m d ≤ divide n d := by
  rcases Nat.lt_or_eq_of_le (Nat.div_le_div_right h : m / d ≤ n / d) with hlt | heq
  · exact Nat.le_trans (divide_le m d) (Nat.le_trans hlt (le_divide n d))
  · have hm := Nat.div_add_mod m d
    have hn := Nat.div_add_mod n d
    have hrest : m % d ≤ n % d := by
      rw [heq] at hm
      omega
    have hparity := Nat.mod_lt (n / d) (show 0 < 2 by decide)
    simp only [divide, heq]
    split_ifs <;> omega

theorem excess_eq_zero (h : n < 2 ^ 53) : excess n = 0 := by
  by_cases hn : n = 0
  · rw [hn, excess, Nat.log2_zero]
  · have hlog := (Nat.log2_lt hn).mpr h
    rw [excess]
    omega

theorem nearestNat_of_lt (h : n < 2 ^ 53) : nearestNat n = n := by
  rw [nearestNat, excess_eq_zero h, Nat.pow_zero, divide_one, Nat.mul_one]

theorem log2_mul_two_pow (hn : n ≠ 0) (k : Nat) : (n * 2 ^ k).log2 = n.log2 + k := by
  induction k with
  | zero => rw [Nat.pow_zero, Nat.mul_one, Nat.add_zero]
  | succ k ih =>
    have hne : n * 2 ^ k ≠ 0 := Nat.mul_ne_zero hn (Nat.ne_of_gt (Nat.two_pow_pos k))
    rw [Nat.pow_succ, ← Nat.mul_assoc, Nat.mul_comm _ 2, Nat.log2_two_mul hne, ih, Nat.add_assoc]

/-- The quotient that is rounded has 53 binary digits. -/
theorem quotient_bounds (h : 52 ≤ n.log2) :
    2 ^ 52 ≤ n / 2 ^ (n.log2 - 52) ∧ n / 2 ^ (n.log2 - 52) < 2 ^ 53 := by
  have hn : n ≠ 0 := by
    rintro rfl
    rw [Nat.log2_zero] at h
    omega
  constructor
  · rw [Nat.le_div_iff_mul_le (Nat.two_pow_pos _), ← Nat.pow_add,
      show 52 + (n.log2 - 52) = n.log2 by omega]
    exact Nat.log2_self_le hn
  · rw [Nat.div_lt_iff_lt_mul (Nat.two_pow_pos _), ← Nat.pow_add,
      show 53 + (n.log2 - 52) = n.log2 + 1 by omega]
    exact Nat.lt_log2_self

/-- What is kept of a number has as many binary digits, or is the least number with one more. -/
theorem nearestNat_bounds (hn : n ≠ 0) :
    2 ^ n.log2 ≤ nearestNat n ∧ nearestNat n ≤ 2 ^ (n.log2 + 1) := by
  by_cases h : n < 2 ^ 53
  · rw [nearestNat_of_lt h]
    exact ⟨Nat.log2_self_le hn, Nat.le_of_lt Nat.lt_log2_self⟩
  · have hlog : 53 ≤ n.log2 := (Nat.le_log2 hn).mpr (Nat.le_of_not_lt h)
    obtain ⟨hlow, hhigh⟩ := quotient_bounds (Nat.le_of_succ_le hlog)
    have hdivide := divide_le n (2 ^ (n.log2 - 52))
    rw [nearestNat, excess]
    constructor
    · calc 2 ^ n.log2 = 2 ^ 52 * 2 ^ (n.log2 - 52) := by
            rw [← Nat.pow_add, show 52 + (n.log2 - 52) = n.log2 by omega]
        _ ≤ divide n (2 ^ (n.log2 - 52)) * 2 ^ (n.log2 - 52) :=
            Nat.mul_le_mul_right _ (Nat.le_trans hlow (le_divide _ _))
    · calc divide n (2 ^ (n.log2 - 52)) * 2 ^ (n.log2 - 52) ≤ 2 ^ 53 * 2 ^ (n.log2 - 52) :=
            Nat.mul_le_mul_right _ (by omega)
        _ = 2 ^ (n.log2 + 1) := by
            rw [← Nat.pow_add, show 53 + (n.log2 - 52) = n.log2 + 1 by omega]

/-- Rounding keeps the order of numbers. -/
theorem nearestNat_mono (h : m ≤ n) : nearestNat m ≤ nearestNat n := by
  by_cases hm : m = 0
  · rw [hm, nearestNat_of_lt (by decide)]
    exact Nat.zero_le _
  · have hn : n ≠ 0 := by omega
    have hlog : m.log2 ≤ n.log2 := (Nat.le_log2 hn).mpr (Nat.le_trans (Nat.log2_self_le hm) h)
    rcases Nat.lt_or_eq_of_le hlog with hlt | heq
    · calc nearestNat m ≤ 2 ^ (m.log2 + 1) := (nearestNat_bounds hm).2
        _ ≤ 2 ^ n.log2 := Nat.pow_le_pow_right (by decide) hlt
        _ ≤ nearestNat n := (nearestNat_bounds hn).1
    · rw [nearestNat, nearestNat, excess, excess, heq]
      exact Nat.mul_le_mul_right _ (divide_mono h)

theorem le_nearestNat (h : 2 ^ 53 ≤ n) : 2 ^ 53 ≤ nearestNat n := by
  have hpow : nearestNat (2 ^ 53) = 2 ^ 53 := by decide
  rw [← hpow]
  exact nearestNat_mono h

theorem nearestNat_le (h : n ≤ 2 ^ 63) : nearestNat n ≤ 2 ^ 63 := by
  have hpow : nearestNat (2 ^ 63) = 2 ^ 63 := by decide +kernel
  rw [← hpow]
  exact nearestNat_mono h

/-! ## Integers -/

theorem nearest_natCast (n : Nat) : nearest (n : Int) = nearestNat n := rfl

theorem nearest_neg_natCast (n : Nat) : nearest (-(n : Int)) = -nearestNat n := by
  cases n with
  | zero => decide
  | succ n => rfl

theorem nearest_mono {a b : Int} (h : a ≤ b) : nearest a ≤ nearest b := by
  obtain ⟨m, rfl | rfl⟩ := Int.eq_nat_or_neg a <;> obtain ⟨n, rfl | rfl⟩ := Int.eq_nat_or_neg b
  · have hmono := nearestNat_mono (Int.ofNat_le.mp h)
    rw [nearest_natCast, nearest_natCast]
    omega
  · obtain rfl : m = 0 := by omega
    obtain rfl : n = 0 := by omega
    decide
  · rw [nearest_neg_natCast, nearest_natCast]
    omega
  · have hmono : nearestNat n ≤ nearestNat m := nearestNat_mono (by omega)
    rw [nearest_neg_natCast, nearest_neg_natCast]
    omega

theorem nearest_of_lt {a : Int} (h : a.natAbs < 2 ^ 53) : nearest a = a := by
  obtain ⟨m, rfl | rfl⟩ := Int.eq_nat_or_neg a
  · rw [nearest_natCast, nearestNat_of_lt (by omega)]
  · rw [nearest_neg_natCast, nearestNat_of_lt (by omega)]

theorem le_nearest {a : Int} (h : 2 ^ 53 ≤ a.natAbs) : 2 ^ 53 ≤ (nearest a).natAbs := by
  obtain ⟨m, rfl | rfl⟩ := Int.eq_nat_or_neg a
  · have hle := le_nearestNat (n := m) (by omega)
    rw [nearest_natCast]
    omega
  · have hle := le_nearestNat (n := m) (by omega)
    rw [nearest_neg_natCast]
    omega

/-- An integer below `2 ^ 53` is confused with no other one. -/
theorem eq_of_nearest_eq {a b : Int} (ha : a.natAbs < 2 ^ 53) (h : nearest a = nearest b) :
    a = b := by
  by_cases hb : b.natAbs < 2 ^ 53
  · rwa [nearest_of_lt ha, nearest_of_lt hb] at h
  · have hle := le_nearest (Nat.le_of_not_lt hb)
    rw [← h, nearest_of_lt ha] at hle
    omega

/-- Integers that are told apart are ordered as what is kept of them. -/
theorem compare_nearest {a b : Int} (h : nearest a = nearest b → a = b) :
    compare (nearest a) (nearest b) = compare a b := by
  rcases Int.lt_trichotomy a b with hlt | rfl | hgt
  · have hle := nearest_mono (Int.le_of_lt hlt)
    have hne : nearest a ≠ nearest b := fun heq => Int.ne_of_lt hlt (h heq)
    rw [Int.compare_eq_lt.mpr hlt, Int.compare_eq_lt.mpr (by omega)]
  · rw [Int.compare_eq_eq.mpr rfl, Int.compare_eq_eq.mpr rfl]
  · have hle := nearest_mono (Int.le_of_lt hgt)
    have hne : nearest a ≠ nearest b := fun heq => Int.ne_of_gt hgt (h heq)
    rw [Int.compare_eq_gt.mpr hgt, Int.compare_eq_gt.mpr (by omega)]

end ClassApi.Rounding
