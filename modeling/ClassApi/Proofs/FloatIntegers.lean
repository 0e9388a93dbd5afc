import ClassApi.Proofs.FloatOrder
import ClassApi.Proofs.Rounding

/-!
# Integers as floats

A natural number becomes a float by shifting out its last binary digits until 53 are left, which are
rounded by what has been shifted out, and by packing them. What is read back stands for the nearest
integer of 53 digits, so integers of 64 bits are compared as what rounding keeps of them. However
great an integer is, it does not become something that is no number.
-/

namespace ClassApi

namespace FloatOrder

open Float.Model Float.Model.UnpackedFloat

/-! ## Shifting -/

/-- Whether shifted digits keep what is needed to round a quotient: its whole part, and where the
rest stands to one half. -/
structure Keeps (em : ExtendedMantissa) (n d : Nat) : Prop where
  mantissa : em.mantissa = n / d
  roundBit : em.roundBit = true ↔ d ≤ 2 * (n % d)
  stickyBit : em.stickyBit = true ↔ n % d ≠ 0 ∧ 2 * (n % d) ≠ d

theorem keeps_one (n : Nat) : Keeps (ExtendedMantissa.ofMantissaAndAccuracy n .exact) n 1 where
  mantissa := (Nat.div_one n).symm
  roundBit := by simp [ExtendedMantissa.ofMantissaAndAccuracy, Nat.mod_one]
  stickyBit := by simp [ExtendedMantissa.ofMantissaAndAccuracy, Nat.mod_one]

theorem Keeps.shiftRightOne {em : ExtendedMantissa} {n d : Nat} (h : Keeps em n d) (hd : 0 < d) :
    Keeps em.shiftRightOne n (d * 2) := by
  -- the digit that is shifted out stands for one half of the new divisor
  have hrest : n % (d * 2) = n % d + d * (n / d % 2) := Nat.mod_mul
  have hsmall := Nat.mod_lt n hd
  have hparity : n / d % 2 = 0 ∨ n / d % 2 = 1 := by omega
  refine ⟨?_, ?_, ?_⟩
  · rw [ExtendedMantissa.shiftRightOne, h.mantissa, Nat.div_div_eq_div_mul]
  · rw [ExtendedMantissa.shiftRightOne, h.mantissa, hrest, bne_iff_ne]
    rcases hparity with heven | hodd
    · rw [heven]
      omega
    · rw [hodd]
      omega
  · simp only [ExtendedMantissa.shiftRightOne, Bool.or_eq_true, h.roundBit, h.stickyBit]
    rw [hrest]
    rcases hparity with heven | hodd
    · rw [heven]
      omega
    · rw [hodd]
      omega

theorem keeps_shiftRight (n k : Nat) :
    Keeps (ExtendedMantissa.ofMantissaAndAccuracy n .exact >>> k) n (2 ^ k) := by
  induction k with
  | zero => exact keeps_one n
  | succ k ih => exact ih.shiftRightOne (Nat.two_pow_pos k)

theorem Keeps.roundedMantissa {em : ExtendedMantissa} {n d : Nat} (h : Keeps em n d) :
    em.roundedMantissa = Rounding.divide n d := by
  obtain ⟨mantissa, roundBit, stickyBit⟩ := em
  obtain ⟨rfl, hround, hsticky⟩ := h
  simp only at hround hsticky
  rw [ExtendedMantissa.roundedMantissa, Rounding.divide]
  cases roundBit <;> cases stickyBit <;>
    simp only [reduceCtorEq, false_iff, true_iff, Nat.not_le] at hround hsticky
  all_goals
    simp only [ExtendedMantissa.accuracy, Accuracy.roundToNearestEven]
    split_ifs <;> omega

/-! ## Rounding -/

theorem finite_congr {s s' : Sign} {m m' : Nat} {e e' : Int} {hm : 0 < m} {hm' : 0 < m'}
    (hs : s = s') (hmm : m = m') (he : e = e') : finite s m e hm = finite s' m' e' hm' := by
  subst hs hmm he
  rfl

theorem mantissaBits_binary64 : Format.binary64.mantissaBits = 53 :=
  rfl

/-- Digits are shifted out until 53 are left. -/
theorem shiftToTargetExponent_eq {n : Nat} {e : Int} (hn : 52 ≤ n.log2)
    (he : -1074 ≤ e + n.log2 - 52) :
    shiftToTargetExponent Format.binary64 n e .exact =
      (ExtendedMantissa.ofMantissaAndAccuracy n .exact >>> (n.log2 - 52),
        e + (n.log2 - 52 : Nat)) := by
  have htarget : Format.binary64.targetExponent (totalExponent n e) = e + (n.log2 - 52 : Nat) := by
    simp only [Format.targetExponent, totalExponent, mantissaBits_binary64, Format.minExponent]
    omega
  have hamount : (e + (n.log2 - 52 : Nat) - e).toNat = n.log2 - 52 := by omega
  simp only [shiftToTargetExponent, shiftToExponent, htarget, hamount]

/-- A number is shifted, rounded and shifted again. What then remains, unless it is 0, is its
significand. -/
theorem roundWithAccuracy_eq (s : Sign) {n : Nat} {e e₁ e₂ : Int} {a : Accuracy}
    {em₁ em₂ : ExtendedMantissa} (hfirst : shiftToTargetExponent Format.binary64 n e a = (em₁, e₁))
    (hsecond : shiftToTargetExponent Format.binary64 em₁.roundedMantissa e₁ .exact = (em₂, e₂)) :
    roundWithAccuracy Format.binary64 s n e a =
      if h : em₂.mantissa = 0 then .zero s
      else .finite s em₂.mantissa e₂ (Nat.pos_of_ne_zero h) := by
  delta roundWithAccuracy
  rw [hfirst]
  dsimp only
  rw [hsecond]

/-- The significand and exponent that remain of a number with 53 or more digits: those of the
rounded quotient, from which one more digit is shifted out if rounding has added one. -/
theorem exists_roundWithAccuracy (s : Sign) {n : Nat} {e : Int} (hn : 52 ≤ n.log2)
    (he : -1074 ≤ e + n.log2 - 52) :
    ∃ (m c : Nat) (hm : 0 < m), roundWithAccuracy Format.binary64 s n e .exact =
        .finite s m (e + (n.log2 - 52 : Nat) + c) hm ∧
      2 ^ 52 ≤ m ∧ m < 2 ^ 53 ∧ c ≤ 1 ∧ m * 2 ^ c = Rounding.divide n (2 ^ (n.log2 - 52)) := by
  obtain ⟨hlow, hhigh⟩ := Rounding.quotient_bounds hn
  have hle := Rounding.le_divide n (2 ^ (n.log2 - 52))
  have hle' := Rounding.divide_le n (2 ^ (n.log2 - 52))
  generalize hr : Rounding.divide n (2 ^ (n.log2 - 52)) = r at hle hle'
  have hrounded :
      (ExtendedMantissa.ofMantissaAndAccuracy n .exact >>> (n.log2 - 52)).roundedMantissa = r :=
    (keeps_shiftRight n _).roundedMantissa.trans hr
  -- rounding up the greatest quotient adds a digit, and this digit is 0
  obtain ⟨c, hlog, hc, hhalf⟩ : ∃ c, r.log2 = 52 + c ∧ c ≤ 1 ∧ r / 2 ^ c * 2 ^ c = r := by
    rcases Nat.lt_or_ge r (2 ^ 53) with hless | hmore
    · have hlog : r.log2 = 52 := by
        have hlt := (Nat.log2_lt (by omega)).mpr hless
        have hge : 52 ≤ r.log2 := (Nat.le_log2 (by omega)).mpr (by omega)
        omega
      exact ⟨0, hlog, by decide, by rw [Nat.pow_zero, Nat.div_one, Nat.mul_one]⟩
    · obtain rfl : r = 2 ^ 53 := by omega
      exact ⟨1, Nat.log2_two_pow, by decide, by decide⟩
  have hm : 2 ^ 52 ≤ r / 2 ^ c ∧ r / 2 ^ c < 2 ^ 53 := by
    have hquotient := Rounding.quotient_bounds (n := r) (by omega)
    rwa [hlog, Nat.add_sub_cancel_left] at hquotient
  have hpos : 0 < r / 2 ^ c := by omega
  refine ⟨r / 2 ^ c, c, hpos, ?_, hm.1, hm.2, hc, hhalf⟩
  have hsecond :=
    shiftToTargetExponent_eq (n := r) (e := e + (n.log2 - 52 : Nat)) (by omega) (by omega)
  have hmantissa := (keeps_shiftRight r c).mantissa
  rw [hlog, Nat.add_sub_cancel_left] at hsecond
  rw [roundWithAccuracy_eq s (shiftToTargetExponent_eq hn he) (by rw [hrounded, hsecond]),
    dif_neg (hmantissa ▸ Nat.ne_of_gt hpos)]
  exact finite_congr rfl hmantissa rfl

theorem isNaN_roundWithAccuracy (s : Sign) (n : Nat) (e : Int) (a : Accuracy) :
    (roundWithAccuracy Format.binary64 s n e a).isNaN = false := by
  obtain ⟨⟨em₁, e₁⟩, hfirst⟩ : ∃ p, shiftToTargetExponent Format.binary64 n e a = p := ⟨_, rfl⟩
  obtain ⟨⟨em₂, e₂⟩, hsecond⟩ :
    ∃ p, shiftToTargetExponent Format.binary64 em₁.roundedMantissa e₁ .exact = p := ⟨_, rfl⟩
  rw [roundWithAccuracy_eq s hfirst hsecond]
  by_cases h : em₂.mantissa = 0
  · rw [dif_pos h]
    rfl
  · rw [dif_neg h]
    rfl

/-! ## Packing -/

/-- Exponents that are not full belong to numbers. -/
theorem ofNat_ne_full {b : Nat} (hb : b < 2047) : BitVec.ofNat 11 b ≠ -1#11 := by
  intro h
  have hnat := congrArg BitVec.toNat h
  rw [BitVec.toNat_ofNat, Nat.mod_eq_of_lt (by omega), BitVec.neg_one_eq_allOnes,
    BitVec.toNat_allOnes] at hnat
  omega

theorem ofBitVec_toBitVec (s : Sign) : Sign.ofBitVec s.toBitVec = s := by
  cases s <;> rfl

/-- The sign is read back as it is packed. -/
theorem sign_packComponents {format : Format} (s : Sign) (e : BitVec format.exponentBits)
    (m : BitVec format.mantissaBitsWithoutImplicit) :
    unpackSign (packComponents format s e m) = s.toBitVec := by
  refine BitVec.eq_of_getLsbD_eq fun i hi => ?_
  obtain rfl : i = 0 := by omega
  delta unpackSign
  simp [packComponents, BitVec.getLsbD_append, BitVec.getElem_append]

section Bits

variable {b : BitVec Format.binary64.numBits}

theorem unpack_zero (he : unpackExponent b = 0#11) (hm : unpackMantissa b = 0#52) :
    UnpackedFloat.unpack Format.binary64 b = .zero (Sign.ofBitVec (unpackSign b)) := by
  have hfull : unpackExponent b ≠ -1#11 := by
    rw [he]
    decide
  delta UnpackedFloat.unpack
  dsimp only
  rw [if_neg hfull, if_pos he, dif_pos hm]

/-- When the exponent is neither full nor zero, a digit is put in front of the others. -/
theorem exists_unpack_normal (hfull : unpackExponent b ≠ -1#11) (hzero : unpackExponent b ≠ 0#11) :
    ∃ hm, UnpackedFloat.unpack Format.binary64 b =
      .finite (Sign.ofBitVec (unpackSign b)) (1#1 ++ unpackMantissa b).toNat
        ((unpackExponent b).toNat - ((1023 : Nat) + (52 : Nat))) hm := by
  delta UnpackedFloat.unpack
  dsimp only
  rw [if_neg hfull, if_neg hzero]
  exact ⟨_, rfl⟩

/-- What is read of bits is a number unless the exponent is full and the rest is not zero. -/
theorem isNaN_unpack (h : unpackExponent b ≠ -1#11 ∨ unpackMantissa b = 0#52) :
    (UnpackedFloat.unpack Format.binary64 b).isNaN = false := by
  by_cases hfull : unpackExponent b = -1#11
  · have hm : unpackMantissa b = 0#52 := h.resolve_left fun hne => hne hfull
    delta UnpackedFloat.unpack
    dsimp only
    rw [if_pos hfull, if_pos hm]
    rfl
  · by_cases he : unpackExponent b = 0#11
    · by_cases hm : unpackMantissa b = 0#52
      · rw [unpack_zero he hm]
        rfl
      · delta UnpackedFloat.unpack
        dsimp only
        rw [if_neg hfull, if_pos he, dif_neg hm]
        rfl
    · obtain ⟨hm, hnormal⟩ := exists_unpack_normal hfull he
      rw [hnormal]
      rfl

end Bits

/-- No number is packed into something that is none. -/
theorem isNaN_pack {u : UnpackedFloat} (h : u.isNaN = false) :
    (Float.Model.pack u).unpack.isNaN = false := by
  have hcomponents : ∀ (s : Sign) (e : BitVec 11) (m : BitVec 52), e ≠ -1#11 ∨ m = 0#52 →
      (UnpackedFloat.unpack Format.binary64 (packComponents Format.binary64 s e m)).isNaN =
          false := by
    intro s e m hnumber
    refine isNaN_unpack ?_
    rw [unpackExponent_packComponents, unpackMantissa_packComponents]
    exact hnumber
  show (UnpackedFloat.unpack Format.binary64 (UnpackedFloat.pack Format.binary64 u)).isNaN = false
  cases u with
  | notANumber => cases h
  | infinity s => exact hcomponents s _ _ (Or.inr rfl)
  | zero s => exact hcomponents s _ _ (Or.inr rfl)
  | finite s m e hm =>
    delta UnpackedFloat.pack
    dsimp only
    split_ifs with hover hnormal
    · exact hcomponents s _ _ (Or.inr rfl)
    · exact hcomponents s _ _ (Or.inl (ofNat_ne_full (by omega)))
    · exact hcomponents s _ _ (Or.inl (by decide))

/-- Numbers of 53 digits are read back as they are packed. -/
theorem unpack_pack_finite (s : Sign) {m : Nat} {e : Int} (hm : 0 < m) (hlow : 2 ^ 52 ≤ m)
    (hhigh : m < 2 ^ 53) (he : -1074 ≤ e) (he' : e ≤ 971) :
    (Float.Model.pack (.finite s m e hm)).unpack = .finite s m e hm := by
  have hlog : m.log2 + 1 = Format.binary64.mantissaBits := by
    have hlt := (Nat.log2_lt (Nat.ne_of_gt hm)).mpr hhigh
    have hge := (Nat.le_log2 (Nat.ne_of_gt hm)).mpr hlow
    show m.log2 + 1 = 53
    omega
  generalize hb : (e + 1075).toNat = b
  have hpack : UnpackedFloat.pack Format.binary64 (.finite s m e hm) =
      packComponents Format.binary64 s (BitVec.ofNat 11 b) (BitVec.ofNat 52 m) := by
    have hbias :
        (e + Format.binary64.exponentBias + Format.binary64.mantissaBitsWithoutImplicit).toNat =
            b := by
      show (e + (1023 : Nat) + (52 : Nat)).toNat = b
      omega
    delta UnpackedFloat.pack
    dsimp only
    rw [hbias, if_neg, if_pos hlog]
    show ¬ 2 ^ 11 ≤ b + 1
    omega
  have hexponent : (BitVec.ofNat 11 b).toNat = b := by
    rw [BitVec.toNat_ofNat, Nat.mod_eq_of_lt (by omega)]
  have hzero : BitVec.ofNat 11 b ≠ 0#11 := by
    intro h
    have hnat := congrArg BitVec.toNat h
    rw [hexponent, BitVec.toNat_zero] at hnat
    omega
  -- the leading digit is not kept, since it is known
  have hmantissa : (1#1 ++ BitVec.ofNat 52 m).toNat = m := by
    rw [BitVec.toNat_append, ← Nat.shiftLeft_add_eq_or_of_lt (BitVec.isLt _), BitVec.toNat_ofNat]
    have hquotient : m / 2 ^ 52 = 1 := by omega
    have hdivision := Nat.div_add_mod m (2 ^ 52)
    simp only [BitVec.toNat_ofNat, Nat.shiftLeft_eq]
    omega
  show UnpackedFloat.unpack Format.binary64
    (UnpackedFloat.pack Format.binary64 (.finite s m e hm)) = _
  have hkept :
      unpackExponent (packComponents Format.binary64 s (BitVec.ofNat 11 b) (BitVec.ofNat 52 m)) =
      BitVec.ofNat 11 b := unpackExponent_packComponents
  have hfull : BitVec.ofNat 11 b ≠ -1#11 := ofNat_ne_full (by omega)
  obtain ⟨hpos, hread⟩ :=
    exists_unpack_normal (by rw [hkept]; exact hfull) (by rw [hkept]; exact hzero)
  rw [hpack, hread]
  refine finite_congr ?_ ?_ ?_
  · rw [sign_packComponents, ofBitVec_toBitVec]
  · rw [unpackMantissa_packComponents]
    exact hmantissa
  · rw [hkept, hexponent]
    omega

/-! ## Integers -/

/-- Whether a float stands for an integer, with 53 digits unless it is zero. -/
def StandsFor : UnpackedFloat → Int → Prop
  | .zero _, n => n = 0
  | .finite s m e _, n => 2 ^ 52 ≤ m ∧ m < 2 ^ 53 ∧ ∃ k : Nat, e = k - 52 ∧
    s.apply m * 2 ^ k = n * 2 ^ 52
  | _, _ => False

theorem StandsFor.isNaN {u : UnpackedFloat} {n : Int} (h : StandsFor u n) : u.isNaN = false := by
  cases u with
  | notANumber => cases h
  | _ => rfl

/-- The float that rounding leaves stands for an integer when the rounded quotient does so at its
place. -/
theorem standsFor_roundWithAccuracy (s : Sign) {n v k : Nat} {e : Int} (hn : 52 ≤ n.log2)
    (hk : (k : Int) = e + n.log2)
    (hv : Rounding.divide n (2 ^ (n.log2 - 52)) * 2 ^ k = v * 2 ^ 52) :
    StandsFor (roundWithAccuracy Format.binary64 s n e .exact) (s.apply v) := by
  obtain ⟨m, c, hm, hround, hlow, hhigh, -, hdivide⟩ :=
    exists_roundWithAccuracy (e := e) s hn (by omega)
  have hnat : m * 2 ^ (k + c) = v * 2 ^ 52 := by
    rw [← hv, ← hdivide, Nat.mul_assoc, ← Nat.pow_add, Nat.add_comm c]
  have hint : (m : Int) * 2 ^ (k + c) = v * 2 ^ 52 := by exact_mod_cast hnat
  rw [hround]
  refine ⟨hlow, hhigh, k + c, by omega, ?_⟩
  cases s with
  | positive => exact hint
  | negative => rw [Sign.apply, Sign.apply, Int.neg_mul, Int.neg_mul, hint]

/-- What stands for an integer of 64 digits is read back as it is packed. -/
theorem StandsFor.unpack_pack {u : UnpackedFloat} {n : Int} (h : StandsFor u n)
    (hn : n.natAbs ≤ 2 ^ 64) : (Float.Model.pack u).unpack = u := by
  cases u with
  | zero s =>
    show UnpackedFloat.unpack Format.binary64 (packComponents Format.binary64 s 0 0) = _
    refine (unpack_zero unpackExponent_packComponents unpackMantissa_packComponents).trans ?_
    rw [sign_packComponents, ofBitVec_toBitVec]
  | finite s m e hm =>
    obtain ⟨hlow, hhigh, k, rfl, hvalue⟩ := h
    have habs : m * 2 ^ k = n.natAbs * 2 ^ 52 := by
      have hnat := congrArg Int.natAbs hvalue
      cases s <;> simpa [Sign.apply, Int.natAbs_mul, Int.natAbs_pow] using hnat
    have hk : k ≤ 64 := by
      have hle : 2 ^ 52 * 2 ^ k ≤ 2 ^ 52 * 2 ^ 64 := by
        calc 2 ^ 52 * 2 ^ k ≤ m * 2 ^ k := Nat.mul_le_mul_right _ hlow
          _ = n.natAbs * 2 ^ 52 := habs
          _ ≤ 2 ^ 64 * 2 ^ 52 := Nat.mul_le_mul_right _ hn
      exact (Nat.pow_le_pow_iff_right (by decide)).mp
        (Nat.le_of_mul_le_mul_left hle (Nat.two_pow_pos 52))
    exact unpack_pack_finite s hm hlow hhigh (by omega) (by omega)
  | infinity s => cases h
  | notANumber => cases h

theorem StandsFor.neg {u : UnpackedFloat} {n : Int} (h : StandsFor u n) : StandsFor u.neg (-n) := by
  cases u with
  | zero s =>
    obtain rfl : n = 0 := h
    exact Int.neg_zero
  | finite s m e hm =>
    obtain ⟨hlow, hhigh, k, he, hvalue⟩ := h
    refine ⟨hlow, hhigh, k, he, ?_⟩
    rw [Int.neg_mul, ← hvalue, ← Int.neg_mul]
    cases s with
    | positive => rfl
    | negative => rw [Sign.apply, Int.neg_neg]; rfl
  | infinity s => cases h
  | notANumber => cases h

theorem StandsFor.pos {m : Nat} {e n : Int} {hm : 0 < m}
    (h : StandsFor (.finite .positive m e hm) n) : 0 < n := by
  obtain ⟨-, -, k, -, hvalue⟩ := h
  have hvalue' : (m : Int) * 2 ^ k = n * 2 ^ 52 := hvalue
  have hpositive : (0 : Int) < m * 2 ^ k :=
    Int.mul_pos (Int.natCast_pos.mpr hm) (Int.pow_pos (by decide))
  omega

theorem StandsFor.mul_one {u : UnpackedFloat} {n : Nat} (h : StandsFor u n) :
    StandsFor (mul Format.binary64 u (.finite .positive (2 ^ 52) (-52) (by decide))) n := by
  cases u with
  | zero s => exact h
  | finite s m e hm =>
    have hneg := h.neg
    obtain ⟨hlow, hhigh, k, rfl, hvalue⟩ := h
    have hlog : m.log2 = 52 := (Nat.log2_eq_iff (Nat.ne_of_gt hm)).mpr ⟨hlow, hhigh⟩
    have hdigits : (m * 2 ^ 52).log2 = 104 := by
      rw [Rounding.log2_mul_two_pow (Nat.ne_of_gt hm), hlog]
    cases s with
    | positive =>
      refine standsFor_roundWithAccuracy .positive (k := k) (by omega) (by omega) ?_
      have hexact := Rounding.divide_mul_right m 1 (Nat.two_pow_pos 52)
      rw [Nat.one_mul, Rounding.divide_one] at hexact
      have hvalue' : (m : Int) * 2 ^ k = n * 2 ^ 52 := hvalue
      rw [hdigits, show 104 - 52 = 52 by rfl, hexact]
      exact_mod_cast hvalue'
    | negative =>
      have hnegative := hneg.pos
      omega
  | infinity s => cases h
  | notANumber => cases h

/-- A number of at most 53 digits is turned into a float without rounding. -/
theorem standsFor_ofNat_of_lt {n : Nat} (h : n < 2 ^ 53) :
    StandsFor (UnpackedFloat.ofNat Format.binary64 n) n := by
  by_cases hn : n = 0
  · subst hn
    rfl
  · have hlog : n.log2 ≤ 52 := by
      have hlt := (Nat.log2_lt hn).mpr h
      omega
    have hround : UnpackedFloat.ofNat Format.binary64 n =
        roundWithAccuracy Format.binary64 .positive (n * 2 ^ (52 - n.log2)) (n.log2 - 52)
            .exact := by
      have hcompare : compare (n : Int) 0 = .gt := Int.compare_eq_gt.mpr (by omega)
      have htarget : Format.binary64.targetExponent (totalExponent n 0) = n.log2 - 52 := by
        simp only [Format.targetExponent, totalExponent, mantissaBits_binary64, Format.minExponent]
        omega
      have hamount : (0 - ((n.log2 : Int) - 52)).toNat = 52 - n.log2 := by omega
      have hexponent : (0 : Int) - (52 - n.log2 : Nat) = n.log2 - 52 := by omega
      rw [UnpackedFloat.ofNat, UnpackedFloat.ofInt, UnpackedFloat.normalize, hcompare]
      simp only [UnpackedFloat.round, Int.toNat_natCast, htarget, decreaseExponent, hamount,
        Nat.shiftLeft_eq, hexponent]
    have hdigits : (n * 2 ^ (52 - n.log2)).log2 = 52 := by
      rw [Rounding.log2_mul_two_pow hn]
      omega
    rw [hround]
    refine standsFor_roundWithAccuracy .positive (k := n.log2) (by omega) (by omega) ?_
    rw [hdigits, Nat.sub_self, Nat.pow_zero, Rounding.divide_one, Nat.mul_assoc, ← Nat.pow_add,
      show 52 - n.log2 + n.log2 = 52 by omega]

theorem one_unpack :
    (Float.ofBits 0x3FF0000000000000).toModel.unpack =
      .finite .positive (2 ^ 52) (-52) (by decide) := by
  rfl

theorem ofNat_of_lt {n : Nat} (h : n < 2 ^ 53) : (Float.ofNat n).toModel =
    Float.Model.pack
      (mul Format.binary64 (Float.Model.pack (UnpackedFloat.ofNat Format.binary64 n)).unpack
        (.finite .positive (2 ^ 52) (-52) (by decide))) := by
  have hword : n.toUInt64.toNat = n := Nat.mod_eq_of_lt (by omega)
  show (Float.ofScientific n false 0).toModel = _
  rw [Float.ofScientific, dif_pos ⟨h, by decide⟩, if_neg Bool.false_ne_true, ← one_unpack]
  show Float.Model.pack (mul Format.binary64
    (Float.Model.pack (UnpackedFloat.ofNat Format.binary64 n.toUInt64.toNat)).unpack _) = _
  rw [hword]
  rfl

theorem ofNat_of_ge {n : Nat} (h : 2 ^ 53 ≤ n) :
    (Float.ofNat n).toModel = Float.Model.ofScientific n 0 := by
  show (Float.ofScientific n false 0).toModel = _
  rw [Float.ofScientific, dif_neg (fun hlt => Nat.not_lt.mpr h hlt.1)]
  rfl

theorem mul_finite {s t : Sign} {m n : Nat} {e f : Int} {hm : 0 < m} {hn : 0 < n} :
    mul Format.binary64 (.finite s m e hm) (.finite t n f hn) =
      roundWithAccuracy Format.binary64 (s * t) (m * n) (e + f) .exact :=
  rfl

/-- A number of more than 53 digits is turned into a float by rounding. -/
theorem ofScientific_zero {n : Nat} (hn : n ≠ 0) : UnpackedFloat.ofScientific Format.binary64 n 0 =
    roundWithAccuracy Format.binary64 .positive (n * 2 ^ 53) (-53) .exact := by
  have hpower : (2 : Int) ^ Format.binary64.exponentBits = 2048 := rfl
  have hfactor : n <<< Format.binary64.mantissaBits * 10 ^ (0 : Int).toNat = n * 2 ^ 53 := by
    rw [Int.toNat_zero, Nat.pow_zero, Nat.mul_one, Nat.shiftLeft_eq]
    rfl
  have hlarge : ¬ (0 : Int) > 2 ^ Format.binary64.exponentBits := by omega
  have hsmall : ¬ (0 : Int) < -((2 : Int) ^ Format.binary64.exponentBits + n.log2) := by omega
  rw [UnpackedFloat.ofScientific, dif_neg hn, if_neg hlarge, if_neg hsmall, if_pos (Int.le_refl 0),
    mul_finite, hfactor]
  rfl

theorem standsFor_ofScientific {n : Nat} (h : 2 ^ 53 ≤ n) :
    StandsFor (UnpackedFloat.ofScientific Format.binary64 n 0) (Rounding.nearestNat n) := by
  have hn : n ≠ 0 := by omega
  have hlog : 53 ≤ n.log2 := (Nat.le_log2 hn).mpr h
  have hdigits : (n * 2 ^ 53).log2 = n.log2 + 53 := Rounding.log2_mul_two_pow hn 53
  rw [ofScientific_zero hn]
  refine standsFor_roundWithAccuracy .positive (k := n.log2) (by omega) (by omega) ?_
  have hdivisor : 2 ^ (n.log2 + 53 - 52) = 2 ^ Rounding.excess n * 2 ^ 53 := by
    rw [← Nat.pow_add, Rounding.excess, show n.log2 - 52 + 53 = n.log2 + 53 - 52 by omega]
  rw [hdigits, hdivisor, Rounding.divide_mul_right _ _ (Nat.two_pow_pos 53), Rounding.nearestNat,
    Nat.mul_assoc, ← Nat.pow_add, Rounding.excess, show n.log2 - 52 + 52 = n.log2 by omega]

/-- An integer of 64 digits, turned into a float and read back, stands for what rounding keeps of
it. -/
theorem standsFor_ofNat {n : Nat} (h : n ≤ 2 ^ 63) :
    StandsFor (Float.ofNat n).toModel.unpack (Rounding.nearestNat n) := by
  rcases Nat.lt_or_ge n (2 ^ 53) with hlt | hge
  · have hstands := standsFor_ofNat_of_lt hlt
    have hsmall : (n : Int).natAbs ≤ 2 ^ 64 := by omega
    rw [ofNat_of_lt hlt, hstands.unpack_pack hsmall, hstands.mul_one.unpack_pack hsmall,
      Rounding.nearestNat_of_lt hlt]
    exact hstands.mul_one
  · have hstands := standsFor_ofScientific hge
    have hbound := Rounding.nearestNat_le h
    rw [ofNat_of_ge hge]
    show StandsFor (Float.Model.pack _).unpack _
    rw [hstands.unpack_pack (by omega)]
    exact hstands

theorem standsFor_ofInt {n : Int} (h : n.natAbs ≤ 2 ^ 63) :
    StandsFor (Float.ofInt n).toModel.unpack (Rounding.nearest n) := by
  cases n with
  | ofNat n => exact standsFor_ofNat h
  | negSucc n =>
    have hle : n + 1 ≤ 2 ^ 63 := h
    have hstands := (standsFor_ofNat hle).neg
    have hbound := Rounding.nearestNat_le hle
    show StandsFor (Float.Model.pack (Float.ofNat (n + 1)).toModel.unpack.neg).unpack
      (-Rounding.nearestNat (n + 1))
    rw [hstands.unpack_pack (by omega)]
    exact hstands

theorem isNaN_ofNat (n : Nat) : (Float.ofNat n).toModel.unpack.isNaN = false := by
  rcases Nat.lt_or_ge n (2 ^ 53) with hlt | hge
  · exact (standsFor_ofNat (by omega)).isNaN
  · rw [ofNat_of_ge hge]
    refine isNaN_pack ?_
    rw [ofScientific_zero (by omega)]
    exact isNaN_roundWithAccuracy _ _ _ _

/-! ## Comparing -/

/-- Numbers of 53 digits are compared by their exponents first. -/
theorem compare_digits {m n : Nat} (k l : Nat) (hm : 2 ^ 52 ≤ m) (hm' : m < 2 ^ 53)
    (hn : 2 ^ 52 ≤ n) (hn' : n < 2 ^ 53) :
    compare (m * 2 ^ k) (n * 2 ^ l) = (compare k l).then (compare m n) := by
  have hless : ∀ {m n k l : Nat}, m < 2 ^ 53 → 2 ^ 52 ≤ n → k < l → m * 2 ^ k < n * 2 ^ l := by
    intro m n k l hm hn hkl
    calc m * 2 ^ k < 2 ^ 53 * 2 ^ k := Nat.mul_lt_mul_of_pos_right hm (Nat.two_pow_pos k)
      _ = 2 ^ 52 * 2 ^ (k + 1) := by rw [Nat.pow_succ]; omega
      _ ≤ n * 2 ^ l := Nat.mul_le_mul hn (Nat.pow_le_pow_right (by decide) hkl)
  rcases Nat.lt_trichotomy k l with hkl | rfl | hlk
  · rw [Nat.compare_eq_lt.mpr (hless hm' hn hkl), Nat.compare_eq_lt.mpr hkl]
    rfl
  · rw [Nat.compare_eq_eq.mpr rfl, Ordering.eq_then, Nat.compare_eq_ite_lt, Nat.compare_eq_ite_lt]
    simp only [Nat.mul_lt_mul_right (Nat.two_pow_pos k)]
  · rw [Nat.compare_eq_gt.mpr (hless hn' hm hlk), Nat.compare_eq_gt.mpr hlk]
    rfl

theorem compare_mul_right (a b : Int) {c : Int} (hc : 0 < c) :
    compare (a * c) (b * c) = compare a b := by
  rw [Int.compare_eq_ite_lt, Int.compare_eq_ite_lt]
  simp only [Int.mul_lt_mul_right hc]

theorem StandsFor.compare_positive {m n : Nat} {e f : Int} {hm : 0 < m} {hn : 0 < n} {a b : Int}
    (ha : StandsFor (.finite .positive m e hm) a) (hb : StandsFor (.finite .positive n f hn) b) :
    (compare e f).then (compare m n) = compare a b := by
  obtain ⟨hlow, hhigh, k, rfl, hvalue⟩ := ha
  obtain ⟨hlow', hhigh', l, rfl, hvalue'⟩ := hb
  have hexponents : compare ((k : Int) - 52) (l - 52) = compare k l := by
    rw [← compare_natCast, Int.compare_eq_ite_lt, Int.compare_eq_ite_lt]
    simp only [Int.sub_lt_sub_right_iff]
  have hm' : a * 2 ^ 52 = (m * 2 ^ k : Nat) := by
    rw [← hvalue, Int.natCast_mul, Int.natCast_pow]
    rfl
  have hn' : b * 2 ^ 52 = (n * 2 ^ l : Nat) := by
    rw [← hvalue', Int.natCast_mul, Int.natCast_pow]
    rfl
  calc (compare ((k : Int) - 52) (l - 52)).then (compare m n)
    _ = (compare k l).then (compare m n) := by rw [hexponents]
    _ = compare (m * 2 ^ k) (n * 2 ^ l) := (compare_digits k l hlow hhigh hlow' hhigh').symm
    _ = compare (a * 2 ^ 52) (b * 2 ^ 52) := by rw [hm', hn', compare_natCast]
    _ = compare a b := compare_mul_right a b (by decide)

/-- Floats are compared as the integers that they stand for. -/
theorem StandsFor.compare_eq {u w : UnpackedFloat} {a b : Int} (hu : StandsFor u a)
    (hw : StandsFor w b) : u.compare w = some (compare a b) := by
  cases u with
  | infinity s => cases hu
  | notANumber => cases hu
  | zero s =>
    obtain rfl : a = 0 := hu
    cases w with
    | infinity t => cases hw
    | notANumber => cases hw
    | zero t =>
      obtain rfl : b = 0 := hw
      rfl
    | finite t n f hn =>
      cases t with
      | positive =>
        rw [Int.compare_eq_lt.mpr hw.pos]
        rfl
      | negative =>
        have hb : 0 < -b := hw.neg.pos
        rw [Int.compare_eq_gt.mpr (by omega)]
        rfl
  | finite s m e hm =>
    cases w with
    | infinity t => cases hw
    | notANumber => cases hw
    | zero t =>
      obtain rfl : b = 0 := hw
      cases s with
      | positive =>
        rw [Int.compare_eq_gt.mpr hu.pos]
        rfl
      | negative =>
        have ha : 0 < -a := hu.neg.pos
        rw [Int.compare_eq_lt.mpr (by omega)]
        rfl
    | finite t n f hn =>
      cases s with
      | positive =>
        cases t with
        | positive =>
          rw [← hu.compare_positive hw]
          rfl
        | negative =>
          have ha := hu.pos
          have hb : 0 < -b := hw.neg.pos
          rw [Int.compare_eq_gt.mpr (by omega)]
          rfl
      | negative =>
        have ha : 0 < -a := hu.neg.pos
        cases t with
        | positive =>
          have hb := hw.pos
          rw [Int.compare_eq_lt.mpr (by omega)]
          rfl
        | negative =>
          have hswap : compare a b = (compare (-a) (-b)).swap := by
            rw [compare_neg, Ordering.swap_swap]
          rw [hswap, ← hu.neg.compare_positive hw.neg]
          rfl

end FloatOrder

namespace Value

/-- Integers that are turned into floats are compared as what rounding keeps of them. -/
theorem compareFloats_ofInt {a b : Int} (ha : a.natAbs ≤ 2 ^ 63) (hb : b.natAbs ≤ 2 ^ 63) :
    compareFloats (Float.ofInt a) (Float.ofInt b) =
      some (compare (Rounding.nearest a) (Rounding.nearest b)) := by
  rw [FloatOrder.compareFloats_eq]
  exact (FloatOrder.standsFor_ofInt ha).compare_eq (FloatOrder.standsFor_ofInt hb)

theorem beq_ofInt {a b : Int} (ha : a.natAbs ≤ 2 ^ 63) (hb : b.natAbs ≤ 2 ^ 63) :
    (Float.ofInt a == Float.ofInt b) = decide (Rounding.nearest a = Rounding.nearest b) := by
  have hcompare := (FloatOrder.standsFor_ofInt ha).compare_eq (FloatOrder.standsFor_ofInt hb)
  rw [Bool.eq_iff_iff, FloatOrder.beq_iff, hcompare, decide_eq_true_iff, Option.some_inj,
    Int.compare_eq_eq]

/-- No integer is turned into a float that is no number. -/
theorem isNaN_ofInt (n : Int) : (Float.ofInt n).isNaN = false := by
  cases n with
  | ofNat n => exact FloatOrder.isNaN_ofNat n
  | negSucc n =>
    have hpositive := FloatOrder.isNaN_ofNat (n + 1)
    refine FloatOrder.isNaN_pack (u := (Float.ofNat (n + 1)).toModel.unpack.neg) ?_
    cases hunpacked : (Float.ofNat (n + 1)).toModel.unpack with
    | notANumber =>
      rw [hunpacked] at hpositive
      cases hpositive
    | _ => rfl

end Value

end ClassApi
