import ClassApi.Document.Compare

/-!
# Comparisons that go round, and the order of floats

Comparisons come from one order when they fit together: on the way round from a value over two
others back to it, something rises exactly when something falls. This is kept by reversing a
comparison and by breaking ties with another one, so orders that are put together of others inherit
it. Floats that are numbers are ordered by sign, exponent and significand; what is no number cannot
be compared.
-/

namespace ClassApi

/-! ## Comparisons that go round -/

theorem eq_of_eq_swap {o : Ordering} (h : o = o.swap) : o = .eq := by
  cases o with
  | eq => rfl
  | _ => cases h

/-- What is not greater in either direction is equal. -/
theorem eq_of_ne_gt {o : Ordering} (h : o ≠ .gt) (h' : o.swap ≠ .gt) : o = .eq := by
  cases o with
  | eq => rfl
  | gt => exact absurd rfl h
  | lt => exact absurd rfl h'

/-- Whether three comparisons close: of a first value with a second, of this with a third, and of
that with the first. -/
def Closes (ab bc ca : Ordering) : Prop :=
  (ab = .lt ∨ bc = .lt ∨ ca = .lt) ↔ (ab = .gt ∨ bc = .gt ∨ ca = .gt)

namespace Closes

variable {ab bc ca ab' bc' ca' : Ordering}

theorem eq : Closes .eq .eq .eq := by
  simp [Closes]

theorem not_lt (h : Closes ab bc ca) (hab : ab ≠ .gt) (hbc : bc ≠ .gt) : ca ≠ .lt := by
  intro hlt
  rcases h.mp (Or.inr (Or.inr hlt)) with hgt | hgt | hgt
  · exact hab hgt
  · exact hbc hgt
  · rw [hlt] at hgt
    cases hgt

theorem eq_of_eq (h : Closes ab bc ca) (hab : ab = .eq) (hbc : bc = .eq) : ca = .eq := by
  subst hab hbc
  cases ca with
  | eq => rfl
  | _ => simp [Closes] at h

theorem swap (h : Closes ab bc ca) : Closes ab.swap bc.swap ca.swap := by
  simp only [Closes, Ordering.swap_eq_lt, Ordering.swap_eq_gt]
  exact h.symm

/-- Ties may be broken by comparisons that close wherever there are ties only. -/
theorem breakTies (h : Closes ab bc ca) (h' : ab = .eq → bc = .eq → ca = .eq → Closes ab' bc' ca') :
    Closes (ab.then ab') (bc.then bc') (ca.then ca') := by
  by_cases hlt : ab = .lt ∨ bc = .lt ∨ ca = .lt
  · have hgt := h.mp hlt
    refine iff_of_true ?_ ?_
    · rcases hlt with rfl | rfl | rfl
      · exact Or.inl rfl
      · exact Or.inr (Or.inl rfl)
      · exact Or.inr (Or.inr rfl)
    · rcases hgt with rfl | rfl | rfl
      · exact Or.inl rfl
      · exact Or.inr (Or.inl rfl)
      · exact Or.inr (Or.inr rfl)
  · have hgt : ¬ (ab = .gt ∨ bc = .gt ∨ ca = .gt) := fun hgt => hlt (h.mpr hgt)
    have heq : ∀ o : Ordering, o ≠ .lt → o ≠ .gt → o = .eq := by
      intro o
      cases o <;> simp
    simp only [not_or] at hlt hgt
    obtain rfl := heq ab hlt.1 hgt.1
    obtain rfl := heq bc hlt.2.1 hgt.2.1
    obtain rfl := heq ca hlt.2.2 hgt.2.2
    exact h' rfl rfl rfl

/-- The comparisons of an order close. -/
theorem of_transCmp {α : Type} (cmp : α → α → Ordering) [Std.TransCmp cmp] (a b c : α) :
    Closes (cmp a b) (cmp b c) (cmp c a) := by
  have hswap : cmp c a = (cmp a c).swap := Std.OrientedCmp.eq_swap
  rw [hswap]
  cases hab : cmp a b <;> cases hbc : cmp b c
  · simp [Closes, Std.TransCmp.lt_trans hab hbc]
  · simp [Closes, Std.TransCmp.lt_of_lt_of_eq hab hbc]
  · simp [Closes]
  · simp [Closes, Std.TransCmp.lt_of_eq_of_lt hab hbc]
  · simp [Closes, Std.TransCmp.eq_trans hab hbc]
  · simp [Closes, Std.TransCmp.gt_of_eq_of_gt hab hbc]
  · simp [Closes]
  · simp [Closes, Std.TransCmp.gt_of_gt_of_eq hab hbc]
  · simp [Closes, Std.TransCmp.gt_trans hab hbc]

end Closes

/-! ## Floats -/

namespace FloatOrder

open Float.Model

/-- Where a number stands: on which side of zero, and how far off by exponent and significand. -/
def place : UnpackedFloat → Int × Int × Int
  | .infinity .negative => (-2, 0, 0)
  | .finite .negative m e _ => (-1, -e, -m)
  | .zero _ => (0, 0, 0)
  | .notANumber => (0, 0, 0)
  | .finite .positive m e _ => (1, e, m)
  | .infinity .positive => (2, 0, 0)

/-- The order of places. -/
def comparePlaces (p q : Int × Int × Int) : Ordering :=
  (compare p.1 q.1).then ((compare p.2.1 q.2.1).then (compare p.2.2 q.2.2))

instance : Std.TransCmp comparePlaces :=
  inferInstanceAs (Std.TransCmp (compareLex (compareOn Prod.fst)
    (compareLex (compareOn fun p : Int × Int × Int => p.2.1) (compareOn fun p => p.2.2))))

theorem compare_neg (m n : Int) : compare (-m) (-n) = (compare m n).swap := by
  rcases Int.lt_trichotomy m n with h | rfl | h
  · rw [Int.compare_eq_lt.mpr h, Int.compare_eq_gt.mpr (Int.neg_lt_neg h)]
    rfl
  · rw [Int.compare_eq_eq.mpr rfl, Int.compare_eq_eq.mpr rfl]
    rfl
  · rw [Int.compare_eq_gt.mpr h, Int.compare_eq_lt.mpr (Int.neg_lt_neg h)]
    rfl

theorem compare_natCast (m n : Nat) : compare (m : Int) (n : Int) = compare m n := by
  rw [Nat.compare_eq_ite_lt, Int.compare_eq_ite_lt]
  simp only [Int.ofNat_lt]

/-- Numbers are compared by their places. -/
theorem compare_eq_comparePlaces {u w : UnpackedFloat} (hu : u.isNaN = false)
    (hw : w.isNaN = false) : u.compare w = some (comparePlaces (place u) (place w)) := by
  cases u with
  | notANumber => cases hu
  | infinity s =>
    cases w with
    | notANumber => cases hw
    | infinity t => cases s <;> cases t <;> rfl
    | zero t => cases s <;> rfl
    | finite t m e h => cases s <;> cases t <;> rfl
  | zero s =>
    cases w with
    | notANumber => cases hw
    | infinity t => cases t <;> rfl
    | zero t => rfl
    | finite t m e h => cases t <;> rfl
  | finite s m e h =>
    cases w with
    | notANumber => cases hw
    | infinity t => cases s <;> cases t <;> rfl
    | zero t => cases s <;> rfl
    | finite t n f h' =>
      cases s <;> cases t
      · show some ((compare e f).then (compare m n)).swap =
          some ((compare (-e) (-f)).then (compare (-(m : Int)) (-(n : Int))))
        rw [Ordering.swap_then, compare_neg, compare_neg, compare_natCast]
      · rfl
      · rfl
      · show some ((compare e f).then (compare m n)) =
          some ((compare e f).then (compare (m : Int) (n : Int)))
        rw [compare_natCast]

theorem compare_of_isNaN {u w : UnpackedFloat} (h : u.isNaN = true ∨ w.isNaN = true) :
    u.compare w = none := by
  rcases h with h | h
  · cases u with
    | notANumber => rfl
    | _ => cases h
  · cases w with
    | notANumber => cases u <;> rfl
    | _ => cases h

/-- Comparing the other way round gives the opposite. -/
theorem compare_swap (u w : UnpackedFloat) : w.compare u = (u.compare w).map Ordering.swap := by
  by_cases hnone : u.isNaN = true ∨ w.isNaN = true
  · rw [compare_of_isNaN hnone, compare_of_isNaN hnone.symm]
    rfl
  · rw [not_or, Bool.not_eq_true, Bool.not_eq_true] at hnone
    rw [compare_eq_comparePlaces hnone.1 hnone.2, compare_eq_comparePlaces hnone.2 hnone.1,
      Option.map_some, ← Std.OrientedCmp.eq_swap]

theorem beq_iff (x y : Float) :
    (x == y) = true ↔ x.toModel.unpack.compare y.toModel.unpack = some .eq := by
  show (x.toModel.unpack.compare y.toModel.unpack == some .eq) = true ↔ _
  exact beq_iff_eq

/-- The comparison of floats is that of the format they are kept in. -/
theorem compareFloats_eq (x y : Float) :
    Value.compareFloats x y = x.toModel.unpack.compare y.toModel.unpack := by
  have hlt : ∀ x y : Float, x < y ↔ x.toModel.unpack.compare y.toModel.unpack = some .lt := by
    intro x y
    show (decide (x.toModel < y.toModel)) = true ↔ _
    rw [decide_eq_true_iff]
    exact beq_iff_eq
  have hgt : y < x ↔ x.toModel.unpack.compare y.toModel.unpack = some .gt := by
    rw [hlt, compare_swap x.toModel.unpack y.toModel.unpack]
    cases x.toModel.unpack.compare y.toModel.unpack with
    | none => simp
    | some o => cases o <;> simp
  simp only [Value.compareFloats, hlt x y, beq_iff x y, hgt]
  cases x.toModel.unpack.compare y.toModel.unpack with
  | none => rfl
  | some o => cases o <;> rfl

end FloatOrder

namespace Value

theorem compareFloats_swap (x y : Float) :
    compareFloats y x = (compareFloats x y).map Ordering.swap := by
  rw [FloatOrder.compareFloats_eq, FloatOrder.compareFloats_eq]
  exact FloatOrder.compare_swap _ _

/-- What is no number cannot be compared. -/
theorem compareFloats_of_isNaN {x y : Float} (h : x.isNaN = true ∨ y.isNaN = true) :
    compareFloats x y = none := by
  rw [FloatOrder.compareFloats_eq]
  exact FloatOrder.compare_of_isNaN h

/-- Numbers are compared by their places. -/
theorem compareFloats_of_number {x y : Float} (hx : x.isNaN = false) (hy : y.isNaN = false) :
    compareFloats x y =
      some (FloatOrder.comparePlaces (FloatOrder.place x.toModel.unpack)
        (FloatOrder.place y.toModel.unpack)) := by
  rw [FloatOrder.compareFloats_eq]
  exact FloatOrder.compare_eq_comparePlaces hx hy

end Value

end ClassApi
