import ClassApi.Proofs.FloatIntegers
import ClassApi.Proofs.Matching

/-!
# Comparing integers

Integers of 32 and 64 bits are turned into floats when they are compared, in queries as well as for
sorting. So they are compared as what rounding keeps of them. This is as integers are compared,
unless two different integers are rounded to the same one; for this both must need more than 53
binary digits.
-/

namespace ClassApi

/-- Whether a value is an integer of 32 or 64 bits. -/
inductive Value.HoldsInteger : Value → Int → Prop where
  | int32 {n : Int} (low : -2 ^ 31 ≤ n) (high : n < 2 ^ 31) : HoldsInteger (.int32 n) n
  | int64 {n : Int} (low : -2 ^ 63 ≤ n) (high : n < 2 ^ 63) : HoldsInteger (.int64 n) n

namespace Query

/-- Whether what a document has at a path is compared with a value as an integer is with another
one: by the operators for equality, for one of several candidates, for more and for less, and by the
sort order. -/
structure ComparedAs (doc : Document) (path : String) (w : Value) (a b : Int) : Prop where
  equal : selects doc [(path, .document [("$eq", w)])] = .ok (decide (a = b))
  oneOf : selects doc [(path, .document [("$in", .array [w])])] = .ok (decide (a = b))
  greater : selects doc [(path, .document [("$gt", w)])] = .ok (decide (a > b))
  less : selects doc [(path, .document [("$lt", w)])] = .ok (decide (a < b))
  order : Value.orderOptional (Path.lookup doc path) (some w) = compare a b

variable {doc : Document} {path : String} {v w : Value} {a b c d : Int}

theorem natAbs_le_of_holdsInteger (h : v.HoldsInteger a) : a.natAbs ≤ 2 ^ 63 := by
  cases h <;> omega

/-! ## Operators -/

theorem equals_integer (ha : v.HoldsInteger a) (hb : w.HoldsInteger b) :
    equals (some v) w = .ok (decide (Rounding.nearest a = Rounding.nearest b)) := by
  have hequals : equals (some v) w = .ok (Float.ofInt a == Float.ofInt b) := by
    cases ha <;> cases hb <;> exact congrArg Except.ok (Bool.or_false _)
  rw [hequals, Value.beq_ofInt (natAbs_le_of_holdsInteger ha) (natAbs_le_of_holdsInteger hb)]

theorem compareWithinKind_integer (ha : v.HoldsInteger a) (hb : w.HoldsInteger b) :
    v.compareWithinKind w = some (compare (Rounding.nearest a) (Rounding.nearest b)) := by
  rw [← Value.compareFloats_ofInt (natAbs_le_of_holdsInteger ha) (natAbs_le_of_holdsInteger hb)]
  cases ha <;> cases hb <;> rfl

theorem compares_integer (ha : v.HoldsInteger a) (hb : w.HoldsInteger b)
    (accept : Ordering → Bool) :
    compares (some v) w accept = accept (compare (Rounding.nearest a) (Rounding.nearest b)) := by
  have hcompares : compares (some v) w accept = (v.compareWithinKind w).elim false accept := by
    cases ha <;> rfl
  rw [hcompares, compareWithinKind_integer ha hb]
  rfl

theorem order_integer (ha : v.HoldsInteger a) (hb : w.HoldsInteger b) :
    Value.orderOptional (some v) (some w) = compare (Rounding.nearest a) (Rounding.nearest b) := by
  have horder : Value.orderOptional (some v) (some w) = (v.compareWithinKind w).getD .eq := by
    cases ha <;> cases hb <;> rfl
  rw [horder, compareWithinKind_integer ha hb]
  rfl

/-! ## Queries -/

/-- Integers are compared as what rounding keeps of them. -/
theorem comparedAs_nearest (hv : Path.lookup doc path = some v) (ha : v.HoldsInteger a)
    (hb : w.HoldsInteger b) : ComparedAs doc path w (Rounding.nearest a) (Rounding.nearest b) where
  equal := by
    rw [selects_single (String.startsWith_string_iff.mpr (by decide)), hv]
    exact equals_integer ha hb
  oneOf := by
    rw [selects_single (String.startsWith_string_iff.mpr (by decide)), hv]
    show equalsAny (some v) [w] = _
    rw [equalsAny, equals_integer ha hb]
    cases decide (Rounding.nearest a = Rounding.nearest b) <;> rfl
  greater := by
    rw [selects_single (String.startsWith_string_iff.mpr (by decide)), hv]
    show Except.ok (compares (some v) w (· == .gt)) = _
    rw [compares_integer ha hb, Except.ok.injEq, Bool.eq_iff_iff, beq_iff_eq, decide_eq_true_iff]
    exact Int.compare_eq_gt
  less := by
    rw [selects_single (String.startsWith_string_iff.mpr (by decide)), hv]
    show Except.ok (compares (some v) w (· == .lt)) = _
    rw [compares_integer ha hb, Except.ok.injEq, Bool.eq_iff_iff, beq_iff_eq, decide_eq_true_iff]
    exact Int.compare_eq_lt
  order := by
    rw [hv]
    exact order_integer ha hb

theorem ComparedAs.congr (h : ComparedAs doc path w a b) (hcompare : compare a b = compare c d) :
    ComparedAs doc path w c d := by
  have hequal : a = b ↔ c = d := by rw [← Int.compare_eq_eq, hcompare, Int.compare_eq_eq]
  have hgreater : b < a ↔ d < c := by rw [← Int.compare_eq_gt, hcompare, Int.compare_eq_gt]
  have hless : a < b ↔ c < d := by rw [← Int.compare_eq_lt, hcompare, Int.compare_eq_lt]
  exact {
    equal := h.equal.trans (congrArg Except.ok (decide_eq_decide.mpr hequal))
    oneOf := h.oneOf.trans (congrArg Except.ok (decide_eq_decide.mpr hequal))
    greater := h.greater.trans (congrArg Except.ok (decide_eq_decide.mpr hgreater))
    less := h.less.trans (congrArg Except.ok (decide_eq_decide.mpr hless))
    order := h.order.trans hcompare }

/-- Integers are compared as what rounding keeps of them, which is as integers exactly when rounding
does not confuse them. It does not when one of them is below `2 ^ 53`. -/
theorem compared_as_integers_iff (hv : Path.lookup doc path = some v) (ha : v.HoldsInteger a)
    (hb : w.HoldsInteger b) :
    ComparedAs doc path w (Rounding.nearest a) (Rounding.nearest b) ∧
    (ComparedAs doc path w a b ↔ (Rounding.nearest a = Rounding.nearest b → a = b)) ∧
    (a.natAbs < 2 ^ 53 ∨ b.natAbs < 2 ^ 53 → ComparedAs doc path w a b) := by
  have hnearest := comparedAs_nearest hv ha hb
  have hexact : (Rounding.nearest a = Rounding.nearest b → a = b) →
      ComparedAs doc path w a b := fun h =>
    hnearest.congr (Rounding.compare_nearest h)
  refine ⟨hnearest, ⟨fun h heq => ?_, hexact⟩, fun hsmall => hexact fun heq => ?_⟩
  · have hselects := h.equal.symm.trans hnearest.equal
    rw [Except.ok.injEq, decide_eq_decide] at hselects
    exact hselects.mpr heq
  · rcases hsmall with ha | hb
    · exact Rounding.eq_of_nearest_eq ha heq
    · exact (Rounding.eq_of_nearest_eq hb heq.symm).symm

theorem compared_as_integers_iff_five :
    Path.lookup [("n", .int32 5)] "n" = some (.int32 5) ∧ (Value.int32 5).HoldsInteger 5 ∧
    (Value.int64 9007199254740993).HoldsInteger 9007199254740993 ∧
    ComparedAs [("n", .int32 5)] "n" (.int64 9007199254740993) 5 9007199254740993 := by
  have hlookup : Path.lookup [("n", .int32 5)] "n" = some (.int32 5) := by rfl
  have ha : (Value.int32 5).HoldsInteger 5 := .int32 (by decide) (by decide)
  have hb : (Value.int64 9007199254740993).HoldsInteger 9007199254740993 :=
    .int64 (by decide) (by decide)
  exact ⟨hlookup, ha, hb, (compared_as_integers_iff hlookup ha hb).2.2 (Or.inl (by decide))⟩

/-- The least integer that a float does not keep equals the one before it. -/
theorem exists_confused_integers :
    (9007199254740993 : Int) ≠ 9007199254740992 ∧
    (Value.int64 9007199254740993).HoldsInteger 9007199254740993 ∧
    (Value.int64 9007199254740992).HoldsInteger 9007199254740992 ∧
    selects [("n", .int64 9007199254740993)] [("n", .document [("$eq", .int64 9007199254740992)])] =
      .ok true ∧
    selects [("n", .int64 9007199254740993)] [("n", .document [("$gt", .int64 9007199254740992)])] =
      .ok false ∧
    Value.orderOptional (some (.int64 9007199254740993)) (some (.int64 9007199254740992)) = .eq ∧
    ¬ ComparedAs [("n", .int64 9007199254740993)] "n" (.int64 9007199254740992) 9007199254740993
      9007199254740992 := by
  have hlookup : Path.lookup [("n", .int64 9007199254740993)] "n" =
      some (.int64 9007199254740993) := by rfl
  have ha : (Value.int64 9007199254740993).HoldsInteger 9007199254740993 :=
    .int64 (by decide) (by decide)
  have hb : (Value.int64 9007199254740992).HoldsInteger 9007199254740992 :=
    .int64 (by decide) (by decide)
  have hnearest : Rounding.nearest 9007199254740993 = 9007199254740992 := by decide +kernel
  have hnearest' : Rounding.nearest 9007199254740992 = 9007199254740992 := by decide +kernel
  have hcompared := comparedAs_nearest hlookup ha hb
  rw [hnearest, hnearest'] at hcompared
  refine ⟨by decide, ha, hb, hcompared.equal, hcompared.greater, hlookup ▸ hcompared.order,
    fun h => ?_⟩
  have hselects := h.equal.symm.trans hcompared.equal
  rw [Except.ok.injEq, decide_eq_decide] at hselects
  exact absurd (hselects.mpr rfl) (by decide)

end Query

end ClassApi
