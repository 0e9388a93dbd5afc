import ClassApi.Proofs.Matching
import ClassApi.Proofs.SortOrder

/-!
# The comparison operators

Equality and order are two recursions over values, and both know numbers, texts, truth values, ids
and dates. On a value of one of these kinds they agree: two values are equal exactly when they are
compared as equal, and they are compared exactly when they are of one kind and both are numbers if
they are floats. Lists are told of item by item by both. So the operators for more, less and equal
exclude each other, and the weak operators are the strong ones together with equality.

Decimals of 128 bits are not among these numbers: they equal themselves and have no order.
-/

namespace ClassApi

theorem ObjectId.compare_eq_iff {a b : ObjectId} : a.compare b = .eq ↔ a = b := by
  rw [ObjectId.compare, compareBytes_eq, Std.LawfulEqOrd.compare_eq_iff_eq, ← ObjectId.mk.injEq]

namespace Value

/-- The kinds of values that are ordered by more and less. -/
inductive Kind where
  /-- Integers of both widths and floats. -/
  | number
  /-- Texts. -/
  | text
  /-- Truth values. -/
  | truth
  /-- Ids. -/
  | id
  /-- Dates. -/
  | moment
deriving DecidableEq, Repr

/-- The kind of a value, when it is one that is ordered. -/
def kind? : Value → Option Kind
  | int32 _ => some .number
  | int64 _ => some .number
  | double _ => some .number
  | string _ => some .text
  | bool _ => some .truth
  | objectId _ => some .id
  | date _ => some .moment
  | _ => none

/-- Whether a value is a float that is no number. -/
def isNaN : Value → Bool
  | double x => x.isNaN
  | _ => false

variable {v w : Value}

/-! ## Equality and order on ordered kinds -/

theorem isNaN_of_asFloat {x : Float} (h : v.asFloat? = some x) : x.isNaN = v.isNaN := by
  cases v with
  | int32 n =>
    cases h
    exact isNaN_ofInt n
  | int64 n =>
    cases h
    exact isNaN_ofInt n
  | double y =>
    cases h
    rfl
  | _ => cases h

theorem exists_asFloat_of_kind (h : v.kind? = some .number) : ∃ x, v.asFloat? = some x := by
  cases v with
  | int32 n => exact ⟨_, rfl⟩
  | int64 n => exact ⟨_, rfl⟩
  | double x => exact ⟨_, rfl⟩
  | _ => cases h

theorem equal_of_asFloat {x y : Float} (hx : v.asFloat? = some x) (hy : w.asFloat? = some y) :
    v.equal w = (x == y) := by
  cases v with
  | int32 | int64 | double =>
    cases hx
    cases w with
    | int32 | int64 | double =>
      cases hy
      rfl
    | _ => cases hy
  | _ => cases hx

/-- Values of unlike kinds are neither equal nor compared. -/
theorem unlike_of_kind (hw : w.kind?.isSome) (h : v.kind? ≠ w.kind?) :
    v.equal w = false ∧ v.compareWithinKind w = none := by
  cases w with
  | int32 | int64 | double | string | bool | objectId | date =>
    cases v with
    | int32 | int64 | double | string | bool | objectId | date =>
      first | exact ⟨rfl, rfl⟩ | exact absurd rfl h
    | _ => exact ⟨rfl, rfl⟩
  | _ => cases hw

/-- Values of one kind, other than numbers, are compared, and as equal exactly when they are. -/
theorem exists_compareWithinKind (hw : w.kind?.isSome) (h : v.kind? = w.kind?)
    (hnumber : w.kind? ≠ some .number) :
    ∃ o, v.compareWithinKind w = some o ∧ (v.equal w = true ↔ o = .eq) := by
  cases w with
  | string b =>
    cases v with
    | string a => exact ⟨_, rfl, beq_iff_eq.trans Std.LawfulEqOrd.compare_eq_iff_eq.symm⟩
    | _ => cases h
  | bool b =>
    cases v with
    | bool a => exact ⟨_, rfl, by rw [compare_eq_iff_eq]; exact beq_iff_eq⟩
    | _ => cases h
  | objectId b =>
    cases v with
    | objectId a => exact ⟨_, rfl, by rw [ObjectId.compare_eq_iff]; exact beq_iff_eq⟩
    | _ => cases h
  | date b =>
    cases v with
    | date a =>
      refine ⟨_, rfl, ?_⟩
      rw [compare_eq_iff_eq, ← Timestamp.mk.injEq]
      exact beq_iff_eq
    | _ => cases h
  | int32 | int64 | double => exact absurd rfl hnumber
  | _ => cases hw

/-- Equality is being compared as equal. -/
theorem equal_iff (hw : w.kind?.isSome) : v.equal w = true ↔ v.compareWithinKind w = some .eq := by
  by_cases h : v.kind? = w.kind?
  · by_cases hnumber : w.kind? = some .number
    · obtain ⟨x, hx⟩ := exists_asFloat_of_kind (h.trans hnumber)
      obtain ⟨y, hy⟩ := exists_asFloat_of_kind hnumber
      rw [equal_of_asFloat hx hy, compareWithinKind_of_asFloat hx hy, FloatOrder.compareFloats_eq]
      exact FloatOrder.beq_iff x y
    · obtain ⟨o, hcompare, hequal⟩ := exists_compareWithinKind hw h hnumber
      rw [hcompare, Option.some.injEq]
      exact hequal
  · obtain ⟨hequal, hcompare⟩ := unlike_of_kind hw h
    simp [hequal, hcompare]

/-- Values are compared when they are of one kind and neither is a float that is no number. -/
theorem compareWithinKind_isSome_iff (hw : w.kind?.isSome) :
    (v.compareWithinKind w).isSome ↔ v.kind? = w.kind? ∧ v.isNaN = false ∧ w.isNaN = false := by
  by_cases h : v.kind? = w.kind?
  · rw [and_iff_right h]
    by_cases hnumber : w.kind? = some .number
    · obtain ⟨x, hx⟩ := exists_asFloat_of_kind (h.trans hnumber)
      obtain ⟨y, hy⟩ := exists_asFloat_of_kind hnumber
      rw [compareWithinKind_of_asFloat hx hy, ← isNaN_of_asFloat hx, ← isNaN_of_asFloat hy]
      by_cases hnan : x.isNaN = true ∨ y.isNaN = true
      · rw [compareFloats_of_isNaN hnan]
        refine iff_of_false Bool.false_ne_true fun hboth => ?_
        rcases hnan with hnan | hnan
        · exact Bool.false_ne_true (hboth.1.symm.trans hnan)
        · exact Bool.false_ne_true (hboth.2.symm.trans hnan)
      · rw [not_or, Bool.not_eq_true, Bool.not_eq_true] at hnan
        rw [compareFloats_of_number hnan.1 hnan.2]
        exact iff_of_true rfl hnan
    · obtain ⟨o, hcompare, -⟩ := exists_compareWithinKind hw h hnumber
      have hnan : ∀ u : Value, u.kind? ≠ some .number → u.isNaN = false := by
        intro u hu
        cases u with
        | double x => exact absurd rfl hu
        | _ => rfl
      simp [hcompare, hnan w hnumber, hnan v (h ▸ hnumber)]
  · simp [(unlike_of_kind hw h).2, h]

end Value

namespace Query

/-- The operators that compare, each with the orders in which a value may stand to the argument. -/
def comparisons : List (String × List Ordering) :=
  [("$eq", [.eq]), ("$gt", [.gt]), ("$gte", [.gt, .eq]), ("$lt", [.lt]), ("$lte", [.lt, .eq])]

/-- Whether a document is found by one operator at a path. -/
def FoundBy (doc : Document) (path operator : String) (argument : Value) : Prop :=
  selects doc [(path, .document [(operator, argument)])] = .ok true

/-- Whether the comparison operators agree with each other on what a document has at a path. -/
structure Coherent (doc : Document) (path : String) (argument : Value) : Prop where
  /-- No operator fails. -/
  evaluates : ∀ operator orders, (operator, orders) ∈ comparisons →
    ∃ b, selects doc [(path, .document [(operator, argument)])] = .ok b
  /-- At least is more or equal. -/
  atLeast : FoundBy doc path "$gte" argument ↔
    FoundBy doc path "$gt" argument ∨ FoundBy doc path "$eq" argument
  /-- At most is less or equal. -/
  atMost : FoundBy doc path "$lte" argument ↔
    FoundBy doc path "$lt" argument ∨ FoundBy doc path "$eq" argument
  /-- What is no list is found by at most one of less, equal and more. -/
  exclusive : (∀ items, Path.lookup doc path ≠ some (.array items)) →
    ¬ (FoundBy doc path "$lt" argument ∧ FoundBy doc path "$eq" argument) ∧
    ¬ (FoundBy doc path "$lt" argument ∧ FoundBy doc path "$gt" argument) ∧
    ¬ (FoundBy doc path "$eq" argument ∧ FoundBy doc path "$gt" argument)
  /-- What is no list is found by one of them exactly when it is of the kind of the argument and no
  float without a number is compared. -/
  complete : (∀ items, Path.lookup doc path ≠ some (.array items)) →
    (FoundBy doc path "$lt" argument ∨ FoundBy doc path "$eq" argument ∨
      FoundBy doc path "$gt" argument ↔ ∃ v, Path.lookup doc path = some v ∧
        v.kind? = argument.kind? ∧ v.isNaN = false ∧ argument.isNaN = false)

variable {stored : Option Value} {argument : Value}

theorem standsTo_append {orders others : List Ordering} :
    StandsTo stored (orders ++ others) argument ↔
      StandsTo stored orders argument ∨ StandsTo stored others argument := by
  simp only [StandsTo, List.mem_append, or_and_right, exists_or, and_or_left]

/-- What is no list stands to an argument in the one order in which they are compared. -/
theorem standsTo_single (hlist : ∀ items, stored ≠ some (.array items)) (o : Ordering) :
    StandsTo stored [o] argument ↔ ∃ v, stored = some v ∧
      v.compareWithinKind argument = some o := by
  cases stored with
  | none => simp [StandsTo, reached]
  | some v =>
    cases v with
    | array items => exact absurd rfl (hlist items)
    | _ => simp [StandsTo, reached]

/-- What is no list stands to an argument in one order at most. -/
theorem standsTo_unique (hlist : ∀ items, stored ≠ some (.array items)) {o o' : Ordering}
    (h : StandsTo stored [o] argument) (h' : StandsTo stored [o'] argument) : o = o' := by
  obtain ⟨v, rfl, hv⟩ := (standsTo_single hlist o).mp h
  obtain ⟨v', he, hv'⟩ := (standsTo_single hlist o').mp h'
  cases he
  exact Option.some.inj (hv.symm.trans hv')

/-- Agreeing with a value that is ordered is standing to it as an equal. -/
theorem agrees_iff_standsTo (h : argument.kind?.isSome) :
    Agrees stored argument ↔ StandsTo stored [.eq] argument := by
  have hnull : argument ≠ .null := by
    rintro rfl
    cases h
  simp only [Agrees, hnull, and_false, or_false, StandsTo, List.mem_singleton, exists_eq_left,
    Value.equal_iff h]

/-- Every comparison operator tells whether what is stored stands to the argument in one of its
orders. -/
theorem decides_comparison (h : argument.kind?.isSome) {operator : String} {orders : List Ordering}
    (hmem : (operator, orders) ∈ comparisons) (stored : Option Value) :
    Decides (satisfiesOperator stored operator argument) (StandsTo stored orders argument) := by
  have hregex : ∀ pattern options, argument ≠ .regex pattern options := by
    rintro pattern options rfl
    cases h
  simp only [comparisons, List.mem_cons, Prod.mk.injEq, List.not_mem_nil, or_false] at hmem
  rcases hmem with ⟨rfl, rfl⟩ | ⟨rfl, rfl⟩ | ⟨rfl, rfl⟩ | ⟨rfl, rfl⟩ | ⟨rfl, rfl⟩
  · exact (decides_equals hregex stored).congr (agrees_iff_standsTo h)
  all_goals exact decides_ok (compares_iff _ fun o => by cases o <;> decide)

theorem startsWith_of_mem_comparisons {operator : String} {orders : List Ordering}
    (h : (operator, orders) ∈ comparisons) : operator.startsWith "$" = true := by
  have hall : ∀ c ∈ comparisons, ['$'] <+: c.1.toList := by decide
  exact String.startsWith_string_iff.mpr (hall _ h)

theorem foundBy_iff (h : argument.kind?.isSome) (doc : Document) (path : String) {operator : String}
    {orders : List Ordering} (hmem : (operator, orders) ∈ comparisons) :
    FoundBy doc path operator argument ↔ StandsTo (Path.lookup doc path) orders argument := by
  rw [FoundBy, selects_single (startsWith_of_mem_comparisons hmem)]
  exact (decides_comparison h hmem _).iff

/-- The comparison operators are coherent for every argument that is a number, a text, a truth
value, an id or a date. -/
theorem coherent_of_kind (h : argument.kind?.isSome) (doc : Document) (path : String) :
    Coherent doc path argument := by
  have hfound : ∀ operator orders, (operator, orders) ∈ comparisons →
      (FoundBy doc path operator argument ↔ StandsTo (Path.lookup doc path) orders argument) :=
    fun _ _ hmem => foundBy_iff h doc path hmem
  have heq := hfound "$eq" [.eq] (by simp [comparisons])
  have hgt := hfound "$gt" [.gt] (by simp [comparisons])
  have hlt := hfound "$lt" [.lt] (by simp [comparisons])
  refine ⟨fun operator orders hmem => ?_, ?_, ?_, fun hlist => ?_, fun hlist => ?_⟩
  · rw [selects_single (startsWith_of_mem_comparisons hmem)]
    obtain ⟨b, hb, -⟩ := decides_comparison h hmem (Path.lookup doc path)
    exact ⟨b, hb⟩
  · rw [heq, hgt, hfound "$gte" ([.gt] ++ [.eq]) (by simp [comparisons]), standsTo_append]
  · rw [heq, hlt, hfound "$lte" ([.lt] ++ [.eq]) (by simp [comparisons]), standsTo_append]
  · rw [heq, hgt, hlt]
    refine ⟨fun hboth => ?_, fun hboth => ?_, fun hboth => ?_⟩ <;>
      cases standsTo_unique hlist hboth.1 hboth.2
  · rw [heq, hgt, hlt, standsTo_single hlist, standsTo_single hlist, standsTo_single hlist,
      ← exists_or, ← exists_or]
    refine exists_congr fun v => ?_
    rw [← and_or_left, ← and_or_left, ← Value.compareWithinKind_isSome_iff h]
    refine and_congr_right fun _ => ?_
    cases v.compareWithinKind argument with
    | none => simp
    | some o => cases o <;> simp

/-! ## Decimals -/

theorem compareWithinKind_decimal128 (v : Value) (d : Decimal128) :
    v.compareWithinKind (.decimal128 d) = none := by
  cases v <;> rfl

theorem equal_decimal128 (v : Value) (d : Decimal128) :
    v.equal (.decimal128 d) = true ↔ v = .decimal128 d := by
  cases v <;> simp [Value.equal, Value.same, Value.asFloat?]

/-- Decimals have no order: a bound that is one leaves every document out, and equality finds the
same decimal alone. -/
theorem selects_decimal128 (doc : Document) (path : String) (d : Decimal128) :
    (FoundBy doc path "$eq" (.decimal128 d) ↔ .decimal128 d ∈ reached (Path.lookup doc path)) ∧
      ∀ operator orders, (operator, orders) ∈ comparisons → operator ≠ "$eq" →
        selects doc [(path, .document [(operator, .decimal128 d)])] = .ok false := by
  have hregex : ∀ pattern options, Value.decimal128 d ≠ .regex pattern options := fun _ _ h => by
    cases h
  have hbound : ∀ accept, compares (Path.lookup doc path) (.decimal128 d) accept = false := by
    intro accept
    refine Bool.eq_false_iff.mpr fun h => ?_
    have hall : ∀ o, accept o = true ↔ o ∈ [Ordering.lt, .eq, .gt].filter accept := fun o => by
      cases o <;> simp
    obtain ⟨v, -, o, -, ho⟩ := (compares_iff accept hall).mp h
    rw [compareWithinKind_decimal128] at ho
    cases ho
  refine ⟨?_, fun operator orders hmem hne => ?_⟩
  · have hequal : ("$eq", [Ordering.eq]) ∈ comparisons := by simp [comparisons]
    rw [FoundBy, selects_single (startsWith_of_mem_comparisons hequal)]
    refine (decides_equals hregex _).iff.trans ?_
    simp only [Agrees, equal_decimal128, exists_eq_right, reduceCtorEq, and_false, or_false]
  · rw [selects_single (startsWith_of_mem_comparisons hmem)]
    simp only [comparisons, List.mem_cons, Prod.mk.injEq, List.not_mem_nil, or_false] at hmem
    rcases hmem with ⟨rfl, -⟩ | ⟨rfl, -⟩ | ⟨rfl, -⟩ | ⟨rfl, -⟩ | ⟨rfl, -⟩
    · exact absurd rfl hne
    all_goals exact congrArg Except.ok (hbound _)

/-- The comparison operators are coherent for every argument that is a number, a text, a truth
value, an id or a date. A decimal is asked for by equality alone. -/
theorem operators_coherent (doc : Document) (path : String) :
    (∀ argument : Value, argument.kind?.isSome → Coherent doc path argument) ∧
    ∀ d : Decimal128,
      (FoundBy doc path "$eq" (.decimal128 d) ↔ .decimal128 d ∈ reached (Path.lookup doc path)) ∧
      ∀ operator orders, (operator, orders) ∈ comparisons → operator ≠ "$eq" →
        selects doc [(path, .document [(operator, .decimal128 d)])] = .ok false :=
  ⟨fun _ h => coherent_of_kind h doc path, selects_decimal128 doc path⟩

/-- A list is found by less, equal and more when it has items below, at and above the argument; so
the operators exclude each other only for what is no list. -/
theorem operators_coherent_list :
    (Value.string "b").kind?.isSome ∧
      Coherent [("tags", .array [.string "a", .string "b", .string "c"])] "tags" (.string "b") ∧
      ∀ operator ∈ ["$lt", "$eq", "$gt"],
        FoundBy [("tags", .array [.string "a", .string "b", .string "c"])] "tags" operator
          (.string "b") := by
  have hlookup : Path.lookup [("tags", .array [.string "a", .string "b", .string "c"])] "tags" =
      some (.array [.string "a", .string "b", .string "c"]) := by rfl
  have hfound : ∀ operator orders item o, (operator, orders) ∈ comparisons →
      Value.string item ∈ [Value.string "a", .string "b", .string "c"] → o ∈ orders →
      compare item "b" = o →
      FoundBy [("tags", .array [.string "a", .string "b", .string "c"])] "tags" operator
          (.string "b") := by
    intro operator orders item o hmem hitem ho hcompare
    rw [foundBy_iff rfl _ _ hmem, hlookup]
    exact ⟨.string item, List.mem_cons_of_mem _ hitem, o, ho, congrArg some hcompare⟩
  refine ⟨rfl, (operators_coherent _ _).1 _ rfl, ?_⟩
  simp only [List.forall_mem_cons, List.not_mem_nil, false_implies, implies_true, and_true]
  exact ⟨hfound _ [.lt] "a" .lt (by simp [comparisons]) (by simp) (by simp) (by decide),
    hfound _ [.eq] "b" .eq (by simp [comparisons]) (by simp) (by simp) (by decide),
    hfound _ [.gt] "c" .gt (by simp [comparisons]) (by simp) (by simp) (by decide)⟩

end Query

/-- The decimal of one digit, a one. -/
def Sample.decimalOne : Decimal128 :=
  .ofMagnitude false (.finite 1 0)

namespace Query

/-- A document that holds a decimal is found by equality with it, and neither by at least nor by at
most. -/
theorem equal_not_bounded :
    FoundBy [("v", .decimal128 Sample.decimalOne)] "v" "$eq" (.decimal128 Sample.decimalOne) ∧
    ¬ FoundBy [("v", .decimal128 Sample.decimalOne)] "v" "$gte" (.decimal128 Sample.decimalOne) ∧
    ¬ FoundBy [("v", .decimal128 Sample.decimalOne)] "v" "$lte" (.decimal128 Sample.decimalOne) ∧
    ¬ Coherent [("v", .decimal128 Sample.decimalOne)] "v" (.decimal128 Sample.decimalOne) := by
  have hlookup : Path.lookup [("v", .decimal128 Sample.decimalOne)] "v" =
      some (.decimal128 Sample.decimalOne) := rfl
  obtain ⟨hequal, hbounds⟩ :=
    selects_decimal128 [("v", .decimal128 Sample.decimalOne)] "v" Sample.decimalOne
  have hfound := hequal.mpr (by
    rw [hlookup]
    exact List.mem_singleton_self _)
  have hnot : ∀ operator orders, (operator, orders) ∈ comparisons → operator ≠ "$eq" →
      ¬ FoundBy [("v", .decimal128 Sample.decimalOne)] "v" operator
          (.decimal128 Sample.decimalOne) := by
    intro operator orders hmem hne h
    have hfalse := (hbounds operator orders hmem hne).symm.trans h
    cases hfalse
  have hgte := hnot "$gte" [.gt, .eq] (by simp [comparisons]) (by decide)
  have hlte := hnot "$lte" [.lt, .eq] (by simp [comparisons]) (by decide)
  exact ⟨hfound, hgte, hlte, fun hcoherent => hgte (hcoherent.atLeast.mpr (Or.inr hfound))⟩

end Query

end ClassApi
