import ClassApi.Proofs.FloatIntegers

/-!
# The sort order of values

Values are ordered by rank, and values of one rank by what is compared within it. What cannot be
compared counts as equal to everything of its rank: a symbol, since only texts are compared within
the rank of texts, and a float that is no number. With such a value in between, a greater value does
not come behind a smaller one. Comparing the other way round gives the opposite for all values, and
all values without symbols and such floats are in one order, item by item in lists. No other value
can be added to them without losing it.
-/

namespace ClassApi

/-! ## Ids -/

namespace ObjectId

theorem compareBytes_eq : ∀ a b : List UInt8, compareBytes a b = Ord.compare a b
  | [], [] | [], _ :: _ | _ :: _, [] => rfl
  | a :: as, b :: bs => by
    rw [compareBytes, List.compare_cons_cons, compareBytes_eq as bs]
    show _ = (compareOfLessAndEq a b).then _
    rw [compareOfLessAndEq]
    split_ifs with hlt hgt heq heq
    · rfl
    · exact absurd (heq ▸ hgt) (UInt8.lt_irrefl _)
    · rfl
    · rfl
    · exact absurd (UInt8.le_antisymm (UInt8.not_lt.mp hgt) (UInt8.not_lt.mp hlt)) heq

instance : Std.TransCmp ObjectId.compare where
  eq_swap := by
    intro a b
    rw [ObjectId.compare, ObjectId.compare, compareBytes_eq, compareBytes_eq]
    exact Std.OrientedCmp.eq_swap
  isLE_trans := by
    intro a b c hab hbc
    rw [ObjectId.compare, compareBytes_eq] at hab hbc ⊢
    exact Std.TransCmp.isLE_trans hab hbc

end ObjectId

namespace Value

/-! ## Values that can be compared -/

mutual

/-- Whether a value can be compared with every other one of its rank: it is no symbol, it is not a
float that is no number, and all items of a list can be compared. -/
def comparable : Value → Bool
  | symbol _ => false
  | double x => !x.isNaN
  | array items => comparableItems items
  | _ => true

def comparableItems : List Value → Bool
  | [] => true
  | x :: xs => x.comparable && comparableItems xs

end

/-- The order of two values of one rank. -/
def orderWithin : Value → Value → Ordering
  | array xs, array ys => orderItems xs ys
  | a, b => (compareWithinKind a b).getD .eq

theorem order_eq (a b : Value) :
    order a b = (compare (rank (some a)) (rank (some b))).then (orderWithin a b) := by
  by_cases harrays : ∃ xs ys, a = array xs ∧ b = array ys
  · obtain ⟨xs, ys, rfl, rfl⟩ := harrays
    rw [order, orderWithin]
    rfl
  · have hother : ∀ xs ys, a = array xs → b = array ys → False :=
      fun xs ys ha hb => harrays ⟨xs, ys, ha, hb⟩
    rw [order.eq_2 a b hother, orderWithin.eq_2 a b hother]

/-- A missing value is ordered as `null`. -/
theorem orderOptional_eq (a b : Option Value) :
    orderOptional a b = order (a.getD null) (b.getD null) := by
  have hnull : ∀ v : Value, orderWithin null v = .eq ∧ orderWithin v null = .eq := by
    intro v
    cases v <;> exact ⟨rfl, rfl⟩
  cases a with
  | some a =>
    cases b with
    | some b => rfl
    | none =>
      rw [order_eq]
      show _ = (compare _ _).then (orderWithin a null)
      rw [(hnull a).2, Ordering.then_eq]
      rfl
  | none =>
    rw [order_eq]
    show _ = (compare _ _).then (orderWithin null (b.getD null))
    rw [(hnull _).1, Ordering.then_eq]
    cases b <;> rfl

/-! ## What is compared within a rank -/

theorem exists_asFloat_of_rank {v : Value} (h : rank (some v) = 1) : ∃ x, v.asFloat? = some x := by
  cases v with
  | int32 n => exact ⟨_, rfl⟩
  | int64 n => exact ⟨_, rfl⟩
  | double x => exact ⟨_, rfl⟩
  | _ => simp [rank] at h

theorem exists_string_of_rank {v : Value} (h : rank (some v) = 2) (hv : v.comparable = true) :
    ∃ s, v = string s := by
  cases v with
  | string s => exact ⟨s, rfl⟩
  | symbol s => cases hv
  | _ => simp [rank] at h

theorem exists_array_of_rank {v : Value} (h : rank (some v) = 4) : ∃ xs, v = array xs := by
  cases v with
  | array xs => exact ⟨xs, rfl⟩
  | _ => simp [rank] at h

theorem exists_objectId_of_rank {v : Value} (h : rank (some v) = 6) : ∃ id, v = objectId id := by
  cases v with
  | objectId id => exact ⟨id, rfl⟩
  | _ => simp [rank] at h

theorem exists_bool_of_rank {v : Value} (h : rank (some v) = 7) : ∃ b, v = bool b := by
  cases v with
  | bool b => exact ⟨b, rfl⟩
  | _ => simp [rank] at h

theorem exists_date_of_rank {v : Value} (h : rank (some v) = 8) : ∃ t, v = date t := by
  cases v with
  | date t => exact ⟨t, rfl⟩
  | _ => simp [rank] at h

/-- Values of the other ranks are not compared. -/
theorem orderWithin_of_rank {a b : Value} (h : rank (some a) ∈ [0, 3, 5, 9, 10, 11]) :
    orderWithin a b = .eq := by
  cases a with
  | null | undefined | document | binary | logTime | regex | decimal128 | dbPointer | code
  | codeWithScope | minKey | maxKey => rfl
  | _ => simp [rank] at h

theorem isNaN_of_comparable {v : Value} {x : Float} (hv : v.comparable = true)
    (hx : v.asFloat? = some x) : x.isNaN = false := by
  cases v with
  | int32 n =>
    cases hx
    exact isNaN_ofInt n
  | int64 n =>
    cases hx
    exact isNaN_ofInt n
  | double y =>
    cases hx
    simpa [comparable] using hv
  | _ => cases hx

theorem compareWithinKind_of_asFloat {a b : Value} {x y : Float} (hx : a.asFloat? = some x)
    (hy : b.asFloat? = some y) : a.compareWithinKind b = compareFloats x y := by
  cases a with
  | int32 | int64 | double =>
    cases hx
    cases b with
    | int32 | int64 | double =>
      cases hy
      rfl
    | _ => cases hy
  | _ => cases hx

theorem orderWithin_of_asFloat {a b : Value} {x y : Float} (hx : a.asFloat? = some x)
    (hy : b.asFloat? = some y) : orderWithin a b = (compareFloats x y).getD .eq := by
  rw [orderWithin, compareWithinKind_of_asFloat hx hy]
  rintro items others rfl -
  cases hx

/-- Within a rank, values that can be compared are in one order, lists aside. -/
theorem closes_orderWithin {a b c : Value} (hab : rank (some b) = rank (some a))
    (hac : rank (some c) = rank (some a)) (ha : a.comparable = true) (hb : b.comparable = true)
    (hc : c.comparable = true) (hlist : ∀ xs, a ≠ array xs) :
    Closes (orderWithin a b) (orderWithin b c) (orderWithin c a) := by
  have hnumber : rank (some a) = 1 →
      Closes (orderWithin a b) (orderWithin b c) (orderWithin c a) := by
    intro hrank
    obtain ⟨x, hx⟩ := exists_asFloat_of_rank hrank
    obtain ⟨y, hy⟩ := exists_asFloat_of_rank (hab.trans hrank)
    obtain ⟨z, hz⟩ := exists_asFloat_of_rank (hac.trans hrank)
    have hx' := isNaN_of_comparable ha hx
    have hy' := isNaN_of_comparable hb hy
    have hz' := isNaN_of_comparable hc hz
    rw [orderWithin_of_asFloat hx hy, orderWithin_of_asFloat hy hz, orderWithin_of_asFloat hz hx,
      compareFloats_of_number hx' hy', compareFloats_of_number hy' hz',
      compareFloats_of_number hz' hx']
    exact Closes.of_transCmp FloatOrder.comparePlaces _ _ _
  have hother : rank (some a) ∈ [0, 3, 5, 9, 10, 11] →
      Closes (orderWithin a b) (orderWithin b c) (orderWithin c a) := by
    intro hrank
    rw [orderWithin_of_rank hrank, orderWithin_of_rank (hab ▸ hrank),
      orderWithin_of_rank (hac ▸ hrank)]
    exact Closes.eq
  cases a with
  | int32 | int64 | double => exact hnumber rfl
  | string s =>
    obtain ⟨t, rfl⟩ := exists_string_of_rank hab hb
    obtain ⟨u, rfl⟩ := exists_string_of_rank hac hc
    exact Closes.of_transCmp compare s t u
  | symbol => cases ha
  | array xs => exact absurd rfl (hlist xs)
  | objectId i =>
    obtain ⟨j, rfl⟩ := exists_objectId_of_rank hab
    obtain ⟨k, rfl⟩ := exists_objectId_of_rank hac
    exact Closes.of_transCmp ObjectId.compare i j k
  | bool p =>
    obtain ⟨q, rfl⟩ := exists_bool_of_rank hab
    obtain ⟨r, rfl⟩ := exists_bool_of_rank hac
    exact Closes.of_transCmp compare p q r
  | date t =>
    obtain ⟨u, rfl⟩ := exists_date_of_rank hab
    obtain ⟨w, rfl⟩ := exists_date_of_rank hac
    exact Closes.of_transCmp compare t.millis u.millis w.millis
  | _ => exact hother (by simp [rank])

mutual

/-- Values that can be compared are in one order. -/
theorem closes_order :
    ∀ {a b c : Value}, a.comparable = true → b.comparable = true → c.comparable = true →
    Closes (order a b) (order b c) (order c a)
  | a, b, c, ha, hb, hc => by
    rw [order_eq, order_eq, order_eq]
    refine (Closes.of_transCmp compare (rank (some a)) (rank (some b)) (rank (some c))).breakTies ?_
    intro hab hbc hca
    have hab' : rank (some b) = rank (some a) := (Nat.compare_eq_eq.mp hab).symm
    have hac' : rank (some c) = rank (some a) := Nat.compare_eq_eq.mp hca
    -- only lists are entered, and values of one rank are all lists or none of them is
    by_cases harray : ∃ xs, a = array xs
    · obtain ⟨xs, rfl⟩ := harray
      obtain ⟨ys, rfl⟩ := exists_array_of_rank hab'
      obtain ⟨zs, rfl⟩ := exists_array_of_rank hac'
      exact closes_orderItems ha hb hc
    · exact closes_orderWithin hab' hac' ha hb hc (fun xs hxs => harray ⟨xs, hxs⟩)

theorem closes_orderItems :
    ∀ {as bs cs : List Value}, comparableItems as = true → comparableItems bs = true →
    comparableItems cs = true → Closes (orderItems as bs) (orderItems bs cs) (orderItems cs as)
  | [], [], [], _, _, _ => Closes.eq
  | [], [], _ :: _, _, _, _ | [], _ :: _, [], _, _, _ | [], _ :: _, _ :: _, _, _, _ => by
    simp [Closes, orderItems]
  | _ :: _, [], [], _, _, _ | _ :: _, [], _ :: _, _, _, _ | _ :: _, _ :: _, [], _, _, _ => by
    simp [Closes, orderItems]
  | a :: as, b :: bs, c :: cs, ha, hb, hc => by
    rw [comparableItems, Bool.and_eq_true] at ha hb hc
    rw [orderItems, orderItems, orderItems]
    exact (closes_order ha.1 hb.1 hc.1).breakTies fun _ _ _ => closes_orderItems ha.2 hb.2 hc.2

end

/-! ## Comparing the other way round -/

theorem orderWithin_swap {a b : Value} (h : rank (some b) = rank (some a))
    (hlist : ∀ xs, a ≠ array xs) : orderWithin b a = (orderWithin a b).swap := by
  have hnumber : rank (some a) = 1 → orderWithin b a = (orderWithin a b).swap := by
    intro hrank
    obtain ⟨x, hx⟩ := exists_asFloat_of_rank hrank
    obtain ⟨y, hy⟩ := exists_asFloat_of_rank (h.trans hrank)
    rw [orderWithin_of_asFloat hx hy, orderWithin_of_asFloat hy hx, compareFloats_swap x y]
    cases compareFloats x y <;> rfl
  have hother : rank (some a) ∈ [0, 3, 5, 9, 10, 11] →
      orderWithin b a = (orderWithin a b).swap := by
    intro hrank
    rw [orderWithin_of_rank hrank, orderWithin_of_rank (h ▸ hrank)]
    rfl
  cases a with
  | int32 | int64 | double => exact hnumber rfl
  | string s =>
    cases b with
    | string t =>
      show compare t s = (compare s t).swap
      exact Std.OrientedCmp.eq_swap
    | symbol t => rfl
    | _ => simp [rank] at h
  | symbol s =>
    cases b with
    | string | symbol => rfl
    | _ => simp [rank] at h
  | array xs => exact absurd rfl (hlist xs)
  | objectId i =>
    obtain ⟨j, rfl⟩ := exists_objectId_of_rank h
    show ObjectId.compare j i = (ObjectId.compare i j).swap
    exact Std.OrientedCmp.eq_swap
  | bool p =>
    obtain ⟨q, rfl⟩ := exists_bool_of_rank h
    show compare q p = (compare p q).swap
    exact Std.OrientedCmp.eq_swap
  | date t =>
    obtain ⟨u, rfl⟩ := exists_date_of_rank h
    show compare u.millis t.millis = (compare t.millis u.millis).swap
    exact Std.OrientedCmp.eq_swap
  | _ => exact hother (by simp [rank])

mutual

/-- Comparing the other way round gives the opposite, whatever is compared. -/
theorem order_swap : ∀ a b : Value, order b a = (order a b).swap
  | a, b => by
    have hranks :
        compare (rank (some b)) (rank (some a)) = (compare (rank (some a)) (rank (some b))).swap :=
      Std.OrientedCmp.eq_swap
    rw [order_eq, order_eq a b, hranks]
    cases hcompare : compare (rank (some a)) (rank (some b)) with
    | lt => rfl
    | gt => rfl
    | eq =>
      have hrank : rank (some b) = rank (some a) := (Nat.compare_eq_eq.mp hcompare).symm
      show orderWithin b a = (orderWithin a b).swap
      by_cases harray : ∃ xs, a = array xs
      · obtain ⟨xs, rfl⟩ := harray
        obtain ⟨ys, rfl⟩ := exists_array_of_rank hrank
        exact orderItems_swap xs ys
      · exact orderWithin_swap hrank fun xs hxs => harray ⟨xs, hxs⟩

theorem orderItems_swap : ∀ as bs : List Value, orderItems bs as = (orderItems as bs).swap
  | [], [] | [], _ :: _ | _ :: _, [] => by simp [orderItems]
  | a :: as, b :: bs => by
    rw [orderItems, orderItems, Ordering.swap_then, order_swap a b, orderItems_swap as bs]

end

theorem order_self (a : Value) : order a a = .eq :=
  eq_of_eq_swap (order_swap a a)

/-! ## Values that cannot be compared -/

theorem order_maxKey (v : Value) : order v maxKey ≠ .gt := by
  have hwithin : orderWithin v maxKey = .eq := by cases v <;> rfl
  have hrank : rank (some v) ≤ 11 := by cases v <;> simp [rank]
  rw [order_eq, hwithin, Ordering.then_eq]
  exact fun hgt => Nat.not_lt.mpr hrank (Nat.compare_eq_gt.mp hgt)

theorem orderItems_maxKey (xs : List Value) :
    orderItems xs (List.replicate xs.length maxKey) ≠ .gt := by
  induction xs with
  | nil => nofun
  | cons x xs ih =>
    have hfirst := order_maxKey x
    rw [List.length_cons, List.replicate_succ, orderItems]
    cases hx : order x maxKey with
    | lt => nofun
    | eq => exact ih
    | gt => exact absurd hx hfirst

theorem comparableItems_maxKey (n : Nat) : comparableItems (List.replicate n maxKey) = true := by
  induction n with
  | zero => rfl
  | succ n ih => exact ih

mutual

/-- What cannot be compared comes behind a value and before a smaller one. -/
theorem exists_disordered :
    ∀ {v : Value}, v.comparable = false → ∃ a c : Value, a.comparable = true ∧ c.comparable = true ∧
    order a v ≠ .gt ∧ order v c ≠ .gt ∧ order a c = .gt
  | symbol s, _ => ⟨string "b", string "a", rfl, rfl, nofun, nofun, by decide +kernel⟩
  | double x, h => by
    have hx : x.isNaN = true := by simpa [comparable] using h
    have hless : order (int32 2) (double x) = .eq := by
      rw [order_eq, orderWithin_of_asFloat rfl rfl, compareFloats_of_isNaN (Or.inr hx)]
      rfl
    have hgreater : order (double x) (int32 1) = .eq := by
      rw [order_eq, orderWithin_of_asFloat rfl rfl, compareFloats_of_isNaN (Or.inl hx)]
      rfl
    exact ⟨int32 2, int32 1, rfl, rfl, hless ▸ nofun, hgreater ▸ nofun, by decide +kernel⟩
  | array xs, h => by
    obtain ⟨as, cs, ha, hc, hless, hgreater, hdisordered⟩ := exists_disordered_items h
    exact ⟨array as, array cs, ha, hc, hless, hgreater, hdisordered⟩

theorem exists_disordered_items :
    ∀ {xs : List Value}, comparableItems xs = false → ∃ as cs : List Value,
    comparableItems as = true ∧ comparableItems cs = true ∧ orderItems as xs ≠ .gt ∧
    orderItems xs cs ≠ .gt ∧
    orderItems as cs = .gt
  | x :: xs, h => by
    by_cases hx : x.comparable = true
    · rw [comparableItems, hx, Bool.true_and] at h
      obtain ⟨as, cs, ha, hc, hless, hgreater, hdisordered⟩ := exists_disordered_items h
      refine ⟨x :: as, x :: cs, ?_, ?_, ?_, ?_, ?_⟩
      · rw [comparableItems, hx, ha]
        rfl
      · rw [comparableItems, hx, hc]
        rfl
      · rwa [orderItems, order_self]
      · rwa [orderItems, order_self]
      · rwa [orderItems, order_self]
    · obtain ⟨a, c, ha, hc, hless, hgreater, hdisordered⟩ :=
        exists_disordered (Bool.not_eq_true _ ▸ hx)
      -- the list that comes before ends here, and the one that comes behind goes on with the
      -- greatest items
      refine ⟨[a], c :: List.replicate xs.length maxKey, ?_, ?_, ?_, ?_, ?_⟩
      · rw [comparableItems, ha]
        rfl
      · rw [comparableItems, hc, comparableItems_maxKey]
        rfl
      · rw [orderItems]
        cases hax : order a x with
        | lt => nofun
        | eq => cases xs <;> nofun
        | gt => exact absurd hax hless
      · rw [orderItems]
        cases hxc : order x c with
        | lt => nofun
        | eq => exact orderItems_maxKey xs
        | gt => exact absurd hxc hgreater
      · rw [orderItems, hdisordered]
        rfl

end

/-! ## The order -/

/-- Whether an optional value can be compared; a missing one can. -/
def comparableOptional (value : Option Value) : Bool :=
  (value.getD null).comparable

theorem orderOptional_swap (a b : Option Value) : orderOptional b a = (orderOptional a b).swap := by
  rw [orderOptional_eq, orderOptional_eq]
  exact order_swap _ _

theorem closes_orderOptional {a b c : Option Value} (ha : comparableOptional a = true)
    (hb : comparableOptional b = true) (hc : comparableOptional c = true) :
    Closes (orderOptional a b) (orderOptional b c) (orderOptional c a) := by
  rw [orderOptional_eq, orderOptional_eq, orderOptional_eq]
  exact closes_order ha hb hc

theorem orderOptional_trans {a b c : Option Value} (ha : comparableOptional a = true)
    (hb : comparableOptional b = true) (hc : comparableOptional c = true)
    (hab : orderOptional a b ≠ .gt) (hbc : orderOptional b c ≠ .gt) : orderOptional a c ≠ .gt := by
  intro hgt
  have hlt : orderOptional c a = .lt := by
    rw [orderOptional_swap a c, hgt]
    rfl
  exact (closes_orderOptional ha hb hc).not_lt hab hbc hlt

theorem orderOptional_eq_trans {a b c : Option Value} (ha : comparableOptional a = true)
    (hb : comparableOptional b = true) (hc : comparableOptional c = true)
    (hab : orderOptional a b = .eq) (hbc : orderOptional b c = .eq) : orderOptional a c = .eq := by
  rw [orderOptional_swap c a, (closes_orderOptional ha hb hc).eq_of_eq hab hbc]
  rfl

/-- The sort order is a total preorder of the optional values that can be compared, in which those
that compare as equal are equivalent, and no other value can be added to it: what cannot be compared
takes the order from some that can. Comparing the other way round gives the opposite, and a value
equals itself, whatever is compared. -/
theorem orderOptional_preorder_iff (b : Option Value) :
    (∀ a : Option Value, orderOptional b a = (orderOptional a b).swap) ∧
    orderOptional b b = .eq ∧
    (comparableOptional b = true ↔
      ∀ a c : Option Value, comparableOptional a = true → comparableOptional c = true →
        orderOptional a b ≠ .gt → orderOptional b c ≠ .gt → orderOptional a c ≠ .gt) ∧
    (comparableOptional b = true →
      ∀ a c : Option Value, comparableOptional a = true → comparableOptional c = true →
        orderOptional a b = .eq → orderOptional b c = .eq → orderOptional a c = .eq) := by
  refine ⟨fun a => orderOptional_swap a b, ?_,
    ⟨fun hb a c ha hc => orderOptional_trans ha hb hc, fun h => ?_⟩,
    fun hb a c ha hc => orderOptional_eq_trans ha hb hc⟩
  · rw [orderOptional_eq]
    exact order_self _
  · by_contra hb
    obtain ⟨a, c, ha, hc, hless, hgreater, hdisordered⟩ :=
      exists_disordered (Bool.not_eq_true _ ▸ hb)
    refine h (some a) (some c) ha hc ?_ ?_ hdisordered
    · rwa [orderOptional_eq]
    · rwa [orderOptional_eq]

/-- A missing value is before a list with a number, and this is before one with a greater number. -/
theorem orderOptional_preorder_iff_list :
    orderOptional none (some (array [int64 1])) ≠ .gt ∧
    orderOptional (some (array [int64 1])) (some (array [int32 2])) ≠ .gt ∧
    orderOptional none (some (array [int32 2])) ≠ .gt := by
  have hless : orderOptional none (some (array [int64 1])) ≠ .gt := by decide +kernel
  have hgreater : orderOptional (some (array [int64 1])) (some (array [int32 2])) ≠ .gt := by
    decide +kernel
  exact ⟨hless, hgreater,
    (orderOptional_preorder_iff (some (array [int64 1]))).2.2.1.mp rfl none (some (array [int32 2]))
      rfl rfl hless hgreater⟩

/-- A symbol equals every text, so two texts that are not equal both equal it. -/
theorem exists_symbol_between :
    orderOptional (some (string "b")) (some (symbol "s")) = .eq ∧
    orderOptional (some (symbol "s")) (some (string "a")) = .eq ∧
    orderOptional (some (string "b")) (some (string "a")) = .gt := by
  decide +kernel

end Value

end ClassApi
