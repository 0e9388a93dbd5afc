import ClassApi.Document.Query
import ClassApi.Proofs.Fields

/-!
# What a condition asks for

A condition looks at a stored value and, when this is a list, at its items. Equality, order and
patterns are told here as facts about the values that are looked at, and a query as the conjunction
of its conditions. Evaluation yields a result that decides the fact, or it fails; a failure of the
whole is the failure of one of its parts.
-/

namespace ClassApi.Query

/-! ## Deciding facts -/

/-- Whether evaluation succeeds and its result tells whether a fact holds. -/
def Decides (result : Except StoreError Bool) (fact : Prop) : Prop :=
  ∃ b, result = .ok b ∧ (b = true ↔ fact)

theorem Decides.congr {result : Except StoreError Bool} {p q : Prop} (h : Decides result p)
    (hpq : p ↔ q) : Decides result q := by
  obtain ⟨b, hb, hp⟩ := h
  exact ⟨b, hb, hp.trans hpq⟩

theorem Decides.iff {result : Except StoreError Bool} {p : Prop} (h : Decides result p) :
    result = .ok true ↔ p := by
  obtain ⟨b, rfl, hp⟩ := h
  rw [← hp, Except.ok.injEq]

/-- What can be decided is decided by whether evaluation yields `true`. -/
theorem Decides.self {result : Except StoreError Bool} {p : Prop} (h : Decides result p) :
    Decides result (result = .ok true) :=
  h.congr h.iff.symm

theorem decides_ok {b : Bool} {p : Prop} (h : b = true ↔ p) : Decides (.ok b) p :=
  ⟨b, rfl, h⟩

/-- A first condition and then others: the result of the others counts when the first one holds. -/
theorem Decides.and {first rest : Except StoreError Bool} {p q : Prop} :
    Decides first p → Decides rest q →
    Decides (match first with | .ok true => rest | .ok false => .ok false | .error e => .error e)
      (p ∧ q) := by
  rintro ⟨b, rfl, hb⟩ hq
  cases b with
  | true => exact hq.congr (and_iff_right (hb.mp rfl)).symm
  | false => exact decides_ok (iff_of_false Bool.false_ne_true fun h =>
    Bool.false_ne_true (hb.mpr h.1))

/-- A first candidate and then others: the result of the others counts when the first one does not
match. -/
theorem Decides.or {first rest : Except StoreError Bool} {p q : Prop} :
    Decides first p → Decides rest q →
    Decides (match first with | .ok true => .ok true | .ok false => rest | .error e => .error e)
      (p ∨ q) := by
  rintro ⟨b, rfl, hb⟩ hq
  cases b with
  | true => exact decides_ok (iff_of_true rfl (Or.inl (hb.mp rfl)))
  | false => exact hq.congr (or_iff_right fun h => Bool.false_ne_true (hb.mpr h)).symm

/-! ## The values that are looked at -/

/-- The values a condition looks at: what is stored and, if that is a list, its items. -/
def reached : Option Value → List Value
  | none => []
  | some (.array items) => .array items :: items
  | some v => [v]

theorem exists_reached {test : Value → Bool} {stored : Option Value} :
    (∃ v ∈ reached stored, test v = true) ↔
      (∃ v, stored = some v ∧ test v = true) ∨ anyItem test stored = true := by
  cases stored with
  | none => simp [reached, anyItem]
  | some v => cases v <;> simp [reached, anyItem]

/-- Whether a stored value agrees with a target: what is stored or an item of it equals the target,
or the target is `null` and nothing is stored. -/
def Agrees (stored : Option Value) (target : Value) : Prop :=
  (∃ v ∈ reached stored, v.equal target = true) ∨ (stored = none ∧ target = .null)

/-- Whether what is stored, or an item of it, stands to an argument of its kind in one of some
orders. -/
def StandsTo (stored : Option Value) (orders : List Ordering) (argument : Value) : Prop :=
  ∃ v ∈ reached stored, ∃ o ∈ orders, v.compareWithinKind argument = some o

/-- Whether a pattern is found in what is stored or in an item of it. -/
def Found (pattern : Pattern) (stored : Option Value) : Prop :=
  ∃ s, .string s ∈ reached stored ∧ pattern.foundIn s = true

theorem isNull_some {v : Value} : isNull (some v) = true ↔ v = .null := by
  cases v <;> simp [isNull]

instance (stored : Option Value) (target : Value) : Decidable (Agrees stored target) :=
  decidable_of_iff
    ((reached stored).any (fun v => v.equal target) = true ∨
      (stored.isNone = true ∧ isNull (some target) = true))
    (by rw [Agrees, List.any_eq_true, Option.isNone_iff_eq_none, isNull_some])

theorem equal_null (v : Value) : v.equal .null = isNull (some v) := by
  rw [Value.equal.eq_3 _ _ (by simp) (by simp)]
  cases v <;> rfl

/-! ## Equality -/

section Equality

variable {target : Value}

theorem equals_none (hnull : target ≠ .null)
    (hregex : ∀ pattern options, target ≠ .regex pattern options) :
    equals none target = .ok false := by
  cases target with
  | null => exact absurd rfl hnull
  | regex pattern options => exact absurd rfl (hregex pattern options)
  | _ => rfl

theorem equals_some (hnull : target ≠ .null)
    (hregex : ∀ pattern options, target ≠ .regex pattern options) (v : Value) :
    equals (some v) target = .ok (v.equal target ||
      anyItem (fun item => item.equal target) (some v)) := by
  cases target with
  | null => exact absurd rfl hnull
  | regex pattern options => exact absurd rfl (hregex pattern options)
  | _ => rfl

theorem equals_null (stored : Option Value) :
    equals stored .null = .ok (isNull stored || anyItem (fun item => item.equal .null) stored) := by
  simp only [equal_null]
  rfl

/-- Comparing with a value that is no regular expression tells whether the values agree. -/
theorem decides_equals (hregex : ∀ pattern options, target ≠ .regex pattern options)
    (stored : Option Value) : Decides (equals stored target) (Agrees stored target) := by
  by_cases hnull : target = .null
  · subst hnull
    rw [equals_null]
    refine decides_ok ?_
    rw [Agrees, exists_reached, Bool.or_eq_true]
    cases stored with
    | none => simp [isNull]
    | some v => simp [equal_null]
  · cases stored with
    | none =>
      rw [equals_none hnull hregex]
      refine decides_ok ?_
      simp [Agrees, reached, hnull]
    | some v =>
      rw [equals_some hnull hregex]
      refine decides_ok ?_
      rw [Agrees, exists_reached, Bool.or_eq_true]
      simp

end Equality

/-! ## Patterns and order -/

theorem patternFound_iff {pattern : Pattern} {stored : Option Value} :
    patternFound pattern stored = true ↔ Found pattern stored := by
  cases stored with
  | none => simp [patternFound, Found, anyItem, reached]
  | some v =>
    cases v with
    | array items =>
      rw [patternFound, Found, anyItem, List.any_eq_true]
      · constructor
        · rintro ⟨item, hitem, hfound⟩
          cases item with
          | string s => exact ⟨s, List.mem_cons_of_mem _ hitem, hfound⟩
          | _ => cases hfound
        · rintro ⟨s, hs, hfound⟩
          rcases List.mem_cons.mp hs with he | hitem
          · cases he
          · exact ⟨.string s, hitem, hfound⟩
      · exact fun s he => by cases he
    | string s => simp [patternFound, Found, reached]
    | _ => simp [patternFound, Found, reached, anyItem]

/-- Searching for a regular expression that can be read tells whether it is found. -/
theorem decides_equals_regex {pattern options : String} {compiled : Pattern}
    (h : Pattern.read (.ofLetters options) pattern = some compiled) (stored : Option Value) :
    Decides (equals stored (.regex pattern options)) (Found compiled stored) := by
  have hequals : equals stored (.regex pattern options) = .ok (patternFound compiled stored) := by
    simp only [equals, h]
  rw [hequals]
  exact decides_ok patternFound_iff

/-- Comparing fails only for a regular expression that cannot be read. -/
theorem error_of_equals {stored : Option Value} {target : Value} {e : StoreError}
    (h : equals stored target = .error e) : ∃ pattern, e = .invalidPattern pattern := by
  cases target with
  | regex pattern options =>
    rw [equals] at h
    split at h
    · cases h
    · cases h
      exact ⟨pattern, rfl⟩
  | null => cases h
  | _ => cases stored <;> cases h

theorem compareWithinKind_array (items : List Value) (argument : Value) :
    (Value.array items).compareWithinKind argument = none := by
  cases argument <;> rfl

theorem compares_iff {stored : Option Value} {argument : Value} (accept : Ordering → Bool)
    {orders : List Ordering} (h : ∀ o, accept o = true ↔ o ∈ orders) :
    compares stored argument accept = true ↔ StandsTo stored orders argument := by
  have htest : ∀ v : Value, (v.compareWithinKind argument).elim false accept = true ↔
      ∃ o ∈ orders, v.compareWithinKind argument = some o := by
    intro v
    cases v.compareWithinKind argument with
    | none => simp
    | some o => simp [h]
  cases stored with
  | none => simp [compares, StandsTo, reached]
  | some v =>
    cases v with
    | array items =>
      rw [compares, StandsTo, reached]
      · simp only [List.any_eq_true, htest, List.mem_cons, exists_eq_or_imp,
          compareWithinKind_array, reduceCtorEq, and_false, exists_false, false_or]
    | _ => simp only [compares, StandsTo, reached, List.mem_singleton, exists_eq_left, htest]

/-! ## Candidates, operators and queries -/

theorem decides_equalsAny {stored : Option Value} {candidates : List Value} {fact : Value → Prop}
    (h : ∀ c ∈ candidates, Decides (equals stored c) (fact c)) :
    Decides (equalsAny stored candidates) (∃ c ∈ candidates, fact c) := by
  induction candidates with
  | nil => exact decides_ok (by simp)
  | cons c rest ih =>
    have hrest := ih fun d hd => h d (List.mem_cons_of_mem _ hd)
    have hboth := (h c List.mem_cons_self).or hrest
    rw [equalsAny]
    exact hboth.congr (List.exists_mem_cons_iff _ _ _).symm

theorem error_of_equalsAny {stored : Option Value} {candidates : List Value} {e : StoreError}
    (h : equalsAny stored candidates = .error e) :
    ∃ c ∈ candidates, equals stored c = .error e := by
  induction candidates with
  | nil => cases h
  | cons c rest ih =>
    rw [equalsAny] at h
    cases hc : equals stored c with
    | error e' =>
      rw [hc] at h
      cases h
      exact ⟨c, List.mem_cons_self, hc⟩
    | ok b =>
      rw [hc] at h
      cases b with
      | true => cases h
      | false =>
        obtain ⟨d, hd, he⟩ := ih h
        exact ⟨d, List.mem_cons_of_mem _ hd, he⟩

theorem decides_satisfiesAll {stored : Option Value} {operators : Document}
    {fact : String × Value → Prop}
    (h : ∀ c ∈ operators, Decides (satisfiesOperator stored c.1 c.2) (fact c)) :
    Decides (satisfiesAll stored operators) (∀ c ∈ operators, fact c) := by
  induction operators with
  | nil => exact decides_ok (by simp)
  | cons c rest ih =>
    have hrest := ih fun d hd => h d (List.mem_cons_of_mem _ hd)
    have hboth := (h c List.mem_cons_self).and hrest
    rw [satisfiesAll]
    exact hboth.congr List.forall_mem_cons.symm

theorem error_of_satisfiesAll {stored : Option Value} {operators : Document} {e : StoreError}
    (h : satisfiesAll stored operators = .error e) :
    ∃ c ∈ operators, satisfiesOperator stored c.1 c.2 = .error e := by
  induction operators with
  | nil => cases h
  | cons c rest ih =>
    rw [satisfiesAll] at h
    cases hc : satisfiesOperator stored c.1 c.2 with
    | error e' =>
      rw [hc] at h
      cases h
      exact ⟨c, List.mem_cons_self, hc⟩
    | ok b =>
      rw [hc] at h
      cases b with
      | false => cases h
      | true =>
        obtain ⟨d, hd, he⟩ := ih h
        exact ⟨d, List.mem_cons_of_mem _ hd, he⟩

/-- A query is the conjunction of its conditions. -/
theorem decides_selects {doc query : Document} {fact : String × Value → Prop}
    (h : ∀ c ∈ query, Decides (satisfies (Path.lookup doc c.1) c.2) (fact c)) :
    Decides (selects doc query) (∀ c ∈ query, fact c) := by
  induction query with
  | nil => exact decides_ok (by simp)
  | cons c rest ih =>
    have hrest := ih fun d hd => h d (List.mem_cons_of_mem _ hd)
    have hboth := (h c List.mem_cons_self).and hrest
    rw [selects]
    exact hboth.congr List.forall_mem_cons.symm

theorem error_of_selects {doc query : Document} {e : StoreError}
    (h : selects doc query = .error e) :
    ∃ c ∈ query, satisfies (Path.lookup doc c.1) c.2 = .error e := by
  induction query with
  | nil => cases h
  | cons c rest ih =>
    rw [selects] at h
    cases hc : satisfies (Path.lookup doc c.1) c.2 with
    | error e' =>
      rw [hc] at h
      cases h
      exact ⟨c, List.mem_cons_self, hc⟩
    | ok b =>
      rw [hc] at h
      cases b with
      | false => cases h
      | true =>
        obtain ⟨d, hd, he⟩ := ih h
        exact ⟨d, List.mem_cons_of_mem _ hd, he⟩

theorem satisfies_plain {condition : Value} (h : isOperators condition = false)
    (stored : Option Value) : satisfies stored condition = equals stored condition := by
  rw [satisfies, h, if_neg Bool.false_ne_true]

theorem satisfies_operators {operators : Document} (h : isOperators (.document operators) = true)
    (stored : Option Value) :
    satisfies stored (.document operators) = satisfiesAll stored operators := by
  rw [satisfies, if_pos h]
  rfl

/-- A condition of one operator asks for this operator. -/
theorem satisfies_single {operator : String} (h : operator.startsWith "$" = true)
    (stored : Option Value) (argument : Value) :
    satisfies stored (.document [(operator, argument)]) =
      satisfiesOperator stored operator argument := by
  have hoperators : isOperators (.document [(operator, argument)]) = true := by
    rw [isOperators, List.all_cons, h]
    rfl
  rw [satisfies_operators hoperators, satisfiesAll]
  cases satisfiesOperator stored operator argument with
  | error e => rfl
  | ok b => cases b <;> rfl

theorem selects_singleton (doc : Document) (condition : String × Value) :
    selects doc [condition] = satisfies (Path.lookup doc condition.1) condition.2 := by
  obtain ⟨path, value⟩ := condition
  rw [selects]
  cases satisfies (Path.lookup doc path) value with
  | error e => rfl
  | ok b => cases b <;> rfl

/-- A query of one operator asks for this operator at its path. -/
theorem selects_single {operator : String} (h : operator.startsWith "$" = true) (doc : Document)
    (path : String) (argument : Value) :
    selects doc [(path, .document [(operator, argument)])] =
      satisfiesOperator (Path.lookup doc path) operator argument := by
  rw [selects_singleton, satisfies_single h]

theorem satisfies_in (stored : Option Value) (candidates : Value) :
    satisfies stored (.document [("$in", candidates)]) = within stored candidates :=
  satisfies_single (String.startsWith_string_iff.mpr (by decide)) stored candidates

/-- A list of candidates fails only for a regular expression that cannot be read. -/
theorem error_of_within {stored : Option Value} {items : List Value} {e : StoreError}
    (h : within stored (.array items) = .error e) : ∃ pattern, e = .invalidPattern pattern := by
  obtain ⟨candidate, -, hequals⟩ := error_of_equalsAny h
  exact error_of_equals hequals

end ClassApi.Query
