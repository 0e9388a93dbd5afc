import ClassApi.Proofs.FilterCondition

/-!
# What filters ask for

Filters are a filter for each of some fields, and a document passes them when it passes each one.
They are turned into a query with one condition for each filter that has any. The query is built
member by member; since no field has two filters, no condition takes the place of another, and this
is what the induction carries.
-/

namespace ClassApi

namespace Listing

open Query RegexLiteral

/-- Whether filters fit a class: each one that is an object is for a field and fits it, and no field
has two. -/
structure FiltersFit (c : ClassInfo) (filters : Fields Datum) : Prop where
  /-- No field has two filters. -/
  distinct : (Fields.names filters).Nodup
  /-- A filter is for a field and fits it. -/
  known : ∀ name filter, (name, .object filter) ∈ filters →
    ∃ f, c.field? name = some f ∧ FilterFits f filter

/-- Whether the pattern of every regular expression in filters can be read. -/
def PatternsRead (filters : Fields Datum) : Prop :=
  ∀ name filter, (name, .object filter) ∈ filters →
    ∀ literal, given? filter "regexp" = some (.string literal) → LiteralReads literal

/-- Whether a document passes filters: for each filter that is an object, membership holds and every
bound is kept. -/
def Passes (c : ClassInfo) (filters : Fields Datum) (doc : Document) : Prop :=
  ∀ name filter f, (name, .object filter) ∈ filters → c.field? name = some f →
    Membership f filter (Path.lookup doc ("data." ++ name)) ∧
    Bounded f filter (Path.lookup doc ("data." ++ name))

/-- What filters ask of a path: the conditions of the filter for it, unless there are none. -/
def Asks (c : ClassInfo) (filters : Fields Datum) (entry : String × Value) : Prop :=
  ∃ name filter f condition, (name, .object filter) ∈ filters ∧ c.field? name = some f ∧
    fieldCondition c f filter = .ok condition ∧ condition ≠ [] ∧
    entry = ("data." ++ name, .document condition)

section Query

variable {c : ClassInfo} {filters : Fields Datum}

theorem FiltersFit.tail {head : String × Datum} (h : FiltersFit c (head :: filters)) :
    FiltersFit c filters where
  distinct := (List.nodup_cons.mp h.distinct).2
  known := fun name filter hmem => h.known name filter (List.mem_cons_of_mem _ hmem)

theorem asks_cons {head : String × Datum} {entry : String × Value} :
    Asks c (head :: filters) entry ↔ Asks c [head] entry ∨ Asks c filters entry := by
  constructor
  · rintro ⟨name, filter, f, condition, hmem, hrest⟩
    rcases List.mem_cons.mp hmem with he | hmem
    · exact Or.inl ⟨name, filter, f, condition, List.mem_singleton.mpr he, hrest⟩
    · exact Or.inr ⟨name, filter, f, condition, hmem, hrest⟩
  · rintro (⟨name, filter, f, condition, hmem, hrest⟩ | ⟨name, filter, f, condition, hmem, hrest⟩)
    · exact ⟨name, filter, f, condition,
        List.mem_cons.mpr (Or.inl (List.mem_singleton.mp hmem)), hrest⟩
    · exact ⟨name, filter, f, condition, List.mem_cons_of_mem _ hmem, hrest⟩

section Head

variable {name : String} {filter : Fields Datum} {f : ClassField} {condition : Document}

/-- One filter asks for its conditions, if it has any. -/
theorem asks_filter (hf : c.field? name = some f)
    (hcondition : fieldCondition c f filter = .ok condition) {entry : String × Value} :
    Asks c [(name, .object filter)] entry ↔
      condition ≠ [] ∧ entry = ("data." ++ name, .document condition) := by
  constructor
  · rintro ⟨name', filter', f', condition', hmem, hf', hcondition', hne, rfl⟩
    cases List.mem_singleton.mp hmem
    rw [hf] at hf'
    cases hf'
    rw [hcondition] at hcondition'
    cases hcondition'
    exact ⟨hne, rfl⟩
  · rintro ⟨hne, rfl⟩
    exact ⟨name, filter, f, condition, List.mem_singleton_self _, hf, hcondition, hne, rfl⟩

/-- A filter for a field of which nothing is asked yet adds its conditions at the end. -/
theorem addFilters_filter (hf : c.field? name = some f)
    (hcondition : fieldCondition c f filter = .ok condition) {query : Document}
    (hnew : "data." ++ name ∉ Fields.names query) (rest : Fields Datum) :
    addFilters c query ((name, .object filter) :: rest) =
      addFilters c (if condition.isEmpty then query else query ++
        [("data." ++ name, .document condition)]) rest := by
  have hinsert := Fields.insert_eq_append (.document condition) hnew
  rw [addFilters]
  simp only [hf, hcondition]
  rw [(Mutation.name_of_field? hf).1, hinsert]

/-- A member that is no filter asks for nothing and is passed over. -/
theorem addFilters_skip {value : Datum} (h : ∀ filter, value ≠ .object filter) (query : Document)
    (rest : Fields Datum) :
    addFilters c query ((name, value) :: rest) = addFilters c query rest ∧
      ∀ entry, ¬ Asks c [(name, value)] entry := by
  constructor
  · cases value with
    | object filter => exact absurd rfl (h filter)
    | _ => rfl
  · rintro entry ⟨name', filter, f, condition, hmem, -⟩
    cases List.mem_singleton.mp hmem
    exact h filter rfl

end Head

/-- Filters that fit are turned into a query that asks for their conditions, next to what is asked
already. -/
theorem exists_addFilters (h : FiltersFit c filters) (query : Document)
    (hnew : ∀ name ∈ Fields.names filters, "data." ++ name ∉ Fields.names query) :
    ∃ result, addFilters c query filters = .ok result ∧ ∀ entry, entry ∈ result ↔
      entry ∈ query ∨ Asks c filters entry := by
  induction filters generalizing query with
  | nil => exact ⟨query, rfl, fun entry => by simp [Asks]⟩
  | cons head rest ih =>
    obtain ⟨name, value⟩ := head
    have hrest : ∀ other ∈ Fields.names rest, "data." ++ other ∉ Fields.names query :=
      fun other hother => hnew other (List.mem_cons_of_mem _ hother)
    by_cases hobject : ∃ filter, value = .object filter
    · obtain ⟨filter, rfl⟩ := hobject
      obtain ⟨f, hf, hfits⟩ := h.known name filter List.mem_cons_self
      obtain ⟨condition, hcondition, -⟩ := exists_fieldCondition c hfits
      rw [addFilters_filter hf hcondition (hnew name List.mem_cons_self)]
      -- A filter that says nothing leaves the query as it is.
      by_cases hempty : condition = []
      · obtain ⟨result, hresult, hmem⟩ := ih h.tail query hrest
        refine ⟨result, by simpa [hempty] using hresult, fun entry => ?_⟩
        rw [hmem, asks_cons, asks_filter hf hcondition]
        simp [hempty]
      · have hlater : ∀ other ∈ Fields.names rest,
            "data." ++ other ∉ Fields.names (query ++
                [("data." ++ name, .document condition)]) := by
          intro other hother hin
          have hne : other ≠ name := by
            rintro rfl
            exact (List.nodup_cons.mp h.distinct).1 hother
          rw [Fields.names, List.map_append, List.mem_append] at hin
          rcases hin with hin | hin
          · exact hrest other hother hin
          · exact hne (Path.data_injective (List.mem_singleton.mp hin))
        obtain ⟨result, hresult, hmem⟩ := ih h.tail _ hlater
        refine ⟨result, by simpa [hempty] using hresult, fun entry => ?_⟩
        rw [hmem, asks_cons, asks_filter hf hcondition, List.mem_append, List.mem_singleton]
        simp [hempty, or_assoc]
    · obtain ⟨hskip, hnothing⟩ := addFilters_skip (not_exists.mp hobject) query rest
      rw [hskip]
      obtain ⟨result, hresult, hmem⟩ := ih h.tail query hrest
      refine ⟨result, hresult, fun entry => ?_⟩
      rw [hmem, asks_cons, or_iff_right (hnothing entry)]

/-- What is asked of a path is the conditions of a filter that fits the field. -/
theorem Asks.conditions (h : FiltersFit c filters) {path : String} {condition : Value}
    (hasks : Asks c filters (path, condition)) :
    ∃ name filter f entries, (name, .object filter) ∈ filters ∧ c.field? name = some f ∧
      FilterFits f filter ∧
      path = "data." ++ name ∧ condition = .document entries ∧ isOperators condition = true ∧
      ∀ entry, entry ∈ entries ↔ ConditionOf f filter entry := by
  obtain ⟨name, filter, f, entries, hmem, hf, hcondition, hne, he⟩ := hasks
  cases he
  obtain ⟨f', hf', hfits⟩ := h.known name filter hmem
  rw [hf] at hf'
  cases hf'
  obtain ⟨entries', hentries', hspec⟩ := exists_fieldCondition c hfits
  rw [hcondition] at hentries'
  cases hentries'
  exact ⟨name, filter, f, entries, hmem, hf, hfits, rfl, rfl,
    isOperators_conditions (fun entry hentry => (hspec entry).mp hentry) hne, hspec⟩

/-- Filters that fit a class turn into a query of what they ask for. -/
theorem exists_filtersToQuery (h : FiltersFit c filters) :
    ∃ query, filtersToQuery c (some (.object filters)) = .ok query ∧
      ∀ entry, entry ∈ query ↔ Asks c filters entry := by
  obtain ⟨query, hquery, hmem⟩ := exists_addFilters h [] fun _ _ hin => List.not_mem_nil hin
  exact ⟨query, hquery, fun entry => by simpa using hmem entry⟩

/-- What filters ask for fails to evaluate only for a regular expression that cannot be read. -/
theorem error_of_asked (h : FiltersFit c filters) {query : Document}
    (hmem : ∀ entry ∈ query, Asks c filters entry) {doc : Document} {e : StoreError}
    (he : selects doc query = .error e) : ∃ pattern, e = .invalidPattern pattern := by
  obtain ⟨⟨path, condition⟩, hentry, hfails⟩ := error_of_selects he
  obtain ⟨name, filter, f, entries, -, -, -, rfl, rfl, hoperators, hspec⟩ :=
    (hmem _ hentry).conditions h
  rw [satisfies_operators hoperators] at hfails
  exact error_of_conditions (fun entry hentry => (hspec entry).mp hentry) hfails

/-- What filters ask for is found in a document exactly when it passes them. -/
theorem decides_filters (h : FiltersFit c filters) (hread : PatternsRead filters) {query : Document}
    (hmem : ∀ entry, entry ∈ query ↔ Asks c filters entry) (doc : Document) :
    Decides (selects doc query) (Passes c filters doc) := by
  have hall : Decides (selects doc query)
      (∀ entry ∈ query, satisfies (Path.lookup doc entry.1) entry.2 = .ok true) := by
    refine decides_selects fun ⟨path, condition⟩ hentry => ?_
    obtain ⟨name, filter, f, entries, hfilter, -, hfits, rfl, rfl, hoperators, hspec⟩ :=
      ((hmem _).mp hentry).conditions h
    rw [satisfies_operators hoperators]
    exact (decides_conditions hfits (hread name filter hfilter) hspec _).self
  refine hall.congr ⟨fun hentries name filter f hfilter hf => ?_,
    fun hpasses ⟨path, condition⟩ hentry => ?_⟩
  · obtain ⟨f', hf', hfits⟩ := h.known name filter hfilter
    rw [hf] at hf'
    cases hf'
    obtain ⟨condition, hcondition, hspec⟩ := exists_fieldCondition c hfits
    have hdecides :=
      decides_conditions hfits (hread name filter hfilter) hspec (Path.lookup doc ("data." ++ name))
    -- A filter without conditions leaves no trace in the query; then there is nothing to pass.
    by_cases hempty : condition = []
    · subst hempty
      exact hdecides.iff.mp rfl
    · have hentry : ("data." ++ name, Value.document condition) ∈ query :=
        (hmem _).mpr ⟨name, filter, f, condition, hfilter, hf, hcondition, hempty, rfl⟩
      have hoperators := isOperators_conditions (fun entry hentry => (hspec entry).mp hentry) hempty
      have hholds := hentries _ hentry
      rw [satisfies_operators hoperators] at hholds
      exact hdecides.iff.mp hholds
  · obtain ⟨name, filter, f, entries, hfilter, hf, hfits, rfl, rfl, hoperators, hspec⟩ :=
      ((hmem _).mp hentry).conditions h
    rw [satisfies_operators hoperators]
    exact (decides_conditions hfits (hread name filter hfilter) hspec _).iff.mpr
      (hpasses name filter f hfilter hf)

/-- Filters that fit a class turn into a query whose evaluation never meets an unknown operator.
When all patterns can be read it does not fail, and a document is found by it exactly when it passes
the filters. -/
theorem selects_filters (h : FiltersFit c filters) :
    ∃ query, filtersToQuery c (some (.object filters)) = .ok query ∧
      (∀ doc operator, selects doc query ≠ .error (.unsupportedOperator operator)) ∧
      (PatternsRead filters → ∀ doc, Decides (selects doc query) (Passes c filters doc)) := by
  obtain ⟨query, hquery, hmem⟩ := exists_filtersToQuery h
  refine ⟨query, hquery, fun doc operator hselects => ?_, fun hread doc =>
    decides_filters h hread hmem doc⟩
  obtain ⟨pattern, hpattern⟩ :=
    error_of_asked h (fun entry hentry => (hmem entry).mp hentry) hselects
  cases hpattern

end Query

end Listing

namespace Sample

/-- A class with a text, a truth value, a number and a reference. -/
def member : ClassInfo where
  name := "Member"
  plural := none
  fields := [⟨"name", .scalar .string, false, none⟩, ⟨"vip", .scalar .boolean, false, none⟩,
    ⟨"age", .scalar .int, false, none⟩, ⟨"friend", .relation "Member", false, none⟩]

/-- Filters for every field of the class; some operators are not given, and some are given in vain.
The friend is asked for by a global id. -/
def memberFilters : Fields Datum :=
  [("name", .object [("eq", .string "b"), ("regexp", .string "/^a/i")]),
    ("vip", .object [("eq", .bool false)]),
    ("age", .object [("in", .null), ("gte", .int 18), ("lt", .int 42)]),
    ("friend", .object [("in", .list [.string "TWVtYmVyOjAwMDAwMDAwMDAwMDAwMDAwMDAwMDAwMQ=="])])]

/-- A member of an age who has a friend. -/
def memberOf (age : Int) (friend : ObjectId) : Document :=
  [("data", .document [("name", .string "Ann"), ("age", .int32 age), ("friend", .objectId friend)])]

end Sample

namespace Listing

open Query RegexLiteral

theorem hasForm_memberPattern : HasForm "/^a/i" "^a" "i" := by
  have hletter : (isAlphanumeric 'i' || 'i' == '_') = true := by decide +kernel
  exact ⟨by decide, fun c hc => by rw [List.mem_singleton.mp hc]; exact hletter⟩

/-- What the filters give: a list to look in, the pattern, and single values otherwise. -/
theorem given_memberFilters {name operator : String} {filter : Fields Datum} {value : Datum}
    (hfilter : (name, .object filter) ∈ Sample.memberFilters)
    (hgiven : given? filter operator = some value) :
    (operator = "in" → ∃ items, value = .list items) ∧ (operator ≠ "in" → value.IsScalar) ∧
    (operator = "regexp" → value = .string "/^a/i") := by
  obtain ⟨hget, hnull⟩ := given?_eq_some.mp hgiven
  have hmem := Fields.mem_of_get? hget
  simp only [Sample.memberFilters, List.mem_cons, Prod.mk.injEq, Datum.object.injEq,
    List.not_mem_nil, or_false] at hfilter
  rcases hfilter with ⟨-, rfl⟩ | ⟨-, rfl⟩ | ⟨-, rfl⟩ | ⟨-, rfl⟩ <;>
    simp only [List.mem_cons, Prod.mk.injEq, List.not_mem_nil, or_false] at hmem
  · rcases hmem with ⟨rfl, rfl⟩ | ⟨rfl, rfl⟩ <;> simp [Datum.IsScalar]
  · obtain ⟨rfl, rfl⟩ := hmem
    simp [Datum.IsScalar]
  · rcases hmem with ⟨rfl, rfl⟩ | ⟨rfl, rfl⟩ | ⟨rfl, rfl⟩
    · cases hnull
    · simp [Datum.IsScalar, Datum.int]
    · simp [Datum.IsScalar, Datum.int]
  · obtain ⟨rfl, rfl⟩ := hmem
    simp

theorem filtersFit_memberFilters : FiltersFit Sample.member Sample.memberFilters := by
  have hknown : ∀ entry ∈ Sample.memberFilters, ∀ filter, entry.2 = .object filter →
      ∃ f, Sample.member.field? entry.1 = some f ∧ (Fields.names filter).Nodup ∧
        ∀ operator ∈ Fields.names filter, operator ∈ f.scalar.filterOperators := by
    simp only [Sample.memberFilters, List.forall_mem_cons, Datum.object.injEq, forall_eq']
    exact ⟨⟨_, rfl, by decide, by decide⟩, ⟨_, rfl, by decide, by decide⟩,
      ⟨_, rfl, by decide, by decide⟩, ⟨_, rfl, by decide, by decide⟩,
      fun _ h => absurd h List.not_mem_nil⟩
  refine ⟨by decide, fun name filter hfilter => ?_⟩
  obtain ⟨f, hf, hdistinct, hoperators⟩ := hknown _ hfilter filter rfl
  exact ⟨f, hf, hdistinct, hoperators,
    fun value hgiven => (given_memberFilters hfilter hgiven).1 rfl,
    fun operator value hne hgiven => (given_memberFilters hfilter hgiven).2.1 hne,
    fun value hgiven =>
      ⟨_, _, _, (given_memberFilters hfilter hgiven).2.2 rfl, hasForm_memberPattern⟩⟩

theorem patternsRead_memberFilters : PatternsRead Sample.memberFilters := by
  intro name filter hfilter literal hgiven pattern flags form
  have hliteral := (given_memberFilters hfilter hgiven).2.2 rfl
  cases hliteral
  obtain ⟨rfl, rfl⟩ := hasForm_memberPattern.unique form
  exact Option.isSome_iff_exists.mp (by decide +kernel)

/-- Filters for a class with fields of several kinds fit it, and their pattern can be read. Of three
members one passes them; the others are too old or have another friend. -/
theorem selects_filters_member :
    FiltersFit Sample.member Sample.memberFilters ∧ PatternsRead Sample.memberFilters ∧
      ∃ query, filtersToQuery Sample.member (some (.object Sample.memberFilters)) = .ok query ∧
        (∀ doc operator, selects doc query ≠ .error (.unsupportedOperator operator)) ∧
        (∀ doc, Decides (selects doc query) (Passes Sample.member Sample.memberFilters doc)) ∧
        selects (Sample.memberOf 18 (.ofCounter 0 1)) query = .ok true ∧
        selects (Sample.memberOf 42 (.ofCounter 0 1)) query = .ok false ∧
        selects (Sample.memberOf 18 (.ofCounter 0 2)) query = .ok false := by
  obtain ⟨query, hquery, hoperators, hdecides⟩ := selects_filters filtersFit_memberFilters
  have hvalues : (filtersToQuery Sample.member (some (.object Sample.memberFilters))).toOption.map
      (fun query =>
        [selects (Sample.memberOf 18 (.ofCounter 0 1)) query,
          selects (Sample.memberOf 42 (.ofCounter 0 1)) query,
          selects (Sample.memberOf 18 (.ofCounter 0 2)) query]) =
      some [.ok true, .ok false, .ok false] := by
    decide +kernel
  rw [hquery] at hvalues
  simp only [Except.toOption, Option.map_some, Option.some.injEq, List.cons.injEq,
    and_true] at hvalues
  obtain ⟨hpasses, hold, hother⟩ := hvalues
  exact ⟨filtersFit_memberFilters, patternsRead_memberFilters, query, hquery, hoperators,
    hdecides patternsRead_memberFilters, hpasses, hold, hother⟩

end Listing

end ClassApi
