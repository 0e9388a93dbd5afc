import ClassApi.Proofs.Filters
import ClassApi.Proofs.Listing

/-!
# The order of conditions

A query is a conjunction, and its conditions with operators are conjunctions too. Evaluation stops
at the first part that does not hold or fails. So a query is as good as the list of its parts, plain
conditions and single operators, and its result is the result of the first part that does not hold.
When some part does not hold of a document and another part fails on it, their order decides which
of the two is met; otherwise no order does.
-/

namespace ClassApi

/-- Whether two results are the same value, or both failures. -/
def SameOutcome {ε α : Type} (x y : Except ε α) : Prop :=
  ∀ a, x = .ok a ↔ y = .ok a

namespace SameOutcome

variable {ε α β : Type} {x y : Except ε α}

theorem refl (x : Except ε α) : SameOutcome x x := fun _ => Iff.rfl

theorem bind {f g : α → Except ε β} (h : SameOutcome x y) (hfg : ∀ a, SameOutcome (f a) (g a)) :
    SameOutcome (x >>= f) (y >>= g) := by
  intro b
  constructor
  · intro hb
    obtain ⟨a, ha, hb⟩ := bind_eq_ok hb
    rw [(h a).mp ha]
    exact (hfg a b).mp hb
  · intro hb
    obtain ⟨a, ha, hb⟩ := bind_eq_ok hb
    rw [(h a).mpr ha]
    exact (hfg a b).mpr hb

theorem of_errors (e e' : ε) : SameOutcome (.error e : Except ε α) (.error e') := fun _ =>
  ⟨fun h => (by cases h), fun h => (by cases h)⟩

theorem ofStore {x y : Except StoreError α} (h : SameOutcome x y) :
    SameOutcome (ofStore x) (ofStore y) := by
  intro a
  constructor
  · intro ha
    rw [(h a).mp (ofStore_eq_ok ha)]
    rfl
  · intro ha
    rw [(h a).mpr (ofStore_eq_ok ha)]
    rfl

end SameOutcome

namespace Query

/-! ## Parts -/

/-- A condition as single conditions: one for every operator, or the condition itself. -/
def conditionParts (condition : String × Value) : Document :=
  if isOperators condition.2 then
    ((condition.2.asDocument?).getD []).map fun operator => (condition.1, .document [operator])
  else [condition]

/-- The parts of a query: its plain conditions and the single operators of the others. -/
def parts (query : Document) : Document :=
  query.flatMap conditionParts

section Parts

variable {doc query : Document} {path : String}

theorem exists_of_isOperators {condition : Value} (h : isOperators condition = true) :
    ∃ operators, condition = .document operators ∧
      ∀ operator ∈ operators, operator.1.startsWith "$" = true := by
  cases condition with
  | document operators =>
    rw [isOperators, Bool.and_eq_true, List.all_eq_true] at h
    exact ⟨operators, rfl, h.2⟩
  | _ => cases h

theorem conditionParts_operators {operators : Document}
    (h : isOperators (.document operators) = true) :
    conditionParts (path, .document operators) = operators.map fun operator =>
      (path, .document [operator]) :=
  if_pos h

theorem conditionParts_plain {condition : String × Value} (h : isOperators condition.2 = false) :
    conditionParts condition = [condition] := by
  rw [conditionParts, h, if_neg Bool.false_ne_true]

/-- Operators that are asked one by one are asked together. -/
theorem selects_operators {operators : Document}
    (h : ∀ operator ∈ operators, operator.1.startsWith "$" = true) :
    selects doc (operators.map fun operator => (path, .document [operator])) =
      satisfiesAll (Path.lookup doc path) operators := by
  induction operators with
  | nil => rfl
  | cons operator rest ih =>
    obtain ⟨hoperator, hrest⟩ := List.forall_mem_cons.mp h
    obtain ⟨name, argument⟩ := operator
    rw [List.map_cons, selects, satisfies_single hoperator, satisfiesAll, ih hrest]

theorem selects_conditionParts (condition : String × Value) :
    selects doc (conditionParts condition) = selects doc [condition] := by
  obtain ⟨path, value⟩ := condition
  cases h : isOperators value with
  | false => rw [conditionParts_plain h]
  | true =>
    obtain ⟨operators, rfl, hall⟩ := exists_of_isOperators h
    rw [conditionParts_operators h, selects_operators hall, selects_singleton,
      satisfies_operators h]

/-- A query asks for its parts, one after the other. -/
theorem selects_parts (doc query : Document) : selects doc (parts query) = selects doc query := by
  induction query with
  | nil => rfl
  | cons condition rest ih =>
    have hcons : condition :: rest = [condition] ++ rest := rfl
    rw [hcons, parts, List.flatMap_append, Store.selects_append, Store.selects_append,
      List.flatMap_singleton, selects_conditionParts]
    rw [parts] at ih
    rw [ih]

end Parts

/-! ## Rearrangements -/

/-- Whether two conditions ask the same of a path, with operators in any order. -/
inductive SameCondition : String × Value → String × Value → Prop
  | refl (condition : String × Value) : SameCondition condition condition
  | operators {path : String} {operators others : Document}
      (isOperators : isOperators (.document operators) = true) (perm : operators.Perm others) :
      SameCondition (path, .document operators) (path, .document others)

/-- Whether a query is another one with its conditions, and the operators inside each condition, in
another order. -/
def Rearranged (query other : Document) : Prop :=
  ∃ between, query.Perm between ∧ List.Forall₂ SameCondition between other

/-- Whether one of some conditions does not hold of a document and another one fails on it. -/
def Clash (doc conditions : Document) : Prop :=
  (∃ c ∈ conditions, satisfies (Path.lookup doc c.1) c.2 = .ok false) ∧
    ∃ c ∈ conditions, ∃ e, satisfies (Path.lookup doc c.1) c.2 = .error e

/-- Whether a query has a part that does not hold of a document and a part that fails on it. -/
def Contested (doc query : Document) : Prop :=
  Clash doc (parts query)

section Rearranged

variable {doc query other : Document}

theorem isOperators_perm {operators others : Document}
    (h : isOperators (.document operators) = true) (hperm : operators.Perm others) :
    isOperators (.document others) = true := by
  rw [isOperators, Bool.and_eq_true, Bool.not_eq_true'] at h ⊢
  rw [← hperm.isEmpty_eq, ← hperm.all_eq]
  exact h

theorem SameCondition.perm_parts {condition changed : String × Value}
    (h : SameCondition condition changed) :
    (conditionParts condition).Perm (conditionParts changed) := by
  cases h with
  | refl => exact List.Perm.refl _
  | @operators path operators others hoperators hperm =>
    rw [conditionParts_operators hoperators,
      conditionParts_operators (isOperators_perm hoperators hperm)]
    exact hperm.map _

/-- A rearranged query has the same parts in another order. -/
theorem Rearranged.perm_parts (h : Rearranged query other) : (parts query).Perm (parts other) := by
  obtain ⟨between, hperm, hsame⟩ := h
  refine (hperm.flatMap_right _).trans ?_
  clear hperm
  induction hsame with
  | nil => exact List.Perm.refl _
  | cons hhead _ ih =>
    rw [parts, List.flatMap_cons, List.flatMap_cons]
    exact hhead.perm_parts.append ih

/-- Any part of a query is the first one of some rearrangement. -/
theorem exists_rearranged_first {part : String × Value} (h : part ∈ parts query) :
    ∃ other rest, Rearranged query other ∧ parts other = part :: rest := by
  obtain ⟨condition, hcondition, hpart⟩ := List.mem_flatMap.mp h
  obtain ⟨front, back, rfl⟩ := List.append_of_mem hcondition
  obtain ⟨path, value⟩ := condition
  cases hoperators : isOperators value with
  | false =>
    rw [conditionParts_plain hoperators, List.mem_singleton] at hpart
    subst hpart
    refine ⟨(path, value) :: (front ++ back), parts (front ++ back), ⟨_, List.perm_middle, ?_⟩, ?_⟩
    · exact List.forall₂_same.mpr fun c _ => .refl c
    · rw [parts, List.flatMap_cons, conditionParts_plain hoperators]
      rfl
  | true =>
    obtain ⟨operators, rfl, -⟩ := exists_of_isOperators hoperators
    rw [conditionParts_operators hoperators, List.mem_map] at hpart
    obtain ⟨operator, hoperator, rfl⟩ := hpart
    obtain ⟨before, after, rfl⟩ := List.append_of_mem hoperator
    have hperm : (before ++ operator :: after).Perm (operator :: (before ++ after)) :=
      List.perm_middle
    refine ⟨(path, .document (operator :: (before ++ after))) :: (front ++ back),
      (before ++ after).map (fun operator => (path, .document [operator])) ++ parts (front ++ back),
      ⟨_, List.perm_middle, ?_⟩, ?_⟩
    · exact .cons (.operators hoperators hperm) (List.forall₂_same.mpr fun c _ => .refl c)
    · rw [parts, List.flatMap_cons, conditionParts_operators (isOperators_perm hoperators hperm)]
      rfl

/-! ## Results -/

theorem selects_eq_true_iff :
    selects doc query = .ok true ↔ ∀ c ∈ query, satisfies (Path.lookup doc c.1) c.2 = .ok true := by
  constructor
  · exact fun h c hc => Store.satisfies_of_selects h hc
  · intro h
    have hdecides : Decides (selects doc query) (∀ c ∈ query, True) :=
      decides_selects fun c hc => ⟨true, h c hc, by simp⟩
    exact hdecides.iff.mpr fun _ _ => trivial

/-- When a query does not hold of a document, one of its conditions does not. -/
theorem false_of_selects (h : selects doc query = .ok false) :
    ∃ c ∈ query, satisfies (Path.lookup doc c.1) c.2 = .ok false := by
  induction query with
  | nil => cases h
  | cons c rest ih =>
    rw [selects] at h
    cases hc : satisfies (Path.lookup doc c.1) c.2 with
    | error e =>
      rw [hc] at h
      cases h
    | ok b =>
      cases b with
      | false => exact ⟨c, List.mem_cons_self, hc⟩
      | true =>
        rw [hc] at h
        obtain ⟨d, hd, hfalse⟩ := ih h
        exact ⟨d, List.mem_cons_of_mem _ hd, hfalse⟩

/-- A first condition that does not hold or fails gives the result. -/
theorem selects_cons_of_ne_true {c : String × Value} {result : Except StoreError Bool}
    (rest : Document) (h : satisfies (Path.lookup doc c.1) c.2 = result) (hne : result ≠ .ok true) :
    selects doc (c :: rest) = result := by
  rw [selects, h]
  cases result with
  | error e => rfl
  | ok b =>
    cases b with
    | false => rfl
    | true => exact absurd rfl hne

theorem ok_of_members {b : Bool} (hmem : ∀ c, c ∈ query ↔ c ∈ other) (hdecided : ¬ Clash doc query)
    (h : selects doc query = .ok b) : selects doc other = .ok b := by
  cases b with
  | true => exact selects_eq_true_iff.mpr fun c hc => selects_eq_true_iff.mp h c ((hmem c).mpr hc)
  | false =>
    obtain ⟨c, hc, hfalse⟩ := false_of_selects h
    cases hother : selects doc other with
    | error e =>
      obtain ⟨d, hd, herror⟩ := error_of_selects hother
      exact absurd ⟨⟨c, hc, hfalse⟩, d, (hmem d).mpr hd, e, herror⟩ hdecided
    | ok b =>
      cases b with
      | false => rfl
      | true =>
        have htrue := selects_eq_true_iff.mp hother c ((hmem c).mp hc)
        rw [hfalse] at htrue
        cases htrue

/-- Conditions in any order give the same result, unless one of them does not hold and another one
fails. -/
theorem sameOutcome_of_perm (hperm : query.Perm other) (hdecided : ¬ Clash doc query) :
    SameOutcome (selects doc query) (selects doc other) := by
  intro b
  have hmem : ∀ c, c ∈ query ↔ c ∈ other := fun c => hperm.mem_iff
  refine ⟨ok_of_members hmem hdecided, ok_of_members (fun c => (hmem c).symm) ?_⟩
  simpa only [Clash, hmem] using hdecided

theorem Rearranged.selects_true_iff (h : Rearranged query other) :
    selects doc other = .ok true ↔ selects doc query = .ok true := by
  rw [← selects_parts doc other, ← selects_parts doc query, selects_eq_true_iff,
    selects_eq_true_iff]
  exact forall_congr' fun c => imp_congr_left h.perm_parts.mem_iff.symm

/-- A query that is not contested gives the same result in every order. -/
theorem Rearranged.sameOutcome (h : Rearranged query other) (hdecided : ¬ Contested doc query) :
    SameOutcome (selects doc query) (selects doc other) := by
  rw [← selects_parts doc query, ← selects_parts doc other]
  exact sameOutcome_of_perm h.perm_parts hdecided

/-- A contested query does not hold in one order, and fails in another. -/
theorem Contested.exists_rearranged (h : Contested doc query) :
    (∃ other, Rearranged query other ∧ selects doc other = .ok false) ∧
      ∃ other e, Rearranged query other ∧ selects doc other = .error e := by
  have hfirst : ∀ part ∈ parts query, ∀ result, satisfies (Path.lookup doc part.1) part.2 = result →
      result ≠ .ok true →
      ∃ other, Rearranged query other ∧ selects doc other = result := by
    intro part hpart result hresult hne
    obtain ⟨other, rest, hother, hparts⟩ := exists_rearranged_first hpart
    refine ⟨other, hother, ?_⟩
    rw [← selects_parts, hparts, selects_cons_of_ne_true rest hresult hne]
  obtain ⟨⟨part, hpart, hfalse⟩, failing, hfailing, e, herror⟩ := h
  obtain ⟨refused, hrefused, hno⟩ := hfirst part hpart _ hfalse fun he => by cases he
  obtain ⟨failed, hfailed, herror⟩ := hfirst failing hfailing _ herror fun he => by cases he
  exact ⟨⟨refused, hrefused, hno⟩, failed, e, hfailed, herror⟩

/-- Every order gives the same result exactly when the query is not contested. -/
theorem sameOutcome_rearranged_iff (doc query : Document) :
    (∀ other, Rearranged query other → SameOutcome (selects doc query) (selects doc other)) ↔
      ¬ Contested doc query := by
  refine ⟨fun hsame hcontested => ?_, fun hdecided other h => h.sameOutcome hdecided⟩
  obtain ⟨⟨refused, hrefused, hfalse⟩, failed, e, hfailed, herror⟩ := hcontested.exists_rearranged
  have hselects := (hsame failed hfailed false).mp ((hsame refused hrefused false).mpr hfalse)
  rw [herror] at hselects
  cases hselects

end Rearranged

end Query

/-! ## Filters in any order -/

namespace Listing

open Query

section Filters

variable {c : ClassInfo} {filters others : Fields Datum}

/-- The condition that one filter asks for, if any. -/
def asked (c : ClassInfo) : String × Datum → Except ResolveError (Option (String × Value))
  | (name, .object filter) =>
    match c.field? name with
    | none => .error (.invalidArgument s!"Unknown filter \"{name}\"")
    | some f => (fieldCondition c f filter).map fun condition =>
        if condition.isEmpty then none else some ("data." ++ name, .document condition)
  | _ => .ok none

/-- One filter either fails or adds what it asks for, to a path that nothing is asked of yet. -/
theorem addFilters_cons {head : String × Datum} {query : Document}
    (hnew : "data." ++ head.1 ∉ Fields.names query) (rest : Fields Datum) :
    (∃ e, asked c head = .error e ∧ addFilters c query (head :: rest) = .error e) ∨
    ∃ condition, asked c head = .ok condition ∧
      (∀ entry ∈ condition, entry.1 = "data." ++ head.1) ∧
        addFilters c query (head :: rest) = addFilters c (query ++ condition.toList) rest := by
  obtain ⟨name, value⟩ := head
  by_cases hobject : ∃ filter, value = .object filter
  · obtain ⟨filter, rfl⟩ := hobject
    cases hf : c.field? name with
    | none =>
      refine Or.inl ⟨.invalidArgument s!"Unknown filter \"{name}\"", ?_, ?_⟩
      · simp only [asked, hf]
      · simp only [addFilters, hf]
    | some f =>
      cases hcondition : fieldCondition c f filter with
      | error e => exact Or.inl ⟨e, by simp only [asked, hf, hcondition]; rfl,
        by simp only [addFilters, hf, hcondition]⟩
      | ok condition =>
        refine Or.inr ⟨_, by simp only [asked, hf, hcondition]; rfl, ?_⟩
        rw [addFilters_filter hf hcondition hnew]
        cases condition with
        | nil => exact ⟨by simp, by simp⟩
        | cons => exact ⟨by simp, rfl⟩
  · have hasked : asked c (name, value) = .ok none := by
      cases value with
      | object filter => exact absurd ⟨filter, rfl⟩ hobject
      | _ => rfl
    refine Or.inr ⟨none, hasked, by simp, ?_⟩
    rw [(addFilters_skip (not_exists.mp hobject) query rest).1, Option.toList_none, List.append_nil]

/-- Filters of different fields add what they ask for in order, after what is asked already. -/
theorem addFilters_eq (hdistinct : (Fields.names filters).Nodup) (query : Document)
    (hnew : ∀ name ∈ Fields.names filters, "data." ++ name ∉ Fields.names query) :
    addFilters c query filters = (filters.mapM (asked c)).map fun conditions =>
      query ++ conditions.reduceOption := by
  induction filters generalizing query with
  | nil => exact congrArg Except.ok (List.append_nil query).symm
  | cons head rest ih =>
    obtain ⟨hhead, hrest⟩ := List.nodup_cons.mp hdistinct
    obtain ⟨hfresh, hlater⟩ := List.forall_mem_cons.mp hnew
    rw [List.mapM_cons]
    rcases addFilters_cons (c := c) hfresh rest with
      ⟨e, hasked, hadd⟩ | ⟨condition, hasked, hpath, hadd⟩
    · rw [hasked, hadd]
      rfl
    · have hlater' : ∀ name ∈ Fields.names rest, "data." ++ name ∉
          Fields.names (query ++ condition.toList) := by
        intro name hname hin
        rw [Fields.names, List.map_append, List.mem_append] at hin
        rcases hin with hin | hin
        · exact hlater name hname hin
        · obtain ⟨entry, hentry, he⟩ := List.mem_map.mp hin
          rw [hpath entry (Option.mem_toList.mp hentry)] at he
          exact hhead (Path.data_injective he ▸ hname)
      rw [hasked, hadd, ih hrest _ hlater']
      cases rest.mapM (asked c) with
      | error e => rfl
      | ok conditions =>
        refine congrArg Except.ok ((List.append_assoc _ _ _).trans ?_)
        cases condition <;> rfl

/-- Filters in another order turn into the conditions in another order, and fail if they do. -/
theorem exists_filtersToQuery_perm (hdistinct : (Fields.names filters).Nodup)
    (hperm : filters.Perm others) {query : Document}
    (h : filtersToQuery c (some (.object filters)) = .ok query) :
    ∃ other, filtersToQuery c (some (.object others)) = .ok other ∧ query.Perm other := by
  have hdistinct' : (Fields.names others).Nodup := (hperm.map Prod.fst).nodup_iff.mp hdistinct
  have hnone : ∀ name : String, "data." ++ name ∉ Fields.names ([] : Document) :=
    fun _ => List.not_mem_nil
  rw [filtersToQuery, addFilters_eq hdistinct [] fun name _ => hnone name] at h
  obtain ⟨conditions, hconditions, rfl⟩ := map_eq_ok h
  obtain ⟨reordered, hreordered, hsame⟩ :=
    List.perm_comp_forall₂ hperm.symm (mapM_eq_ok_iff.mp hconditions)
  refine ⟨reordered.reduceOption, ?_, (hsame.filterMap id).symm⟩
  rw [filtersToQuery, addFilters_eq hdistinct' [] fun name _ => hnone name,
    mapM_eq_ok_iff.mpr hreordered]
  rfl

end Filters

section Page

variable {s : Store} {c : ClassInfo}

theorem selectAll_sameOutcome {query other : Document} {docs : List Document}
    (h : ∀ doc ∈ docs, SameOutcome (selects doc query) (selects doc other)) :
    SameOutcome (Store.selectAll query docs) (Store.selectAll other docs) := by
  have hcons : ∀ query doc rest, Store.selectAll query (doc :: rest) =
      (selects doc query >>= fun b =>
        if b then Store.selectAll query rest >>=
            fun found => .ok (doc :: found) else Store.selectAll query rest) := by
    intro query doc rest
    rw [Store.selectAll]
    cases selects doc query with
    | error e => rfl
    | ok b => cases b <;> rfl
  induction docs with
  | nil => exact SameOutcome.refl _
  | cons doc rest ih =>
    obtain ⟨hdoc, hrest⟩ := List.forall_mem_cons.mp h
    rw [hcons, hcons]
    refine hdoc.bind fun b => ?_
    cases b with
    | false => exact ih hrest
    | true => exact (ih hrest).bind fun _ => SameOutcome.refl _

/-- Queries with the same outcome on every document find the same ids. -/
theorem findIds_sameOutcome {query other : Document} (hquery : "_deleted" ∉ Fields.names query)
    (hother : "_deleted" ∉ Fields.names other) (sort : Option Document)
    (h : ∀ doc ∈ s.documents c.name, SameOutcome (selects doc query) (selects doc other)) :
    SameOutcome (Access.findIds s c.name query sort) (Access.findIds s c.name other sort) := by
  rw [Access.findIds, Access.findIds, Fields.insert_eq_append _ hquery,
    Fields.insert_eq_append _ hother]
  have hdocs :
      SameOutcome (Store.selectAll (query ++ [("_deleted", .bool false)]) (s.documents c.name))
      (Store.selectAll (other ++ [("_deleted", .bool false)]) (s.documents c.name)) := by
    refine selectAll_sameOutcome fun doc hdoc => ?_
    rw [Store.selects_append, Store.selects_append]
    exact (h doc hdoc).bind fun _ => SameOutcome.refl _
  exact (hdocs.bind fun _ => SameOutcome.refl _).ofStore.bind fun _ => SameOutcome.refl _

/-- A list whose filters are given in another order is the same, or fails as well, if no document
contests them. -/
theorem page_sameOutcome {filters others : Fields Datum} (hdistinct : (Fields.names filters).Nodup)
    (hperm : filters.Perm others) (args : Fields Datum)
    (hdecided : ∀ query, filtersToQuery c (some (.object filters)) = .ok query →
      ∀ doc ∈ s.documents c.name, ¬ Contested doc query) :
    SameOutcome (page s c (("filters", .object filters) :: args))
      (page s c (("filters", .object others) :: args)) := by
  have hargument : ∀ fs, Fields.get? (("filters", Datum.object fs) :: args) "filters" =
      some (.object fs) := fun _ => rfl
  cases hquery : filtersToQuery c (some (.object filters)) with
  | error e =>
    cases hother : filtersToQuery c (some (.object others)) with
    | error e' =>
      have hfails : ∀ {fs e'}, filtersToQuery c (some (.object fs)) = .error e' →
          page s c (("filters", .object fs) :: args) = .error e' := by
        intro fs e' h
        rw [page, hargument, h]
        rfl
      rw [hfails hquery, hfails hother]
      exact SameOutcome.of_errors _ _
    | ok other =>
      have hdistinct' : (Fields.names others).Nodup := (hperm.map Prod.fst).nodup_iff.mp hdistinct
      obtain ⟨query, hok, -⟩ := exists_filtersToQuery_perm hdistinct' hperm.symm hother
      rw [hquery] at hok
      cases hok
  | ok query =>
    obtain ⟨other, hother, hqueries⟩ := exists_filtersToQuery_perm hdistinct hperm hquery
    have hids := findIds_sameOutcome (s := s) (deleted_not_mem_filtersToQuery hquery)
      (deleted_not_mem_filtersToQuery hother) (orderToSort c (Fields.get? args "orderBy"))
          fun doc hdoc =>
        Rearranged.sameOutcome ⟨other, hqueries,
          List.forall₂_same.mpr fun c _ => .refl c⟩ (hdecided query hquery doc hdoc)
    rw [page, page, hargument, hargument, hquery, hother]
    exact hids.bind fun _ => SameOutcome.refl _

/-- Filters that fit and whose patterns can be read are contested by no document. -/
theorem not_contested_of_patternsRead {filters : Fields Datum} (hfit : FiltersFit c filters)
    (hread : PatternsRead filters) {query : Document}
    (hquery : filtersToQuery c (some (.object filters)) = .ok query) (doc : Document) :
    ¬ Contested doc query := by
  rintro ⟨-, part, hpart, e, he⟩
  obtain ⟨query', hquery', hmem⟩ := exists_addFilters hfit [] fun _ _ hin => List.not_mem_nil hin
  obtain rfl : query' = query := Except.ok.inj (hquery'.symm.trans hquery)
  obtain ⟨⟨path, condition⟩, hcondition, hpart⟩ := List.mem_flatMap.mp hpart
  have hasks : Asks c filters (path, condition) := by
    simpa using (hmem (path, condition)).mp hcondition
  obtain ⟨name, filter, f, entries, hfilter, -, hfits, -, rfl, hoperators, hspec⟩ :=
    hasks.conditions hfit
  rw [conditionParts_operators hoperators, List.mem_map] at hpart
  obtain ⟨operator, hoperator, rfl⟩ := hpart
  obtain ⟨_, hentries, hnames⟩ := exists_of_isOperators hoperators
  cases hentries
  rw [satisfies_single (hnames operator hoperator)] at he
  rcases (hspec operator).mp hoperator with ⟨cs, hcs, rfl⟩ | ⟨hbound, -⟩
  · obtain ⟨b, hb, -⟩ := decides_candidates hcs (hread name filter hfilter) (Path.lookup doc path)
    have hin : equalsAny (Path.lookup doc path) cs = .error e := he
    rw [hb] at hin
    cases hin
  · obtain ⟨b, hb, -⟩ := decides_bound hbound _ (Path.lookup doc path)
    rw [hb] at he
    cases he

/-- A query holds of a document in one order exactly when it does so in every other. The order of
its conditions, and of the operators inside each, makes no difference to the result exactly when no
part of the query fails on the document while another part does not hold of it. So the order of
filters makes no difference to a list, unless a document of the class contests them; none does when
all their patterns can be read. -/
theorem order_irrelevant_iff :
    (∀ doc query : Document,
      (∀ other, Rearranged query other →
        (selects doc other = .ok true ↔ selects doc query = .ok true)) ∧
      ((∀ other, Rearranged query other → SameOutcome (selects doc query) (selects doc other)) ↔
        ¬ Contested doc query)) ∧
    ∀ (s : Store) (c : ClassInfo) (filters others args : Fields Datum),
      (Fields.names filters).Nodup → filters.Perm others →
      (∀ query, filtersToQuery c (some (.object filters)) = .ok query →
        ∀ doc ∈ s.documents c.name, ¬ Contested doc query) ∨
          (FiltersFit c filters ∧ PatternsRead filters) →
      SameOutcome (page s c (("filters", .object filters) :: args))
        (page s c (("filters", .object others) :: args)) := by
  refine ⟨fun doc query => ⟨fun other h => h.selects_true_iff,
    sameOutcome_rearranged_iff doc query⟩, ?_⟩
  intro s c filters others args hdistinct hperm hdecided
  refine page_sameOutcome hdistinct hperm args fun query hquery doc hdoc => ?_
  rcases hdecided with hdecided | ⟨hfit, hread⟩
  · exact hdecided query hquery doc hdoc
  · exact not_contested_of_patternsRead hfit hread hquery doc

end Page

end Listing

namespace Sample

/-- A document with a name and a city. -/
def resident : Document :=
  [("data", .document [("name", .string "a"), ("city", .string "x")])]

/-- Asks for a city. -/
def inCity : String × Value :=
  ("data.city", .document [("$in", .array [.string "b"])])

/-- Asks for a name with a pattern that cannot be read. -/
def unreadable : String × Value :=
  ("data.name", .document [("$in", .array [.regex "(" ""])])

/-- Filters for the name and the friend of a user. -/
def byNameAndFriend : Fields Datum :=
  [("name", .object [("eq", .string "a")]), ("friend", .object [("eq", .null)])]

end Sample

namespace Listing

open Query

/-- The order of two filters that have no pattern makes no difference to a list of users. -/
theorem order_irrelevant_iff_pair :
    ((Fields.names Sample.byNameAndFriend).Nodup ∧ FiltersFit Sample.user Sample.byNameAndFriend ∧
      PatternsRead Sample.byNameAndFriend) ∧
    SameOutcome (page Sample.pair Sample.user [("filters", .object Sample.byNameAndFriend)])
      (page Sample.pair Sample.user [("filters", .object Sample.byNameAndFriend.reverse)]) := by
  have hgiven : ∀ name filter, (name, .object filter) ∈ Sample.byNameAndFriend →
      ∀ operator value, given? filter operator = some value →
          operator = "eq" ∧ value = .string "a" := by
    intro name filter hfilter operator value hgiven
    obtain ⟨hget, hnull⟩ := given?_eq_some.mp hgiven
    have hmem := Fields.mem_of_get? hget
    simp only [Sample.byNameAndFriend, List.mem_cons, Prod.mk.injEq, Datum.object.injEq,
      List.not_mem_nil, or_false]
      at hfilter
    rcases hfilter with ⟨-, rfl⟩ | ⟨-, rfl⟩ <;>
      obtain ⟨rfl, rfl⟩ := Prod.mk.inj (List.mem_singleton.mp hmem)
    · exact ⟨rfl, rfl⟩
    · cases hnull
  have hknown : ∀ entry ∈ Sample.byNameAndFriend, ∀ filter, entry.2 = .object filter →
      ∃ f, Sample.user.field? entry.1 = some f ∧ (Fields.names filter).Nodup ∧
        ∀ operator ∈ Fields.names filter, operator ∈ f.scalar.filterOperators := by
    simp only [Sample.byNameAndFriend, List.forall_mem_cons, Datum.object.injEq, forall_eq']
    exact ⟨⟨_, rfl, by decide, by decide⟩, ⟨_, rfl, by decide, by decide⟩, fun _ h =>
      absurd h List.not_mem_nil⟩
  have hfit : FiltersFit Sample.user Sample.byNameAndFriend := by
    refine ⟨by decide, fun name filter hfilter => ?_⟩
    obtain ⟨f, hf, hdistinct, hoperators⟩ := hknown _ hfilter filter rfl
    refine ⟨f, hf, hdistinct, hoperators, fun value h => ?_, fun operator value _ h => ?_,
      fun value h => ?_⟩
    · exact absurd (hgiven name filter hfilter _ value h).1 (by decide)
    · rw [(hgiven name filter hfilter _ value h).2]
      trivial
    · exact absurd (hgiven name filter hfilter _ value h).1 (by decide)
  have hread : PatternsRead Sample.byNameAndFriend := by
    intro name filter hfilter literal h
    exact absurd (hgiven name filter hfilter _ _ h).1 (by decide)
  exact ⟨⟨by decide, hfit, hread⟩,
    order_irrelevant_iff.2 Sample.pair Sample.user Sample.byNameAndFriend _ [] (by decide)
      (List.reverse_perm _).symm (Or.inr ⟨hfit, hread⟩)⟩

end Listing

namespace Query

/-- The order of two conditions decides whether a query fails. -/
theorem exists_order_decides :
    Rearranged [Sample.inCity, Sample.unreadable] [Sample.unreadable, Sample.inCity] ∧
      selects Sample.resident [Sample.inCity, Sample.unreadable] = .ok false ∧
      selects Sample.resident [Sample.unreadable, Sample.inCity] = .error (.invalidPattern "(") ∧
      ¬ SameOutcome (selects Sample.resident [Sample.inCity, Sample.unreadable])
        (selects Sample.resident [Sample.unreadable, Sample.inCity]) := by
  have hfalse : selects Sample.resident [Sample.inCity, Sample.unreadable] = .ok false := by
    decide +kernel
  have herror : selects Sample.resident [Sample.unreadable, Sample.inCity] =
      .error (.invalidPattern "(") := by decide +kernel
  refine ⟨⟨_, List.Perm.swap _ _ _, List.forall₂_same.mpr fun c _ => .refl c⟩, hfalse, herror,
    fun h => ?_⟩
  rw [hfalse, herror] at h
  cases (h false).mp rfl

end Query

end ClassApi
