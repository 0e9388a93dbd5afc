import ClassApi.Proofs.FilterCondition
import ClassApi.Proofs.Listing
import ClassApi.Proofs.Registration

/-!
# Single values for lists

Where a list is expected, a client may give a single value for the list of this value. What a list
is sorted by may be given so, and one text for a list of references. The candidates of a filter may
not: a single one makes the query fail for every document it is tried on. What is given for another
list field is stored as it is given.
-/

namespace ClassApi

theorem Datum.toStored_ne_array {v : Datum} (h : ∀ items, v ≠ .list items) (items : List Value) :
    v.toStored ≠ .array items := by
  cases v with
  | list inner => exact absurd rfl (h inner)
  | number n =>
    rw [toStored]
    cases n.toInt? with
    | none => exact fun he => by cases he
    | some i => exact fun he => by cases he
  | _ => exact fun he => by cases he

/-! ## Failures of queries -/

namespace Query

/-- The failure of a query whose candidates are no list. -/
def notAList : StoreError :=
  .unsupportedOperator "$in requires an array"

theorem within_notAList {candidates : Value} (h : ∀ items, candidates ≠ .array items)
    (stored : Option Value) : within stored candidates = .error notAList := by
  cases candidates with
  | array items => exact absurd rfl (h items)
  | _ => rfl

end Query

namespace Access

variable {s : Store} {className : String}

theorem parse_ne_unsupported (doc : Option Document) (operator : String) :
    parse className doc ≠ .error (.storage (.unsupportedOperator operator)) := by
  cases doc with
  | none => exact fun h => by cases h
  | some doc =>
    rw [parse, StoredRecord.ofDocument]
    cases StoredRecord.ofDocument? doc with
    | none => exact fun h => by cases h
    | some stored =>
      simp only
      split
      · exact fun h => by cases h
      · exact fun h => by cases h

theorem findIds_of_empty (h : s.documents className = []) (query : Document)
    (sort : Option Document) : findIds s className query sort = .ok [] := by
  rw [findIds, Store.find, h]
  cases sort with
  | none => rfl
  | some keys =>
    have hsort : Sorting.sort keys [] = [] := (Sorting.perm_sort keys []).eq_nil
    show Except.ok (((Sorting.sort keys []).map _).filterMap _) = _
    rw [hsort]
    rfl

theorem manyByIds_ne_unsupported (ids : List ObjectId) (operator : String) :
    manyByIds s className ids ≠ .error (.storage (.unsupportedOperator operator)) := by
  intro h
  rw [manyByIds] at h
  split at h
  · cases h
  · rcases bind_eq_error h with hfind | ⟨docs, -, hparse⟩
    · obtain ⟨doc, -, hselects⟩ := Store.error_of_find (ofStore_eq_error hfind)
      obtain ⟨condition, hmem, hfails⟩ := Query.error_of_selects hselects
      cases List.mem_singleton.mp hmem
      rw [Query.satisfies_in] at hfails
      obtain ⟨pattern, hpattern⟩ := Query.error_of_within hfails
      cases hpattern
    · obtain ⟨doc, -, hfails⟩ := error_of_parseAll hparse
      exact parse_ne_unsupported _ _ hfails

end Access

namespace Listing

variable {s : Store} {c : ClassInfo} {f : ClassField} {v : Datum} {name : String}

/-- A list fails for an operator only when a condition of its filters does so on a document. -/
theorem error_of_page {args : Fields Datum} {query : Document} {operator : String}
    (hquery : filtersToQuery c (Fields.get? args "filters") = .ok query)
    (h : page s c args = .error (.storage (.unsupportedOperator operator))) :
    ∃ doc ∈ s.documents c.name, ∃ condition ∈ query,
      Query.satisfies (Path.lookup doc condition.1) condition.2 =
        .error (.unsupportedOperator operator) := by
  rcases bind_eq_error h with hfilters | ⟨query', hfilters, h⟩
  · rw [hquery] at hfilters
    cases hfilters
  obtain rfl : query' = query := Except.ok.inj (hfilters.symm.trans hquery)
  rcases bind_eq_error h with hids | ⟨ids, -, h⟩
  · rcases bind_eq_error hids with hfind | ⟨docs, -, hread⟩
    · obtain ⟨doc, hdoc, hselects⟩ := Store.error_of_find (ofStore_eq_error hfind)
      obtain ⟨condition, hmem, hfails⟩ := Query.error_of_selects hselects
      rcases Fields.mem_insert hmem with rfl | hmem
      · -- The mark of removed records is compared with a truth value, which does not fail so.
        have hplain : Query.isOperators (.bool false) = false := rfl
        rw [Query.satisfies_plain hplain] at hfails
        obtain ⟨pattern, hpattern⟩ := Query.error_of_equals hfails
        cases hpattern
      · exact ⟨doc, hdoc, condition, hmem, hfails⟩
    · cases hread
  · rcases bind_eq_error h with hcut | ⟨connection, -, h⟩
    · rcases error_of_paginate hcut with hoverflow | ⟨reason, hreason⟩
      · cases hoverflow
      · cases hreason
    · rcases bind_eq_error h with hmany | ⟨records, -, h⟩
      · exact absurd hmany (Access.manyByIds_ne_unsupported _ _)
      · cases h

/-! ## Candidates of a filter -/

/-- The argument that filters a field by candidates. -/
def among (name : String) (candidates : Datum) : String × Datum :=
  ("filters", .object [(name, .object [("in", candidates)])])

/-- The query of a filter by candidates. -/
def amongQuery (f : ClassField) (candidates : Datum) : Document :=
  [("data." ++ f.name, .document [("$in", filterOperand f candidates)])]

theorem filtersToQuery_among (hf : c.field? name = some f) (hnull : v ≠ .null)
    (args : Fields Datum) :
    filtersToQuery c (Fields.get? (among name v :: args) "filters") = .ok (amongQuery f v) := by
  have hgiven : v.isNull = false := by
    cases v with
    | null => exact absurd rfl hnull
    | _ => rfl
  have hcondition : fieldCondition c f [("in", v)] = .ok [("$in", filterOperand f v)] := by
    have hkept : conditionsWithoutEq f [("in", v)] = [("$in", filterOperand f v)] := by
      simp [conditionsWithoutEq, hgiven, Fields.ofEntries, Fields.insert]
    have hothers : Fields.remove [("in", v)] "regexp" = [("in", v)] := rfl
    rw [fieldCondition, hothers, hkept]
    rfl
  have hargument : Fields.get? (among name v :: args) "filters" =
      some (.object [(name, .object [("in", v)])]) := rfl
  rw [hargument, filtersToQuery, addFilters, hf]
  simp only [hcondition]
  rfl

theorem filterOperand_ne_array (hlist : ∀ items, v ≠ .list items) (items : List Value) :
    filterOperand f v ≠ .array items := by
  have hvalue : filterOperand f v = filterValue f v := by
    cases v with
    | list items => exact absurd rfl (hlist items)
    | _ => rfl
  rw [hvalue]
  cases v with
  | string raw =>
    rw [filterValue]
    split
    · split
      · exact fun h => by cases h
      · exact fun h => by cases h
    · exact fun h => by cases h
  | _ => exact Datum.toStored_ne_array hlist items

/-- A single candidate makes a list fail unless there are no documents to try it on. -/
theorem page_among_single (hf : c.field? name = some f) (hnull : v ≠ .null)
    (hlist : ∀ items, v ≠ .list items) (hdocs : s.documents c.name ≠ []) (args : Fields Datum) :
    page s c (among name v :: args) = .error (.storage Query.notAList) := by
  obtain ⟨doc, rest, hcons⟩ := List.exists_cons_of_ne_nil hdocs
  have hselects : ∀ conditions, Query.selects doc (amongQuery f v ++ conditions) =
      .error Query.notAList := by
    intro conditions
    rw [amongQuery, List.singleton_append, Query.selects, Query.satisfies_in,
      Query.within_notAList (filterOperand_ne_array hlist)]
  have hinsert : Fields.insert (amongQuery f v) "_deleted" (.bool false) = amongQuery f v ++
      [("_deleted", .bool false)] :=
    Fields.insert_eq_append _ (deleted_not_mem_filtersToQuery (filtersToQuery_among hf hnull args))
  rw [page, filtersToQuery_among hf hnull]
  show (Access.findIds s c.name (amongQuery f v) _ >>= _) = _
  rw [Access.findIds, hinsert, Store.find, hcons, Store.selectAll, hselects]
  rfl

/-- A list of one candidate is found among every document, so it does not fail for not being a
list. -/
theorem page_among_list (hf : c.field? name = some f) (args : Fields Datum) :
    page s c (among name (.list [v]) :: args) ≠ .error (.storage Query.notAList) := by
  intro h
  have hnull : Datum.list [v] ≠ .null := fun hn => by cases hn
  obtain ⟨doc, -, condition, hmem, hfails⟩ := error_of_page (filtersToQuery_among hf hnull args) h
  cases List.mem_singleton.mp hmem
  rw [Query.satisfies_in] at hfails
  obtain ⟨pattern, hpattern⟩ := Query.error_of_within hfails
  cases hpattern

/-- A single candidate and the list of it give the same page when there is no such field or no
document. -/
theorem page_among_iff (hnull : v ≠ .null) (hlist : ∀ items, v ≠ .list items)
    (args : Fields Datum) :
    page s c (among name v :: args) = page s c (among name (.list [v]) :: args) ↔
      c.field? name = none ∨ s.documents c.name = [] := by
  cases hf : c.field? name with
  | none =>
    have hunknown :
        ∀ candidates, filtersToQuery c (Fields.get? (among name candidates :: args) "filters") =
        .error (.invalidArgument s!"Unknown filter \"{name}\"") := by
      intro candidates
      show addFilters c [] [(name, .object [("in", candidates)])] = _
      rw [addFilters, hf]
    refine iff_of_true ?_ (Or.inl rfl)
    rw [page, page, hunknown, hunknown]
    rfl
  | some f =>
    by_cases hdocs : s.documents c.name = []
    · have hnull' : Datum.list [v] ≠ .null := fun hn => by cases hn
      refine iff_of_true ?_ (Or.inr hdocs)
      rw [page, page, filtersToQuery_among hf hnull, filtersToQuery_among hf hnull']
      show (Access.findIds s c.name _ _ >>= _) = (Access.findIds s c.name _ _ >>= _)
      rw [Access.findIds_of_empty hdocs, Access.findIds_of_empty hdocs]
      rfl
    · refine iff_of_false ?_ ?_
      · intro h
        rw [page_among_single hf hnull hlist hdocs args] at h
        exact page_among_list hf args h.symm
      · rintro (hnone | hnil)
        · cases hnone
        · exact hdocs hnil

/-! ## What a list is sorted by -/

theorem orderToSort_single (hnull : v ≠ .null) (hlist : ∀ items, v ≠ .list items) :
    orderToSort c (some v) = orderToSort c (some (.list [v])) := by
  cases v with
  | null => exact absurd rfl hnull
  | list items => exact absurd rfl (hlist items)
  | _ => rfl

end Listing

/-! ## Input for list fields -/

namespace Mutation

variable {s : Store} {c : ClassInfo} {f : ClassField} {v : Datum} {name : String}

theorem resolveMembers_append (data : Document) (front back : Fields Datum) :
    resolveMembers s c data (front ++ back) =
      (resolveMembers s c data front).bind fun resolved => resolveMembers s c resolved back := by
  induction front generalizing data with
  | nil => rfl
  | cons member rest ih =>
    obtain ⟨name, value⟩ := member
    rw [List.cons_append, resolveMembers, resolveMembers]
    split
    · exact ih data
    · cases c.field? name with
      | none => exact ih data
      | some f =>
        simp only
        cases resolveValue s f value with
        | error e => rfl
        | ok stored => exact ih _

/-- A member that gives the value of a field fails with the value or writes what it is resolved
to. -/
theorem resolveMembers_field (hname : f.name ∉ Registry.reservedFields)
    (hf : c.field? name = some f) (data : Document) (value : Datum) (rest : Fields Datum) :
    resolveMembers s c data ((name, value) :: rest) =
      (resolveValue s f value).bind fun stored =>
        resolveMembers s c (Fields.insert data f.name stored) rest := by
  obtain ⟨rfl, -⟩ := name_of_field? hf
  have hother : ¬ (f.name = clientMutationIdName ∨ f.name = "id") := by
    rintro (h | h)
    · exact hname (h ▸ by decide)
    · exact hname (h ▸ by decide)
  rw [resolveMembers, if_neg hother, hf]
  simp only
  cases resolveValue s f value with
  | error e => rfl
  | ok stored => rfl

theorem resolveInput_alone (hname : f.name ∉ Registry.reservedFields) (hf : c.field? name = some f)
    (value : Datum) :
    resolveInput s c [(name, value)] = (resolveValue s f value).map fun stored =>
      [(f.name, stored)] := by
  rw [resolveInput, resolveMembers_field hname hf]
  cases resolveValue s f value with
  | error e => rfl
  | ok stored => rfl

/-- Two values for a field can be exchanged in every input when they resolve alike. -/
theorem resolveInput_congr_iff (hname : f.name ∉ Registry.reservedFields)
    (hf : c.field? name = some f) (v w : Datum) :
    (∀ front back, resolveInput s c (front ++ (name, v) :: back) =
      resolveInput s c (front ++ (name, w) :: back)) ↔ resolveValue s f v = resolveValue s f w := by
  constructor
  · intro h
    have halone : resolveInput s c [(name, v)] = resolveInput s c [(name, w)] := h [] []
    rw [resolveInput_alone hname hf, resolveInput_alone hname hf] at halone
    have hwritten : Function.Injective fun stored : Value => [(f.name, stored)] := by
      intro stored stored' heq
      cases heq
      rfl
    exact map_injective hwritten halone
  · intro h front back
    rw [resolveInput, resolveInput, resolveMembers_append, resolveMembers_append]
    refine congrArg _ (funext fun resolved => ?_)
    rw [resolveMembers_field hname hf, resolveMembers_field hname hf, h]

theorem kind_of_isList (h : f.isList = true) :
    (∃ kind, f.kind = .list kind) ∨ ∃ target, f.kind = .relationList target := by
  rw [ClassField.isList] at h
  split at h
  · rename_i kind hk
    exact Or.inl ⟨kind, hk⟩
  · rename_i target hk
    exact Or.inr ⟨target, hk⟩
  · cases h

/-- A single value for a list field is stored as it is given, unless it is a text that stands for
references. -/
theorem resolveValue_single (hkind : f.isList = true) (hlist : ∀ items, v ≠ .list items)
    (hraw : ∀ target raw, f.kind = .relationList target → v ≠ .string raw) :
    resolveValue s f v = .ok v.toStored := by
  unfold resolveValue
  rcases kind_of_isList hkind with ⟨kind, hk⟩ | ⟨target, hk⟩
  · rw [hk]
    cases v with
    | list items => exact absurd rfl (hlist items)
    | _ =>
      cases kind with
      | _ => rfl
  · rw [hk]
    cases v with
    | list items => exact absurd rfl (hlist items)
    | string raw => exact absurd rfl (hraw target raw hk)
    | _ => rfl

/-- What is stored for a list is a list. -/
theorem resolveValue_list (hkind : f.isList = true) {items : List Datum} {stored : Value}
    (h : resolveValue s f (.list items) = .ok stored) : ∃ values, stored = .array values := by
  unfold resolveValue at h
  rcases kind_of_isList hkind with ⟨kind, hk⟩ | ⟨target, hk⟩
  · rw [hk] at h
    cases kind with
    | _ =>
      cases h
      exact ⟨_, rfl⟩
  · rw [hk] at h
    obtain ⟨values, -, rfl⟩ := map_eq_ok h
    exact ⟨values, rfl⟩

/-- For a list field, a single value resolves like the list of it when it is a text that stands for
one of several references. -/
theorem resolveValue_single_iff (hkind : f.isList = true) (hlist : ∀ items, v ≠ .list items) :
    resolveValue s f v = resolveValue s f (.list [v]) ↔
      (∃ target, f.kind = .relationList target) ∧ ∃ raw, v = .string raw := by
  constructor
  · intro h
    by_contra hother
    have hraw : ∀ target raw, f.kind = .relationList target → v ≠ .string raw :=
      fun target raw hk hv => hother ⟨⟨target, hk⟩, raw, hv⟩
    rw [resolveValue_single hkind hlist hraw] at h
    obtain ⟨values, hvalues⟩ := resolveValue_list hkind h.symm
    exact Datum.toStored_ne_array hlist values hvalues
  · rintro ⟨⟨target, hk⟩, raw, rfl⟩
    unfold resolveValue
    rw [hk]

end Mutation

/-! ## Where a single value stands for a list -/

open Listing Mutation

/-- A list may be sorted by a single value. Filters take a single candidate for the list of it only
when there is nothing to filter, and input for a list field takes a single value so only when it is
the text of a reference. -/
theorem single_value_iff {definitions : List ClassDefinition} {r : Registry} {c : ClassInfo}
    {v : Datum} (hr : Registry.ofDefinitions definitions = .ok r) (hc : c ∈ r.classes)
    (hnull : v ≠ .null) (hlist : ∀ items, v ≠ .list items) :
    orderToSort c (some v) = orderToSort c (some (.list [v])) ∧
    (∀ s name args, page s c (among name v :: args) = page s c (among name (.list [v]) :: args) ↔
      c.field? name = none ∨ s.documents c.name = []) ∧
    ∀ s name f, c.field? name = some f → f.isList = true →
      ((∀ front back, resolveInput s c (front ++ (name, v) :: back) =
          resolveInput s c (front ++ (name, .list [v]) :: back)) ↔
        (∃ target, f.kind = .relationList target) ∧ ∃ raw, v = .string raw) := by
  refine ⟨orderToSort_single hnull hlist, fun s name args => page_among_iff hnull hlist args, ?_⟩
  intro s name f hf hkind
  have hname := Registry.notReserved_name hr hc (name_of_field? hf).2
  exact (resolveInput_congr_iff hname hf v (.list [v])).trans (resolveValue_single_iff hkind hlist)

/-- A friend who is given alone is one friend, but no friends are found who are asked for so. -/
theorem single_value_iff_friend :
    (Registry.ofDefinitions Sample.definitions = .ok ⟨[Sample.user]⟩ ∧
      (Sample.single.documents "User").length = 1) ∧
    resolveInput Sample.single Sample.user [("name", .string "b"),
      ("friends", .string Sample.firstId)] =
      resolveInput Sample.single Sample.user [("name", .string "b"),
        ("friends", .list [.string Sample.firstId])] ∧
    page Sample.single Sample.user [among "friends" (.string Sample.firstId)] ≠
      page Sample.single Sample.user [among "friends" (.list [.string Sample.firstId])] := by
  have hlength : (Sample.single.documents "User").length = 1 := by decide
  obtain ⟨-, hpage, hinput⟩ :=
    single_value_iff (v := .string Sample.firstId) Sample.definitions_accepted
    List.mem_cons_self (fun h => by cases h) (fun items h => by cases h)
  refine ⟨⟨Sample.definitions_accepted, hlength⟩, ?_, fun h => ?_⟩
  · exact (hinput Sample.single "friends" _ rfl rfl).mpr ⟨⟨"User", rfl⟩, _, rfl⟩
      [("name", .string "b")] []
  · rcases (hpage Sample.single "friends" []).mp h with hfield | hdocs
    · cases hfield
    · have hdocs : Sample.single.documents "User" = [] := hdocs
      rw [hdocs] at hlength
      cases hlength

/-- A user is found among the users with one name of a list, but the query fails when the name is
given alone. A number that is given alone for friends is stored, although it is refused in a
list. -/
theorem exists_single_value_unlike :
    page Sample.single Sample.user [among "name" (.string "a")] = .error (.storage Query.notAList) ∧
    (page Sample.single Sample.user [among "name" (.list [.string "a"])]).toOption.map
      Connection.totalCount = some 1 ∧
    resolveInput Sample.single Sample.user [("friends", .int 5)] = .ok [("friends", .int64 5)] ∧
    resolveInput Sample.single Sample.user [("friends", .list [.int 5])] =
      .error (.invalidArgument "Expected an id referencing \"User\", got 5") := by
  refine ⟨?_, by decide +kernel, rfl, ?_⟩
  · exact failureOf_eq_some (by decide +kernel)
  · exact failureOf_eq_some (by decide)

end ClassApi
