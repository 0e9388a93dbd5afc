import ClassApi.Access.Listing
import ClassApi.Proofs.Matching
import ClassApi.Proofs.Results
import ClassApi.Proofs.Selection
import ClassApi.Proofs.Sorting

/-!
# What queries find

A query that finds documents finds the chosen ones among those of the class, in order, whatever
sorting and projection do with them afterwards. So a document that cannot be chosen may as well not
be there, and a list of ids holds only ids of documents that are not marked as removed.
-/

namespace ClassApi

namespace Store

/-- Whether a query selects a document; a query that fails selects none. -/
def chosen (query doc : Document) : Bool :=
  match Query.selects doc query with
  | .ok b => b
  | .error _ => false

theorem chosen_eq_true {query doc : Document} :
    chosen query doc = true ↔ Query.selects doc query = .ok true := by
  rw [chosen]
  cases Query.selects doc query with
  | ok b => simp
  | error e => simp

variable {query : Document} {docs : List Document}

/-- The documents that are found are those that are chosen. -/
theorem selectAll_eq_ok {found : List Document} (h : selectAll query docs = .ok found) :
    found = docs.filter (chosen query) := by
  induction docs generalizing found with
  | nil =>
    cases h
    rfl
  | cons doc rest ih =>
    rw [selectAll] at h
    cases hs : Query.selects doc query with
    | error e =>
      rw [hs] at h
      cases h
    | ok b =>
      rw [hs] at h
      cases b with
      | true =>
        obtain ⟨others, hothers, rfl⟩ := map_eq_ok h
        rw [List.filter_cons_of_pos (chosen_eq_true.mpr hs), ← ih hothers]
      | false =>
        have hnot : ¬ chosen query doc = true := by
          rw [chosen_eq_true, hs]
          exact fun he => by cases he
        rw [List.filter_cons_of_neg hnot]
        exact ih h

theorem error_of_selectAll {e : StoreError}
    (h : selectAll query docs = .error e) : ∃ doc ∈ docs, Query.selects doc query = .error e := by
  induction docs with
  | nil => cases h
  | cons doc rest ih =>
    rw [selectAll] at h
    cases hs : Query.selects doc query with
    | error e' =>
      rw [hs] at h
      cases h
      exact ⟨doc, List.mem_cons_self, hs⟩
    | ok b =>
      have hrest : selectAll query rest = .error e := by
        rw [hs] at h
        cases b with
        | false => exact h
        | true => exact map_eq_error h
      obtain ⟨other, hother, hfails⟩ := ih hrest
      exact ⟨other, List.mem_cons_of_mem _ hother, hfails⟩

/-- Documents that are not chosen may as well not be there. -/
theorem selectAll_filter {keep : Document → Bool} {found : List Document}
    (h : selectAll query docs = .ok found)
    (hkeep : ∀ doc ∈ docs, keep doc = false → chosen query doc = false) :
    selectAll query (docs.filter keep) = .ok found := by
  induction docs generalizing found with
  | nil => exact h
  | cons doc rest ih =>
    have hrest : ∀ d ∈ rest, keep d = false → chosen query d = false :=
      fun d hd => hkeep d (List.mem_cons_of_mem _ hd)
    rw [selectAll] at h
    cases hs : Query.selects doc query with
    | error e =>
      rw [hs] at h
      cases h
    | ok b =>
      rw [hs] at h
      cases b with
      | true =>
        obtain ⟨others, hothers, rfl⟩ := map_eq_ok h
        have hk : keep doc = true := by
          by_contra hne
          have hnot := hkeep doc List.mem_cons_self (Bool.eq_false_iff.mpr hne)
          rw [chosen_eq_true.mpr hs] at hnot
          cases hnot
        rw [List.filter_cons_of_pos hk, selectAll, hs]
        show (selectAll query (rest.filter keep)).map (doc :: ·) = _
        rw [ih hothers hrest]
        rfl
      | false =>
        by_cases hk : keep doc = true
        · rw [List.filter_cons_of_pos hk, selectAll, hs]
          exact ih h hrest
        · rw [List.filter_cons_of_neg hk]
          exact ih h hrest

theorem mem_of_selectFirst {doc : Document} (h : selectFirst query docs = .ok (some doc)) :
    doc ∈ docs := by
  induction docs with
  | nil => cases h
  | cons first rest ih =>
    rw [selectFirst] at h
    cases hs : Query.selects first query with
    | error e =>
      rw [hs] at h
      cases h
    | ok b =>
      rw [hs] at h
      cases b with
      | true =>
        cases h
        exact List.mem_cons_self
      | false => exact List.mem_cons_of_mem _ (ih h)

/-- A document that is selected satisfies every condition of the query. -/
theorem satisfies_of_selects {doc : Document} (h : Query.selects doc query = .ok true)
    {path : String} {condition : Value} (hm : (path, condition) ∈ query) :
    Query.satisfies (Path.lookup doc path) condition = .ok true := by
  induction query with
  | nil => exact absurd hm List.not_mem_nil
  | cons first rest ih =>
    obtain ⟨key, value⟩ := first
    rw [Query.selects] at h
    cases hs : Query.satisfies (Path.lookup doc key) value with
    | error e =>
      rw [hs] at h
      cases h
    | ok b =>
      rw [hs] at h
      cases b with
      | false => cases h
      | true =>
        rcases List.mem_cons.mp hm with he | hrest
        · cases he
          exact hs
        · exact ih h hrest

/-- A document that is marked as removed is not among those that are not. -/
theorem not_chosen_of_removed {doc : Document} (h : Fields.get? doc "_deleted" = some (.bool true))
    (query : Document) : chosen (Fields.insert query "_deleted" (.bool false)) doc = false := by
  rw [Bool.eq_false_iff, ne_eq, chosen_eq_true]
  intro hs
  have hm := Fields.mem_of_get? (Fields.get?_insert_self query "_deleted" (.bool false))
  have hsat := satisfies_of_selects hs hm
  have hlook : Path.lookup doc "_deleted" = some (.bool true) := h
  rw [hlook] at hsat
  cases hsat

theorem equalsAny_ids (id : ObjectId) (ids : List ObjectId) :
    Query.equalsAny (some (.objectId id)) (ids.map .objectId) = .ok (decide (id ∈ ids)) := by
  induction ids with
  | nil => rfl
  | cons first rest ih =>
    have hequals : Query.equals (some (.objectId id)) (.objectId first) =
        .ok (decide (id = first)) := by
      show Except.ok (Value.equal (.objectId id) (.objectId first) || false) = _
      rw [equal_objectId, Bool.or_false]
    rw [List.map_cons, Query.equalsAny, hequals]
    by_cases he : id = first
    · rw [decide_eq_true he, decide_eq_true (he ▸ List.mem_cons_self)]
    · have hmem : id ∈ first :: rest ↔ id ∈ rest := by rw [List.mem_cons, or_iff_right he]
      rw [decide_eq_false he, decide_eq_decide.mpr hmem]
      exact ih

/-- A document is selected by some ids when it is stored under one of them. -/
theorem selects_ids {doc : Document} {id : ObjectId} (hid : idOf doc = some id)
    (ids : List ObjectId) :
    Query.selects doc [("_id", .document [("$in", .array (ids.map .objectId))])] =
      .ok (decide (id ∈ ids)) := by
  have hlook : Path.lookup doc "_id" = some (.objectId id) := get?_of_idOf hid
  have hall :
      Query.satisfies (some (.objectId id)) (.document [("$in", .array (ids.map .objectId))]) =
      .ok (decide (id ∈ ids)) := (Query.satisfies_in _ _).trans (equalsAny_ids id ids)
  rw [Query.selects, hlook, hall]
  cases decide (id ∈ ids) with
  | true => rfl
  | false => rfl

/-- A document that is chosen by its id among some is stored under one of them. -/
theorem mem_of_chosen_ids {doc : Document} {id : ObjectId} {ids : List ObjectId}
    (hid : idOf doc = some id)
    (h : chosen [("_id", .document [("$in", .array (ids.map .objectId))])] doc = true) :
    id ∈ ids := by
  have hs := chosen_eq_true.mp h
  rw [selects_ids hid] at hs
  exact of_decide_eq_true (Except.ok.inj hs)

theorem error_of_find {s : Store} {className : String} {sort projection : Option Document}
    {e : StoreError} (h : s.find className query sort projection = .error e) :
    ∃ doc ∈ s.documents className, Query.selects doc query = .error e := by
  rcases bind_eq_error h with hselect | ⟨found, -, hfound⟩
  · exact error_of_selectAll hselect
  · cases hfound

/-- Without sorting and projection, the documents that are found are those that are chosen. -/
theorem find_eq_ok {s : Store} {className : String} {found : List Document}
    (h : s.find className query none none = .ok found) :
    found = (s.documents className).filter (chosen query) := by
  obtain ⟨selected, hselected, h⟩ := bind_eq_ok h
  cases h
  exact selectAll_eq_ok hselected

/-- Documents that are not chosen may as well not be there. -/
theorem find_filter {s : Store} {className : String} {sort projection : Option Document}
    {found : List Document} {keep : Document → Bool}
    (h : s.find className query sort projection = .ok found)
    (hkeep : ∀ doc ∈ s.documents className, keep doc = false → chosen query doc = false) :
    (s.withDocuments className ((s.documents className).filter keep)).find className query sort
      projection = .ok found := by
  obtain ⟨selected, hselected, h⟩ := bind_eq_ok h
  rw [find, documents_withDocuments, if_pos rfl, selectAll_filter hselected hkeep]
  exact h

end Store

namespace Access

open Store

/-- The projection to the id leaves it as it is. -/
theorem idOf_projected (doc : Document) :
    idOf (Projection.apply [("_id", .int32 1)] doc) = idOf doc := by
  have hcopy : ∀ projected, Projection.copy doc projected "_id" (.int32 1) = projected :=
    fun _ => if_pos rfl
  have hkeeps : Projection.keepsId [("_id", .int32 1)] = true := rfl
  rw [Projection.apply, List.foldl_cons, List.foldl_nil, hcopy, if_pos hkeeps, idOf, idOf]
  cases Fields.get? doc "_id" with
  | none => rfl
  | some v => rfl

/-- The ids in a list belong to documents of the class that are not marked as removed. -/
theorem mem_findIds {s : Store} {className : String} {query : Document} {sort : Option Document}
    {ids : List ObjectId} (h : findIds s className query sort = .ok ids) {id : ObjectId}
    (hid : id ∈ ids) :
    ∃ doc ∈ s.documents className, idOf doc = some id ∧
      Fields.get? doc "_deleted" ≠ some (.bool true) := by
  obtain ⟨docs, hdocs, h⟩ := bind_eq_ok h
  cases h
  obtain ⟨projected, hprojected, hidOf⟩ := List.mem_filterMap.mp hid
  obtain ⟨selected, hselected, hfound⟩ := bind_eq_ok (ofStore_eq_ok hdocs)
  cases hfound
  obtain ⟨doc, hdoc, rfl⟩ := List.mem_map.mp hprojected
  have hmem : doc ∈ selected := by
    cases sort with
    | none => exact hdoc
    | some keys => exact (Sorting.perm_sort keys selected).mem_iff.mp hdoc
  rw [selectAll_eq_ok hselected] at hmem
  obtain ⟨hstored, hchosen⟩ := List.mem_filter.mp hmem
  refine ⟨doc, hstored, (idOf_projected doc).symm.trans hidOf, fun hremoved => ?_⟩
  rw [not_chosen_of_removed hremoved] at hchosen
  cases hchosen

end Access

/-! ## Pages -/

theorem mem_edgesFrom {α : Type} {items : List α} {offset : Nat} {edge : Edge α}
    (h : edge ∈ edgesFrom offset items) : edge.node ∈ items := by
  induction items generalizing offset with
  | nil => cases h
  | cons item rest ih =>
    rcases List.mem_cons.mp h with rfl | hm
    · exact List.mem_cons_self
    · exact List.mem_cons_of_mem _ (ih hm)

/-- A page holds items of the list, and tells the length of the whole list. -/
theorem paginate_eq_ok {α : Type} {items : List α} {args : PageArgs} {page : Connection α}
    (h : paginate items args = .ok page) :
    (∀ edge ∈ page.edges, edge.node ∈ items) ∧ page.totalCount = items.length := by
  obtain ⟨sums, -, h⟩ := bind_eq_ok h
  obtain ⟨bounds, -, h⟩ := bind_eq_ok h
  cases h
  refine ⟨fun edge hedge => ?_, rfl⟩
  exact List.mem_of_mem_drop (List.mem_of_mem_take (mem_edgesFrom hedge))

theorem node_withNodes {α β : Type} {page : Connection α} {nodes : List β} {edge : Edge β}
    (h : edge ∈ (page.withNodes nodes).edges) : edge.node ∈ nodes := by
  obtain ⟨⟨old, node⟩, hpair, rfl⟩ := List.mem_map.mp h
  exact (List.of_mem_zip hpair).2

end ClassApi
