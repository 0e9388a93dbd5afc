import ClassApi.Proofs.Cursor
import ClassApi.Proofs.Ids
import ClassApi.Proofs.Parse
import ClassApi.Proofs.Reading

/-!
# Lists

A list is served in two steps. The ids of what is listed are fetched, sorted and cut into a page;
then the records of the page are fetched in storage order and put back in the order of their ids.
The plain way is one step: sort the documents that are live and match, read them as records and cut
the page out of these. Both ways give the same page, because ids tell documents apart and a page is
cut without a look at its items.
-/

namespace ClassApi

/-! ## Pages of changed items -/

section Pages

variable {α β γ : Type}

theorem edgesFrom_map (f : α → β) (offset : Nat) (items : List α) :
    edgesFrom offset (items.map f) = (edgesFrom offset items).map fun edge =>
      ⟨edge.cursor, f edge.node⟩ := by
  induction items generalizing offset with
  | nil => rfl
  | cons item rest ih =>
    rw [List.map_cons, edgesFrom, ih]
    rfl

/-- A page with changed items. -/
def Connection.map (f : α → β) (page : Connection α) : Connection β where
  edges := page.edges.map fun edge => ⟨edge.cursor, f edge.node⟩
  pageInfo := page.pageInfo
  totalCount := page.totalCount

theorem Connection.nodes_map (f : α → β) (page : Connection α) :
    (page.map f).edges.map Edge.node = (page.edges.map Edge.node).map f := by
  rw [map, List.map_map, List.map_map]
  rfl

/-- Replacing the items of a page by what they are changed into changes them. -/
theorem Connection.withNodes_map (f : α → β) (g : α → γ) (page : Connection α) :
    (page.map f).withNodes ((page.edges.map Edge.node).map g) = page.map g := by
  rw [withNodes, map, map, List.map_map, List.zip_map', List.map_map]
  rfl

/-- A page is cut without a look at its items. -/
theorem paginate_map (f : α → β) (items : List α) (args : PageArgs) :
    paginate (items.map f) args = (paginate items args).map (Connection.map f) := by
  rw [paginate, paginate]
  cases args.checkedSums with
  | error e => rfl
  | ok sums =>
    show paginateWith sums (items.map f) args =
      (paginateWith sums items args).map (Connection.map f)
    rw [paginateWith, paginateWith, List.length_map]
    cases PageBounds.select sums.start args items.length with
    | error e => rfl
    | ok b =>
      simp only [bind, Except.bind, pure, Except.pure, Except.map, Connection.map, ← List.map_drop,
        ← List.map_take, edgesFrom_map, List.head?_map, List.getLast?_map, Option.map_map]
      rfl

theorem getElem?_of_mem_edgesFrom {items : List α} {offset : Nat} {edge : Edge α}
    (h : edge ∈ edgesFrom offset items) :
    ∃ i, edge.cursor = Cursor.ofOffset (offset + i) ∧ items[i]? = some edge.node := by
  induction items generalizing offset with
  | nil => cases h
  | cons item rest ih =>
    rcases List.mem_cons.mp h with rfl | hm
    · exact ⟨0, rfl, rfl⟩
    · obtain ⟨i, hcursor, hitem⟩ := ih hm
      exact ⟨i + 1, by rw [hcursor, Nat.add_right_comm, Nat.add_assoc], hitem⟩

theorem map_node_edgesFrom (offset : Nat) (items : List α) :
    (edgesFrom offset items).map Edge.node = items := by
  induction items generalizing offset with
  | nil => rfl
  | cons item rest ih => rw [edgesFrom, List.map_cons, ih]

/-- The items of a page are some of the list, in order. -/
theorem sublist_nodes {items : List α} {args : PageArgs} {page : Connection α}
    (h : paginate items args = .ok page) : (page.edges.map Edge.node).Sublist items := by
  obtain ⟨sums, -, h⟩ := bind_eq_ok h
  obtain ⟨bounds, -, h⟩ := bind_eq_ok h
  cases h
  rw [map_node_edgesFrom]
  exact (List.take_sublist _ _).trans (List.drop_sublist _ _)

/-- An item of a page stands in the list at the offset of its cursor. -/
theorem getElem?_of_mem_edges {items : List α} {args : PageArgs} {page : Connection α}
    (h : paginate items args = .ok page) {edge : Edge α} (hedge : edge ∈ page.edges) :
    ∃ i, edge.cursor = Cursor.ofOffset i ∧ items[i]? = some edge.node := by
  obtain ⟨sums, -, h⟩ := bind_eq_ok h
  obtain ⟨bounds, -, h⟩ := bind_eq_ok h
  cases h
  obtain ⟨i, hcursor, hitem⟩ := getElem?_of_mem_edgesFrom hedge
  rw [List.getElem?_take] at hitem
  split at hitem
  · rw [List.getElem?_drop] at hitem
    exact ⟨_, hcursor, hitem⟩
  · cases hitem

theorem PageBounds.error_of_takeFirst {b : PageBounds} {n? : Option Int} {e : ResolveError}
    (h : b.takeFirst n? = .error e) : ∃ reason, e = .invalidArgument reason := by
  cases n? with
  | none => cases h
  | some n =>
    rw [takeFirst] at h
    split at h
    · cases h
      exact ⟨_, rfl⟩
    · cases h

theorem PageBounds.error_of_takeLast {b : PageBounds} {n? : Option Int} {e : ResolveError}
    (h : b.takeLast n? = .error e) : ∃ reason, e = .invalidArgument reason := by
  cases n? with
  | none => cases h
  | some n =>
    rw [takeLast] at h
    split at h
    · cases h
      exact ⟨_, rfl⟩
    · cases h

theorem Offset.error_of_add {m n : Int} {e : ResolveError} (h : add m n = .error e) :
    e = .offsetOverflow := by
  rw [add] at h
  split at h
  · cases h
  · cases h
    rfl

theorem PageArgs.error_of_checkedSums {args : PageArgs} {e : ResolveError}
    (h : args.checkedSums = .error e) : e = .offsetOverflow := by
  rcases bind_eq_error h with hstart | ⟨start, -, h⟩
  · exact Offset.error_of_add hstart
  · rcases bind_eq_error h with hlowest | ⟨lowest, -, h⟩
    · split at hlowest
      · exact Offset.error_of_add hlowest
      · cases hlowest
    · cases h

/-- Cutting a page fails only without room for the offset behind a cursor and for a count that is
negative. -/
theorem error_of_paginate {items : List α} {args : PageArgs} {e : ResolveError}
    (h : paginate items args = .error e) :
    e = .offsetOverflow ∨ ∃ reason, e = .invalidArgument reason := by
  rcases bind_eq_error h with hsums | ⟨sums, -, h⟩
  · exact Or.inl (PageArgs.error_of_checkedSums hsums)
  · rcases bind_eq_error h with hselect | ⟨b, -, hpage⟩
    · rcases bind_eq_error hselect with hfirst | ⟨limited, -, hlast⟩
      · exact Or.inr (PageBounds.error_of_takeFirst hfirst)
      · exact Or.inr (PageBounds.error_of_takeLast hlast)
    · cases hpage

end Pages

/-! ## Documents that are listed -/

namespace Store

/-- Whether a document is marked as not removed. A document without the mark is not. -/
def isLive (doc : Document) : Bool :=
  match Fields.get? doc "_deleted" with
  | some (.bool false) => true
  | _ => false

/-- The conditions of two queries, one after the other. -/
theorem selects_append (doc first second : Document) :
    Query.selects doc (first ++ second) =
      (Query.selects doc first).bind fun b =>
        if b then Query.selects doc second else .ok false := by
  induction first with
  | nil => rfl
  | cons condition rest ih =>
    obtain ⟨path, value⟩ := condition
    rw [List.cons_append, Query.selects, Query.selects]
    cases Query.satisfies (Path.lookup doc path) value with
    | error e => rfl
    | ok b =>
      cases b with
      | false => rfl
      | true => exact ih

/-- Among documents that read as records, those without the removal mark are selected as live. -/
theorem selects_live {doc : Document} (h : (StoredRecord.ofDocument? doc).isSome) :
    Query.selects doc [("_deleted", .bool false)] = .ok (isLive doc) := by
  obtain ⟨stored, hstored⟩ := Option.isSome_iff_exists.mp h
  obtain ⟨-, -, -, hdeleted⟩ := StoredRecord.ofDocument?_eq_some hstored
  have hlook : Path.lookup doc "_deleted" = Fields.get? doc "_deleted" := rfl
  rw [Query.selects, hlook, isLive]
  cases hv : Fields.get? doc "_deleted" with
  | none => rfl
  | some v =>
    rw [hv] at hdeleted
    cases v with
    | bool b =>
      cases b with
      | false => rfl
      | true => rfl
    | _ => cases hdeleted

variable {query : Document} {docs : List Document}

/-- When documents are found, none of them makes the query fail. -/
theorem selects_of_selectAll {found : List Document} (h : selectAll query docs = .ok found) :
    ∀ doc ∈ docs, ∃ b, Query.selects doc query = .ok b := by
  induction docs generalizing found with
  | nil => exact fun doc hd => absurd hd List.not_mem_nil
  | cons first rest ih =>
    rw [selectAll] at h
    cases hs : Query.selects first query with
    | error e =>
      rw [hs] at h
      cases h
    | ok b =>
      have hrest : ∃ others, selectAll query rest = .ok others := by
        rw [hs] at h
        cases b with
        | false => exact ⟨found, h⟩
        | true =>
          obtain ⟨others, hothers, -⟩ := map_eq_ok h
          exact ⟨others, hothers⟩
      obtain ⟨others, hothers⟩ := hrest
      intro doc hd
      rcases List.mem_cons.mp hd with rfl | hm
      · exact ⟨b, hs⟩
      · exact ih hothers doc hm

end Store

namespace Listing

open Store

/-- The conditions of filters are set on data. -/
theorem deleted_not_mem_addFilters {c : ClassInfo} {filters : Fields Datum}
    {query conditions : Document} (h : addFilters c query filters = .ok conditions)
    (hq : "_deleted" ∉ Fields.names query) : "_deleted" ∉ Fields.names conditions := by
  induction filters generalizing query with
  | nil =>
    cases h
    exact hq
  | cons filter rest ih =>
    obtain ⟨name, value⟩ := filter
    cases value with
    | object members =>
      rw [addFilters] at h
      cases hf : c.field? name with
      | none =>
        rw [hf] at h
        cases h
      | some f =>
        rw [hf] at h
        cases hc : fieldCondition c f members with
        | error e =>
          simp only [hc] at h
          cases h
        | ok condition =>
          simp only [hc] at h
          refine ih h ?_
          split
          · exact hq
          · intro hm
            rcases Fields.mem_names_insert.mp hm with he | hm
            · have hchars := congrArg String.toList he
              simp at hchars
            · exact hq hm
    | _ => exact ih h hq

theorem deleted_not_mem_filtersToQuery {c : ClassInfo} {filters : Option Datum} {query : Document}
    (h : filtersToQuery c filters = .ok query) : "_deleted" ∉ Fields.names query := by
  unfold filtersToQuery at h
  split at h
  · exact deleted_not_mem_addFilters h List.not_mem_nil
  · cases h
    exact List.not_mem_nil

/-- The documents that are live and match a query. -/
def live (query : Document) (docs : List Document) : List Document :=
  docs.filter fun doc => isLive doc && chosen query doc

/-- The documents that a list shows when it is not cut: those that are live and match a query,
sorted. -/
def listed (query : Document) (sort : Option Document) (docs : List Document) : List Document :=
  match sort with
  | some keys => Sorting.sort keys (live query docs)
  | none => live query docs

theorem perm_listed (query : Document) (sort : Option Document) (docs : List Document) :
    (listed query sort docs).Perm (live query docs) := by
  cases sort with
  | none => exact List.Perm.refl _
  | some keys => exact Sorting.perm_sort keys _

theorem mem_of_mem_listed {query : Document} {sort : Option Document} {docs : List Document}
    {doc : Document} (h : doc ∈ listed query sort docs) : doc ∈ docs ∧ isLive doc = true := by
  obtain ⟨hdoc, hboth⟩ := List.mem_filter.mp ((perm_listed query sort docs).mem_iff.mp h)
  exact ⟨hdoc, (Bool.and_eq_true_iff.mp hboth).1⟩

/-- Documents that are listed have ids of their own if all have. -/
theorem nodup_listed {docs : List Document} (h : UniqueIds docs) (query : Document)
    (sort : Option Document) : ((listed query sort docs).map idOf).Nodup := by
  have hlive : ((live query docs).map idOf).Nodup := h.nodup.sublist (List.filter_sublist.map idOf)
  exact ((perm_listed query sort docs).map idOf).nodup_iff.mpr hlive

end Listing

/-! ## Fetching in two steps -/

namespace Access

open Store Listing

variable {s : Store} {className : String}

theorem chosen_live {doc : Document} (h : (StoredRecord.ofDocument? doc).isSome)
    (query : Document) :
    chosen (query ++ [("_deleted", .bool false)]) doc = (isLive doc && chosen query doc) := by
  rw [chosen, chosen, selects_append, selects_live h]
  cases Query.selects doc query with
  | error e => exact (Bool.and_false _).symm
  | ok b =>
    cases b with
    | false => exact (Bool.and_false _).symm
    | true => exact (Bool.and_true _).symm

/-- The first step fetches the ids of the documents that are listed, and no document makes the
filters fail. -/
theorem findIds_eq_ok {query : Document} {sort : Option Document} {ids : List ObjectId}
    (hrecords : ∀ doc ∈ s.documents className, (StoredRecord.ofDocument? doc).isSome)
    (hquery : "_deleted" ∉ Fields.names query) (h : findIds s className query sort = .ok ids) :
    (∀ doc ∈ s.documents className, ∃ b, Query.selects doc query = .ok b) ∧
      ids = (listed query sort (s.documents className)).filterMap idOf := by
  obtain ⟨docs, hdocs, h⟩ := bind_eq_ok h
  cases h
  obtain ⟨selected, hselected, hfound⟩ := bind_eq_ok (ofStore_eq_ok hdocs)
  rw [Fields.insert_eq_append _ hquery] at hselected
  refine ⟨fun doc hdoc => ?_, ?_⟩
  · obtain ⟨b, hb⟩ := selects_of_selectAll hselected doc hdoc
    rw [selects_append] at hb
    cases hs : Query.selects doc query with
    | ok b => exact ⟨b, rfl⟩
    | error e =>
      rw [hs] at hb
      cases hb
  · have hlive : selected = live query (s.documents className) := by
      rw [selectAll_eq_ok hselected]
      exact List.filter_congr fun doc hdoc => chosen_live (hrecords doc hdoc) query
    have hids : ∀ sorted : List Document,
        (sorted.map (Projection.apply [("_id", .int32 1)])).filterMap idOf =
            sorted.filterMap idOf := by
      intro sorted
      rw [List.filterMap_map]
      exact List.filterMap_congr fun doc _ => idOf_projected doc
    cases hfound
    cases sort with
    | none =>
      rw [listed, ← hlive]
      exact hids selected
    | some keys =>
      rw [listed, ← hlive]
      exact hids (Sorting.sort keys selected)

theorem error_of_parseAll {docs : List Document} {e : ResolveError}
    (h : parseAll className docs = .error e) :
    ∃ doc ∈ docs, parse className (some doc) = .error e := by
  induction docs with
  | nil => cases h
  | cons doc rest ih =>
    rcases bind_eq_error h with hdoc | ⟨record, -, h⟩
    · exact ⟨doc, List.mem_cons_self, hdoc⟩
    · rcases bind_eq_error h with hrest | ⟨records, -, h⟩
      · obtain ⟨other, hother, hfails⟩ := ih hrest
        exact ⟨other, List.mem_cons_of_mem _ hother, hfails⟩
      · cases h

theorem mem_parseAll {docs : List Document} {records : List ClassRecord}
    (h : parseAll className docs = .ok records) {r : ClassRecord} :
    r ∈ records ↔ ∃ doc ∈ docs, parse className (some doc) = .ok r := by
  induction docs generalizing records with
  | nil =>
    cases h
    simp
  | cons doc rest ih =>
    obtain ⟨first, hfirst, h⟩ := bind_eq_ok h
    obtain ⟨others, hothers, h⟩ := bind_eq_ok h
    cases h
    rw [List.mem_cons, ih hothers, List.exists_mem_cons_iff, hfirst, Except.ok.injEq]
    exact or_congr_left eq_comm

/-- The second step fetches the records that are stored under the ids. -/
theorem mem_manyByIds {ids : List ObjectId} {records : List ClassRecord}
    (hunique : UniqueIds (s.documents className)) (h : manyByIds s className ids = .ok records)
    {r : ClassRecord} :
    r ∈ records ↔
      ∃ doc ∈ s.documents className, (∃ id ∈ ids, idOf doc = some id) ∧
        parse className (some doc) = .ok r := by
  rw [manyByIds] at h
  split at h
  · rename_i hempty
    cases h
    rw [List.isEmpty_iff.mp hempty]
    simp
  · obtain ⟨docs, hdocs, h⟩ := bind_eq_ok h
    rw [mem_parseAll h, find_eq_ok (ofStore_eq_ok hdocs)]
    refine exists_congr fun doc => ?_
    rw [List.mem_filter, and_assoc]
    refine and_congr_right fun hdoc => and_congr_left fun _ => ?_
    obtain ⟨id, hid⟩ := hunique.present doc hdoc
    rw [chosen_eq_true, selects_ids hid, Except.ok.injEq, decide_eq_true_iff, hid]
    simp

/-- A record is given for its id when no other record among those fetched has the id. -/
theorem recordWithId_eq {records : List ClassRecord} {r : ClassRecord} (hr : r ∈ records)
    (hunique : ∀ other ∈ records, other.id = r.id → other = r) :
    recordWithId records r.id = some r := by
  cases hf : recordWithId records r.id with
  | none =>
    have hnone := List.find?_eq_none.mp hf r (List.mem_reverse.mpr hr)
    exact absurd (decide_eq_true rfl) hnone
  | some found =>
    have hfound := List.mem_reverse.mp (List.mem_of_find?_eq_some hf)
    have hid : decide (found.id = r.id) = true :=
      List.find?_some (p := fun record : ClassRecord => decide (record.id = r.id)) hf
    rw [hunique found hfound (of_decide_eq_true hid)]

theorem recordWithId_filter (records : List ClassRecord) {id other : ObjectId} (h : other ≠ id) :
    recordWithId (records.filter fun r => r.id ≠ id) other = recordWithId records other := by
  rw [recordWithId, recordWithId, ← List.filter_reverse, List.find?_filter]
  refine List.find?_congr fun r _ => ?_
  by_cases hr : r.id = other
  · simp [hr, h]
  · simp [hr]

/-- Ids that do not repeat are given their records, in order. -/
theorem nodesFor_eq {records wanted : List ClassRecord} (hn : (wanted.map ClassRecord.id).Nodup)
    (hr : ∀ r ∈ wanted, recordWithId records r.id = some r) :
    nodesFor records (wanted.map ClassRecord.id) = wanted.map fun r => .loaded (.ofClass r) := by
  induction wanted generalizing records with
  | nil => rfl
  | cons first rest ih =>
    obtain ⟨hfirst, hrest⟩ := List.nodup_cons.mp hn
    rw [List.map_cons, nodesFor, hr first List.mem_cons_self, List.map_cons]
    refine congrArg _ (ih hrest fun r hm => ?_)
    have hne : r.id ≠ first.id := fun he => hfirst (he ▸ List.mem_map_of_mem hm)
    rw [recordWithId_filter records hne]
    exact hr r (List.mem_cons_of_mem _ hm)

/-- The record that a document gives has the id of the document. -/
theorem idOf_of_parse {doc : Document} {id : ObjectId} {r : ClassRecord} (hid : idOf doc = some id)
    (h : parse className (some doc) = .ok r) : idOf doc = some r.id := by
  obtain ⟨stored, hstored, -, rfl⟩ := parse_ok h
  have hanswers : answersTo id doc = true := by rw [answersTo_eq_decide hid, decide_eq_true_iff]
  rw [hid, (idOf_of_answersTo hanswers hstored).2]

theorem parse_of_isLive (className : String) {doc : Document}
    (h : (StoredRecord.ofDocument? doc).isSome) (hlive : isLive doc = true) :
    ∃ r, parse className (some doc) = .ok r := by
  obtain ⟨stored, hstored⟩ := Option.isSome_iff_exists.mp h
  obtain ⟨-, -, -, hdeleted⟩ := StoredRecord.ofDocument?_eq_some hstored
  have hfalse : stored.deleted = false := by
    rw [isLive] at hlive
    split at hlive
    · rename_i hmark
      rw [hmark] at hdeleted
      exact (Option.some.inj hdeleted).symm
    · cases hlive
  rw [parse, StoredRecord.ofDocument, hstored]
  simp [hfalse]

/-- Documents that are live are read as records with their ids. -/
theorem parseAll_of_live (className : String) {docs : List Document}
    (hids : ∀ doc ∈ docs, ∃ id, idOf doc = some id)
    (hlive : ∀ doc ∈ docs, (StoredRecord.ofDocument? doc).isSome ∧ isLive doc = true) :
    ∃ records, parseAll className docs = .ok records ∧ docs.map idOf = records.map fun r =>
      some r.id := by
  induction docs with
  | nil => exact ⟨[], rfl, rfl⟩
  | cons doc rest ih =>
    obtain ⟨records, hrecords, hmap⟩ :=
      ih (fun d hd => hids d (List.mem_cons_of_mem _ hd)) (fun d hd =>
        hlive d (List.mem_cons_of_mem _ hd))
    obtain ⟨hread, hl⟩ := hlive doc List.mem_cons_self
    obtain ⟨r, hr⟩ := parse_of_isLive className hread hl
    obtain ⟨id, hid⟩ := hids doc List.mem_cons_self
    refine ⟨r :: records, ?_, ?_⟩
    · rw [parseAll, hr, hrecords]
      rfl
    · rw [List.map_cons, List.map_cons, hmap, idOf_of_parse hid hr]

end Access

namespace Sample

/-- A store with two users. -/
def pair : Store :=
  empty.after [call .create [("name", .string "a")], call .create [("name", .string "b")]]

/-- Asks for the last user by name. -/
def lastByName : Fields Datum :=
  [("orderBy", .enum "NAME_DESC"), ("first", .number (.integer 1))]

end Sample

namespace Listing

open Store Access

variable {s : Store} {c : ClassInfo} {args : Fields Datum} {page : Connection EdgeNode}

/-- The records that are fetched for a page are put in the order of their ids. -/
theorem nodesFor_fetched {className : String} {wanted fetched : List ClassRecord}
    (hunique : UniqueIds (s.documents className)) (hn : (wanted.map ClassRecord.id).Nodup)
    (hwanted : ∀ r ∈ wanted, ∃ doc ∈ s.documents className, parse className (some doc) = .ok r)
    (h : manyByIds s className (wanted.map ClassRecord.id) = .ok fetched) :
    nodesFor fetched (wanted.map ClassRecord.id) = wanted.map fun r => .loaded (.ofClass r) := by
  refine nodesFor_eq hn fun r hr => ?_
  obtain ⟨doc, hdoc, hparse⟩ := hwanted r hr
  have hid : idOf doc = some r.id := by
    obtain ⟨id, hid⟩ := hunique.present doc hdoc
    exact idOf_of_parse hid hparse
  refine recordWithId_eq ?_ fun other hother hsame => ?_
  · exact (mem_manyByIds hunique h).mpr ⟨doc, hdoc, ⟨r.id, List.mem_map_of_mem hr, hid⟩, hparse⟩
  · obtain ⟨doc', hdoc', ⟨id, -, hid'⟩, hparse'⟩ := (mem_manyByIds hunique h).mp hother
    have hother : idOf doc' = some other.id := idOf_of_parse hid' hparse'
    have heq : doc' = doc := hunique.eq_of_idOf hdoc' hdoc (by rw [hother, hid, hsame])
    rw [heq, hparse] at hparse'
    exact (Except.ok.inj hparse').symm

/-- Cutting ids and fetching records for them cuts the records. -/
theorem paginate_fetched {className : String} {args : PageArgs} {records fetched : List ClassRecord}
    {connection : Connection ObjectId} (hunique : UniqueIds (s.documents className))
    (hstored : ∀ r ∈ records, ∃ doc ∈ s.documents className, parse className (some doc) = .ok r)
    (hn : (records.map ClassRecord.id).Nodup)
    (hconnection : paginate (records.map ClassRecord.id) args = .ok connection)
    (h : manyByIds s className (connection.edges.map Edge.node) = .ok fetched) :
    paginate (records.map fun r => .loaded (.ofClass r)) args =
      .ok (connection.withNodes (nodesFor fetched (connection.edges.map Edge.node))) := by
  rw [paginate_map] at hconnection
  obtain ⟨shown, hshown, rfl⟩ := map_eq_ok hconnection
  have hsub := sublist_nodes hshown
  rw [Connection.nodes_map] at h ⊢
  rw [nodesFor_fetched hunique (hn.sublist (hsub.map _)) (fun r hr => hstored r (hsub.mem hr)) h,
    Connection.withNodes_map, paginate_map, hshown]
  rfl

/-- How a page comes about in one step: what it is cut out of are the records of the documents that
are listed, in order. -/
structure CutFrom (s : Store) (c : ClassInfo) (args : Fields Datum) (page : Connection EdgeNode)
    (query : Document) (records : List ClassRecord) : Prop where
  /-- The query is that of the filters. -/
  filters : filtersToQuery c (Fields.get? args "filters") = .ok query
  /-- Every document of the class matches the query or does not. -/
  selects : ∀ doc ∈ s.documents c.name, ∃ b, Query.selects doc query = .ok b
  /-- What is listed is sorted stably, when there is something to sort by. -/
  sorted : ∀ keys, orderToSort c (Fields.get? args "orderBy") = some keys →
    Sorting.StablySorted keys (live query (s.documents c.name))
      (listed query (some keys) (s.documents c.name))
  /-- The records are those of the documents that are listed. -/
  read :
    parseAll c.name (listed query (orderToSort c (Fields.get? args "orderBy"))
      (s.documents c.name)) = .ok records
  /-- The page is cut out of the records. -/
  cut : paginate (records.map fun r => .loaded (.ofClass r)) (.ofArguments args) = .ok page
  /-- The page tells the number of all records. -/
  total : page.totalCount = records.length
  /-- Every item has the cursor of an offset, and it is the record at the offset. -/
  edges : ∀ edge ∈ page.edges, (∃ i, edge.cursor = Cursor.ofOffset i) ∧
    ∀ i, edge.cursor = Cursor.ofOffset i → ∃ r, records[i]? = some r ∧
      edge.node = .loaded (.ofClass r)

/-- A page is cut out of the records of the documents that are listed, although it is cut out of
their ids first. -/
theorem exists_records_of_page (hunique : UniqueIds (s.documents c.name))
    (hrecords : ∀ doc ∈ s.documents c.name, (StoredRecord.ofDocument? doc).isSome)
    (h : Listing.page s c args = .ok page) :
    ∃ query records, filtersToQuery c (Fields.get? args "filters") = .ok query ∧
      (∀ doc ∈ s.documents c.name, ∃ b, Query.selects doc query = .ok b) ∧
      parseAll c.name (listed query (orderToSort c (Fields.get? args "orderBy"))
        (s.documents c.name)) = .ok records ∧
      paginate (records.map fun r => EdgeNode.loaded (.ofClass r)) (.ofArguments args) =
        .ok page := by
  obtain ⟨query, hquery, h⟩ := bind_eq_ok h
  obtain ⟨ids, hids, h⟩ := bind_eq_ok h
  obtain ⟨connection, hconnection, h⟩ := bind_eq_ok h
  obtain ⟨fetched, hfetched, h⟩ := bind_eq_ok h
  cases h
  obtain ⟨hselects, hlisted⟩ := findIds_eq_ok hrecords (deleted_not_mem_filtersToQuery hquery) hids
  have hmem :
      ∀ doc ∈ listed query (orderToSort c (Fields.get? args "orderBy")) (s.documents c.name),
      doc ∈ s.documents c.name ∧ isLive doc = true := fun _ => mem_of_mem_listed
  obtain ⟨records, hread, hmap⟩ := parseAll_of_live c.name
    (fun doc hd => hunique.present doc (hmem doc hd).1)
    (fun doc hd => ⟨hrecords doc (hmem doc hd).1, (hmem doc hd).2⟩)
  have hrecordIds : ids = records.map ClassRecord.id := by
    have hid : ∀ docs : List Document, docs.filterMap idOf = (docs.map idOf).filterMap id := by
      intro docs
      rw [List.filterMap_map]
      rfl
    rw [hlisted, hid, hmap, List.filterMap_map]
    exact congrFun List.filterMap_eq_map records
  have hnodup : (records.map ClassRecord.id).Nodup := by
    have hsome := nodup_listed hunique query (orderToSort c (Fields.get? args "orderBy"))
    rw [hmap, ← Function.comp_def some, ← List.map_map] at hsome
    exact hsome.of_map _
  have hstored : ∀ r ∈ records, ∃ doc ∈ s.documents c.name, parse c.name (some doc) = .ok r := by
    intro r hr
    obtain ⟨doc, hdoc, hparse⟩ := (mem_parseAll hread).mp hr
    exact ⟨doc, (hmem doc hdoc).1, hparse⟩
  rw [hrecordIds] at hconnection
  exact ⟨query, records, hquery, hselects, hread,
    paginate_fetched hunique hstored hnodup hconnection hfetched⟩

/-- A list is served in two steps as it would be in one. -/
theorem page_eq_reference (hunique : UniqueIds (s.documents c.name))
    (hrecords : ∀ doc ∈ s.documents c.name, (StoredRecord.ofDocument? doc).isSome)
    (h : Listing.page s c args = .ok page) :
    ∃ query records, CutFrom s c args page query records := by
  obtain ⟨query, records, hquery, hselects, hread, hpage⟩ :=
    exists_records_of_page hunique hrecords h
  refine ⟨query, records, ⟨hquery, hselects, fun keys _ => Sorting.stablySorted_sort keys _, hread,
    hpage, ?_, ?_⟩⟩
  · rw [(paginate_eq_ok hpage).2, List.length_map]
  · intro edge hedge
    obtain ⟨i, hcursor, hitem⟩ := getElem?_of_mem_edges hpage hedge
    rw [List.getElem?_map] at hitem
    obtain ⟨r, hr, hnode⟩ := Option.map_eq_some_iff.mp hitem
    refine ⟨⟨i, hcursor⟩, fun j hj => ⟨r, ?_, hnode.symm⟩⟩
    rw [← Cursor.ofOffset_injective (hcursor.symm.trans hj), hr]

/-- A page of one user is cut out of two. -/
theorem page_eq_reference_pair :
    (UniqueIds (Sample.pair.documents Sample.user.name) ∧
      ∀ doc ∈ Sample.pair.documents Sample.user.name, (StoredRecord.ofDocument? doc).isSome) ∧
    ∃ page query records, Listing.page Sample.pair Sample.user Sample.lastByName = .ok page ∧
      CutFrom Sample.pair Sample.user Sample.lastByName page query records ∧
      records.length = 2 := by
  have hpresent : ∀ doc ∈ Sample.pair.documents "User", (idOf doc).isSome = true := by
    decide +kernel
  have hunique : UniqueIds (Sample.pair.documents Sample.user.name) :=
    ⟨fun doc hdoc => Option.isSome_iff_exists.mp (hpresent doc hdoc), by decide +kernel⟩
  have hrecords : ∀ doc ∈ Sample.pair.documents Sample.user.name,
      (StoredRecord.ofDocument? doc).isSome := by
    decide +kernel
  have hcount :
      (Listing.page Sample.pair Sample.user Sample.lastByName).toOption.map Connection.totalCount =
          some 2 := by
    decide +kernel
  cases hpage : Listing.page Sample.pair Sample.user Sample.lastByName with
  | error e =>
    rw [hpage] at hcount
    cases hcount
  | ok page =>
    rw [hpage] at hcount
    obtain ⟨query, records, hcut⟩ := page_eq_reference hunique hrecords hpage
    exact ⟨⟨hunique, hrecords⟩, page, query, records, rfl, hcut,
      hcut.total.symm.trans (Option.some.inj hcount)⟩

end Listing

end ClassApi
