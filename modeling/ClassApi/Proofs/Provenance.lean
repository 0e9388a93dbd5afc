import ClassApi.Execution.Resolution
import ClassApi.Proofs.Intent
import ClassApi.Proofs.Reading

/-!
# Where records come from

Whatever a resolver answers with, the records in it are read from documents of the store by one
function, or they were in the object the resolver was asked about. So it is enough to look at that
function to know which records can be seen. This is checked resolver by resolver; most of them show
no records at all.
-/

namespace ClassApi

/-- Whether a store holds a document that reads as a record. -/
def Store.Holds (s : Store) (r : ClassRecord) : Prop :=
  ∃ doc ∈ s.documents r.className, Access.parse r.className (some doc) = .ok r

/-- Whether an object shows a record: it is the record, or a page, an edge or a result that has
it. -/
def Source.Shows (source : Source) (r : ClassRecord) : Prop :=
  match source with
  | .record shown => shown = r
  | .connection page => ∃ edge ∈ page.edges, edge.node = .loaded (.ofClass r)
  | .edge item => item.node = .loaded (.ofClass r)
  | .payload result => result.record = some r
  | _ => False

namespace FieldValue

/-- The objects that a value gives. -/
def sources : FieldValue → List Source
  | .datum _ => []
  | .object source => [source]
  | .typed _ source => [source]
  | .objects sources => sources

/-- Whether one of the objects that a value gives shows a record. -/
def Shows (value : FieldValue) (r : ClassRecord) : Prop :=
  ∃ source ∈ value.sources, source.Shows r

theorem shows_object {source : Source} {r : ClassRecord} (h : (object source).Shows r) :
    source.Shows r := by
  obtain ⟨shown, hmem, hshows⟩ := h
  rw [List.mem_singleton.mp hmem] at hshows
  exact hshows

theorem shows_ofNode {node : Node} {r : ClassRecord} (h : (ofNode node).Shows r) :
    (Source.ofNode node).Shows r := by
  obtain ⟨shown, hmem, hshows⟩ := h
  rw [List.mem_singleton.mp hmem] at hshows
  exact hshows

theorem not_shows_datum {value : Datum} {r : ClassRecord} : ¬ (datum value).Shows r := by
  rintro ⟨shown, hmem, -⟩
  exact absurd hmem List.not_mem_nil

end FieldValue

namespace Access

open Store

variable {s : Store} {className : String}

theorem holds_of_parse {doc : Document} {r : ClassRecord} (hdoc : doc ∈ s.documents className)
    (h : parse className (some doc) = .ok r) : s.Holds r := by
  obtain ⟨stored, -, -, hr⟩ := parse_ok h
  have hname : r.className = className := by rw [hr]
  exact ⟨doc, by rw [hname]; exact hdoc, by rw [hname]; exact h⟩

theorem holds_of_findOne {query : Document} {r : ClassRecord}
    (h : findOne s className query = .ok r) : s.Holds r := by
  obtain ⟨found, hfound, h⟩ := bind_eq_ok h
  cases found with
  | none => cases h
  | some doc => exact holds_of_parse (mem_of_selectFirst (ofStore_eq_ok hfound)) h

theorem holds_of_byId {id : ObjectId} {r : ClassRecord}
    (h : byId s className id = .ok (.ofClass r)) : s.Holds r := by
  rw [byId] at h
  split at h
  · cases hf : s.file? id with
    | none =>
      rw [hf] at h
      cases h
    | some file =>
      rw [hf] at h
      cases h
  · obtain ⟨found, hfound, he⟩ := map_eq_ok h
    cases he
    exact holds_of_findOne hfound

theorem holds_of_parseAll {docs : List Document} {records : List ClassRecord}
    (hdocs : ∀ doc ∈ docs, doc ∈ s.documents className)
    (h : parseAll className docs = .ok records) : ∀ r ∈ records, s.Holds r := by
  induction docs generalizing records with
  | nil =>
    cases h
    exact fun r hr => absurd hr List.not_mem_nil
  | cons doc rest ih =>
    obtain ⟨first, hfirst, h⟩ := bind_eq_ok h
    obtain ⟨others, hothers, h⟩ := bind_eq_ok h
    cases h
    intro r hr
    rcases List.mem_cons.mp hr with rfl | hm
    · exact holds_of_parse (hdocs doc List.mem_cons_self) hfirst
    · exact ih (fun d hd => hdocs d (List.mem_cons_of_mem _ hd)) hothers r hm

theorem holds_of_manyByIds {ids : List ObjectId} {records : List ClassRecord}
    (h : manyByIds s className ids = .ok records) : ∀ r ∈ records, s.Holds r := by
  rw [manyByIds] at h
  split at h
  · cases h
    exact fun r hr => absurd hr List.not_mem_nil
  · obtain ⟨docs, hdocs, h⟩ := bind_eq_ok h
    refine holds_of_parseAll (fun doc hdoc => ?_) h
    rw [find_eq_ok (ofStore_eq_ok hdocs)] at hdoc
    exact (List.mem_filter.mp hdoc).1

/-- The records on a page are among those that were fetched for it. -/
theorem mem_of_loaded {records : List ClassRecord} {ids : List ObjectId} {r : ClassRecord}
    (h : EdgeNode.loaded (.ofClass r) ∈ nodesFor records ids) : r ∈ records := by
  induction ids generalizing records with
  | nil => cases h
  | cons id rest ih =>
    rw [nodesFor] at h
    split at h
    · rename_i found hfound
      rcases List.mem_cons.mp h with he | hm
      · cases he
        exact List.mem_reverse.mp (List.mem_of_find?_eq_some hfound)
      · exact (List.mem_filter.mp (ih hm)).1
    · rcases List.mem_cons.mp h with he | hm
      · cases he
      · exact ih hm

theorem holds_of_page {c : ClassInfo} {args : Fields Datum} {page : Connection EdgeNode}
    (h : Listing.page s c args = .ok page) {edge : Edge EdgeNode} (hedge : edge ∈ page.edges)
    {r : ClassRecord} (hr : edge.node = .loaded (.ofClass r)) : s.Holds r := by
  obtain ⟨query, -, h⟩ := bind_eq_ok h
  obtain ⟨ids, -, h⟩ := bind_eq_ok h
  obtain ⟨connection, -, h⟩ := bind_eq_ok h
  obtain ⟨records, hrecords, h⟩ := bind_eq_ok h
  cases h
  have hnode := node_withNodes hedge
  rw [hr] at hnode
  exact holds_of_manyByIds hrecords r (mem_of_loaded hnode)

theorem holds_of_single {c : ClassInfo} {args : Fields Datum} {r : ClassRecord}
    (h : Listing.single s c args = .ok r) : s.Holds r := by
  rw [Listing.single] at h
  split at h
  · obtain ⟨id, -, h⟩ := bind_eq_ok h
    exact holds_of_findOne h
  · exact holds_of_findOne h

theorem holds_of_nodeByGlobalId {registry : Registry} {data : String} {r : ClassRecord}
    (h : nodeByGlobalId s registry data = .ok (.ofClass r)) : s.Holds r := by
  rw [nodeByGlobalId] at h
  split at h
  · cases h
  · split at h
    · cases h
    · split at h
      · cases h
      · exact holds_of_byId h

theorem holds_of_related {target : String} {value : Option Value} {r : ClassRecord}
    (h : related s target value = .ok (some (.ofClass r))) : s.Holds r := by
  rw [related] at h
  split at h
  · cases h
  · obtain ⟨node, hnode, he⟩ := map_eq_ok h
    cases he
    exact holds_of_byId hnode

/-- References in a stored list are not followed before they are asked for. -/
theorem not_loaded_of_mem_references {value : Option Value} {node : Node} :
    EdgeNode.loaded node ∉ references value := by
  intro h
  unfold references at h
  split at h
  · obtain ⟨item, -, he⟩ := List.mem_map.mp h
    cases hid : item.referenceId? with
    | none =>
      rw [hid] at he
      cases he
    | some id =>
      rw [hid] at he
      cases he
  · cases h

end Access

namespace Source

theorem eq_of_asConnection {source : Source} {page : Connection EdgeNode}
    (h : source.asConnection = .ok page) : source = .connection page := by
  cases source with
  | connection shown =>
    cases h
    rfl
  | _ => cases h

theorem eq_of_asEdge {source : Source} {item : Edge EdgeNode} (h : source.asEdge = .ok item) :
    source = .edge item := by
  cases source with
  | edge shown =>
    cases h
    rfl
  | _ => cases h

theorem eq_of_asPayload {source : Source} {result : MutationPayload}
    (h : source.asPayload = .ok result) : source = .payload result := by
  cases source with
  | payload shown =>
    cases h
    rfl
  | _ => cases h

end Source

namespace Resolver

open Store

variable {s : Store} {context : RequestContext} {source : Source} {args : Fields Datum}
  {value : FieldValue} {r : ClassRecord}

/-- Values of the query language show no records. -/
theorem not_shows_of_map {α : Type} {x : Option α} {f : α → Datum}
    (h : x.map (fun a => FieldValue.datum (f a)) = some value) : ¬ value.Shows r := by
  obtain ⟨a, -, rfl⟩ := Option.map_eq_some_iff.mp h
  exact FieldValue.not_shows_datum

theorem not_shows_of_recordMember {record : ClassRecord} {member : RecordMember}
    (h : member.read record = some value) : ¬ value.Shows r := by
  cases member with
  | createdAt => exact not_shows_of_map (f := fun (t : Timestamp) => .string t.iso) h
  | updatedAt => exact not_shows_of_map (f := fun (t : Timestamp) => .string t.iso) h
  | _ =>
    cases h
    exact FieldValue.not_shows_datum

theorem not_shows_of_fileMember {file : FileInfo} {member : FileMember}
    (h : member.read file = some value) : ¬ value.Shows r := by
  cases member with
  | contentType => exact not_shows_of_map (f := .string) h
  | _ =>
    cases h
    exact FieldValue.not_shows_datum

theorem not_shows_of_pageInfoMember {info : PageInfo} {member : PageInfoMember}
    (h : member.read info = some value) : ¬ value.Shows r := by
  cases member with
  | startCursor => exact not_shows_of_map (f := .string) h
  | endCursor => exact not_shows_of_map (f := .string) h
  | _ =>
    cases h
    exact FieldValue.not_shows_datum

theorem not_shows_of_projectMember {project : Project} {member : ProjectMember}
    (h : member.read project = some value) : ¬ value.Shows r := by
  cases member with
  | shortName => exact not_shows_of_map (f := .string) h
  | uniqueName => exact not_shows_of_map (f := .string) h
  | classes =>
    obtain ⟨classes, -, rfl⟩ := Option.map_eq_some_iff.mp h
    exact fun hr => FieldValue.shows_object hr
  | _ =>
    cases h
    exact FieldValue.not_shows_datum

theorem not_shows_of_projectClassesMember {classes : ProjectClasses}
    {member : ProjectClassesMember} : ¬ (member.read classes).Shows r := by
  cases member with
  | version => exact FieldValue.not_shows_datum
  | definitions => exact FieldValue.not_shows_datum

/-- The items of a page show what the page shows. -/
theorem shows_of_connectionMember {page : Connection EdgeNode} {member : ConnectionMember}
    (hr : (member.read page).Shows r) : (Source.connection page).Shows r := by
  cases member with
  | pageInfo => exact absurd (FieldValue.shows_object hr) id
  | totalCount => exact absurd hr FieldValue.not_shows_datum
  | edges =>
    obtain ⟨shown, hmem, hshows⟩ := hr
    obtain ⟨edge, hedge, rfl⟩ := List.mem_map.mp hmem
    exact ⟨edge, hedge, hshows⟩

/-- The record of a result is what the result shows. -/
theorem shows_of_payloadMember {result : MutationPayload} {member : PayloadMember}
    (h : member.read result = some value) (hr : value.Shows r) :
    (Source.payload result).Shows r := by
  cases member with
  | clientMutationId => exact absurd hr (not_shows_of_map (f := .string) h)
  | removedId => exact absurd hr (not_shows_of_map (f := .string) h)
  | record =>
    obtain ⟨record, hrecord, rfl⟩ := Option.map_eq_some_iff.mp h
    obtain rfl : record = r := FieldValue.shows_object hr
    exact hrecord

/-- Whatever a resolver that only reads answers with, its records were shown before or are held by
the store. -/
theorem holds_of_read {resolver : Resolver}
    (h : resolver.read context s source args = .ok (some value)) (hr : value.Shows r) :
    source.Shows r ∨ s.Holds r := by
  cases resolver with
  | page c =>
    obtain ⟨page, hpage, he⟩ := bind_eq_ok h
    cases he
    obtain ⟨edge, hedge, hnode⟩ := FieldValue.shows_object hr
    exact Or.inr (Access.holds_of_page hpage hedge hnode)
  | single c =>
    obtain ⟨record, hrecord, he⟩ := bind_eq_ok h
    cases he
    obtain rfl : record = r := FieldValue.shows_object hr
    exact Or.inr (Access.holds_of_single hrecord)
  | raw c =>
    obtain ⟨text, -, h⟩ := bind_eq_ok h
    obtain ⟨id, -, h⟩ := bind_eq_ok h
    obtain ⟨record, -, he⟩ := bind_eq_ok h
    cases he
    exact absurd hr FieldValue.not_shows_datum
  | node registry =>
    obtain ⟨text, -, h⟩ := bind_eq_ok h
    obtain ⟨node, hnode, he⟩ := bind_eq_ok h
    cases he
    have hshows := FieldValue.shows_ofNode hr
    cases node with
    | ofClass record =>
      obtain rfl : record = r := hshows
      exact Or.inr (Access.holds_of_nodeByGlobalId hnode)
    | ofFile file => exact absurd hshows id
  | file =>
    obtain ⟨text, -, h⟩ := bind_eq_ok h
    obtain ⟨given, -, h⟩ := bind_eq_ok h
    obtain ⟨file, -, he⟩ := bind_eq_ok h
    cases he
    exact absurd (FieldValue.shows_object hr) id
  | project =>
    cases h
    exact absurd (FieldValue.shows_object hr) id
  | mutation kind c version => cases h
  | stored name =>
    obtain ⟨record, -, he⟩ := bind_eq_ok h
    exact absurd hr (not_shows_of_map (Except.ok.inj he))
  | relation name target =>
    obtain ⟨record, -, h⟩ := bind_eq_ok h
    obtain ⟨node?, hnode, he⟩ := bind_eq_ok h
    obtain ⟨node, rfl, rfl⟩ := Option.map_eq_some_iff.mp (Except.ok.inj he)
    have hshows := FieldValue.shows_object hr
    cases node with
    | ofClass found =>
      obtain rfl : found = r := hshows
      exact Or.inr (Access.holds_of_related hnode)
    | ofFile file => exact absurd hshows id
  | relationPage name =>
    obtain ⟨record, -, h⟩ := bind_eq_ok h
    obtain ⟨page, hpage, he⟩ := bind_eq_ok h
    cases he
    obtain ⟨edge, hedge, hnode⟩ := FieldValue.shows_object hr
    have hmem := (paginate_eq_ok hpage).1 edge hedge
    rw [hnode] at hmem
    exact absurd hmem Access.not_loaded_of_mem_references
  | ofRecord member =>
    obtain ⟨record, -, he⟩ := bind_eq_ok h
    exact absurd hr (not_shows_of_recordMember (Except.ok.inj he))
  | ofFile member =>
    obtain ⟨file, -, he⟩ := bind_eq_ok h
    exact absurd hr (not_shows_of_fileMember (Except.ok.inj he))
  | ofConnection member =>
    obtain ⟨page, hpage, he⟩ := bind_eq_ok h
    cases he
    rw [Source.eq_of_asConnection hpage]
    exact Or.inl (shows_of_connectionMember hr)
  | ofPageInfo member =>
    obtain ⟨info, -, he⟩ := bind_eq_ok h
    exact absurd hr (not_shows_of_pageInfoMember (Except.ok.inj he))
  | edgeNode target =>
    obtain ⟨item, hitem, h⟩ := bind_eq_ok h
    obtain ⟨node?, hnode, he⟩ := bind_eq_ok h
    obtain ⟨node, rfl, rfl⟩ := Option.map_eq_some_iff.mp (Except.ok.inj he)
    have hshows := FieldValue.shows_object hr
    cases node with
    | ofFile file => exact absurd hshows id
    | ofClass found =>
      obtain rfl : found = r := hshows
      rw [Source.eq_of_asEdge hitem]
      cases hitemNode : item.node with
      | loaded node =>
        rw [hitemNode] at hnode
        cases hnode
        exact Or.inl hitemNode
      | pending id =>
        rw [hitemNode] at hnode
        obtain ⟨followed, hfollowed, he⟩ := map_eq_ok hnode
        cases he
        exact Or.inr (Access.holds_of_byId hfollowed)
      | missing =>
        rw [hitemNode] at hnode
        cases hnode
  | edgeCursor =>
    obtain ⟨item, -, he⟩ := bind_eq_ok h
    cases he
    exact absurd hr FieldValue.not_shows_datum
  | ofPayload member =>
    obtain ⟨result, hresult, he⟩ := bind_eq_ok h
    rw [Source.eq_of_asPayload hresult]
    exact Or.inl (shows_of_payloadMember (Except.ok.inj he) hr)
  | ofProject member =>
    obtain ⟨project, -, he⟩ := bind_eq_ok h
    exact absurd hr (not_shows_of_projectMember (Except.ok.inj he))
  | ofProjectClasses member =>
    obtain ⟨classes, -, he⟩ := bind_eq_ok h
    cases he
    exact absurd hr not_shows_of_projectClassesMember

end Resolver

namespace Mutation

/-- The record that a mutation answers with is held by the store afterwards. -/
theorem holds_of_run {kind : MutationKind} {s : Store} {c : ClassInfo} {version : Int}
    {input : Fields Datum} {result : MutationPayload}
    (h : (run kind s c version input).1 = .ok result) {r : ClassRecord}
    (hr : result.record = some r) : (run kind s c version input).2.Holds r := by
  cases hi : intent kind s c input with
  | error e =>
    rw [(run_refused hi).1] at h
    cases h
  | ok i =>
    obtain ⟨hanswer, hwrote⟩ : (run kind s c version input).1 = answer kind c.name input i.id _ ∧
        s.Wrote (run kind s c version input).2 c.name
          (i.writes version s.clock (s.documents c.name)) := run_accepted hi
    rw [hanswer] at h
    have hread : ∀ doc?, (Access.parse c.name doc?).map (payloadOf input) = .ok result →
        ∃ doc, doc? = some doc ∧ Access.parse c.name (some doc) = .ok r := by
      intro doc? hmap
      obtain ⟨record, hrecord, rfl⟩ := map_eq_ok hmap
      cases hr
      cases doc? with
      | none => cases hrecord
      | some doc => exact ⟨doc, rfl, hrecord⟩
    have hwritten : ∃ doc, i.written version s.clock (s.documents c.name) = some doc ∧
        Access.parse c.name (some doc) = .ok r := by
      cases kind with
      | remove =>
        cases hw : i.written version s.clock (s.documents c.name) with
        | none =>
          rw [hw] at h
          cases h
        | some doc =>
          rw [hw] at h
          cases h
          cases hr
      | create => exact hread _ h
      | update => exact hread _ h
      | replace => exact hread _ h
      | recover => exact hread _ h
    obtain ⟨doc, hdoc, hparse⟩ := hwritten
    refine Access.holds_of_parse ?_ hparse
    rw [hwrote.1 c.name, if_pos rfl]
    exact mem_of_written hdoc

end Mutation

end ClassApi
