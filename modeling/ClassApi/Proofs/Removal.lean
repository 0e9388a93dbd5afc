import ClassApi.Proofs.Ids
import ClassApi.Proofs.Provenance
import ClassApi.Proofs.View

/-!
# Removed records stay hidden

A record that is marked as removed is not read by any resolver, whichever fields are asked for and
whatever mutations are made in between, until it is recovered. Two facts make this so. Every record
that is shown comes from a document that reads as one, and a document that carries the mark does
not; and no mutation takes the mark away but recovering the record. Ids that are given out have to
be new, since otherwise another record might take the place.
-/

namespace ClassApi

/-- Whether a call asks for the record of a class with an id to be recovered. -/
def MutationCall.Recovers (call : MutationCall) (className : String) (id : ObjectId) : Prop :=
  call.kind = .recover ∧ lowerText call.cls.name = lowerText className ∧
  Mutation.requiredId call.input = .ok id

namespace Store

open Mutation

/-- Whether the documents of a class have ids of their own and the one with an id is marked as
removed. -/
structure RemovedAt (s : Store) (className : String) (id : ObjectId) : Prop where
  /-- Every document has an id of its own. -/
  unique : UniqueIds (s.documents className)
  /-- The record is there, with the mark. -/
  marked : ∃ doc ∈ s.documents className, idOf doc = some id ∧
    Fields.get? doc "_deleted" = some (.bool true)

/-- The store as it would be if there were no record with an id. -/
def without (s : Store) (className : String) (id : ObjectId) : Store :=
  s.withDocuments className ((s.documents className).filter fun doc => decide (idOf doc ≠ some id))

/-- Why a removed record is not fetched: it is marked, provided that it can be read at all. -/
def removalError (s : Store) (className : String) (id : ObjectId) : ResolveError :=
  if ((s.get? className id).bind StoredRecord.ofDocument?).isSome then .removed className
  else .storage .invalidRecord

variable {s : Store} {className : String} {id : ObjectId}

theorem RemovedAt.congr (h : s.RemovedAt className id) {name : String}
    (hname : lowerText name = lowerText className) : s.RemovedAt name id := by
  obtain ⟨hunique, hmarked⟩ := h
  rw [← documents_congr s hname] at hunique hmarked
  exact ⟨hunique, hmarked⟩

/-- The document with the id, and no other, is the removed record. -/
theorem RemovedAt.deleted (h : s.RemovedAt className id) {doc : Document}
    (hdoc : doc ∈ s.documents className) (hid : idOf doc = some id) :
    Fields.get? doc "_deleted" = some (.bool true) := by
  obtain ⟨marked, hmarked, hmarkedId, hdeleted⟩ := h.marked
  rw [h.unique.eq_of_idOf hdoc hmarked (hid.trans hmarkedId.symm)]
  exact hdeleted

/-- No record that the store holds is the removed one. -/
theorem RemovedAt.ne_of_holds (h : s.RemovedAt className id) {r : ClassRecord} (hr : s.Holds r)
    (hname : lowerText r.className = lowerText className) : r.id ≠ id := by
  rintro rfl
  obtain ⟨doc, hdoc, hparse⟩ := hr
  rw [documents_congr s hname] at hdoc
  obtain ⟨stored, hstored, hlive, hrecord⟩ := Access.parse_ok hparse
  obtain ⟨hreadId, -, -, hreadDeleted⟩ := StoredRecord.ofDocument?_eq_some hstored
  obtain ⟨x, hx⟩ := h.unique.present doc hdoc
  have hsame : x = r.id := by
    rw [get?_of_idOf hx] at hreadId
    cases hreadId
    rw [hrecord]
  rw [h.deleted hdoc (hx.trans (congrArg some hsame)), hlive] at hreadDeleted
  cases hreadDeleted

/-! ## Fetching -/

theorem RemovedAt.classById (h : s.RemovedAt className id) :
    Access.classById s className id = .error (s.removalError className id) := by
  obtain ⟨doc, hdoc, hid, hdeleted⟩ := h.marked
  have hfound := h.unique.find?_eq_some_iff.mpr ⟨hdoc, hid⟩
  rw [Access.classById_eq, hfound, removalError, h.unique.get?_eq, hfound, Option.bind_some,
    Access.parse, StoredRecord.ofDocument]
  cases hr : StoredRecord.ofDocument? doc with
  | none => rfl
  | some stored =>
    obtain ⟨-, -, -, hread⟩ := StoredRecord.ofDocument?_eq_some hr
    rw [hdeleted] at hread
    have hmark : stored.deleted = true := (Option.some.inj hread).symm
    simp only [hmark, if_pos, Option.isSome_some]

theorem RemovedAt.byId (h : s.RemovedAt className id) (hfile : className ≠ fileClass) :
    Access.byId s className id = .error (s.removalError className id) := by
  rw [Access.byId, if_neg hfile, h.classById]
  rfl

/-! ## Lists -/

theorem find_without {query : Document} {sort projection : Option Document} {found : List Document}
    (h : s.find className query sort projection = .ok found)
    (hnot : ∀ doc ∈ s.documents className, idOf doc = some id → chosen query doc = false) :
    (s.without className id).find className query sort projection = .ok found := by
  refine find_filter h fun doc hdoc hkeep => hnot doc hdoc ?_
  exact not_not.mp (of_decide_eq_false hkeep)

/-- A list query does not find a removed record, and it finds the same without that record. -/
theorem RemovedAt.findIds (h : s.RemovedAt className id) {query : Document} {sort : Option Document}
    {ids : List ObjectId} (hids : Access.findIds s className query sort = .ok ids) :
    id ∉ ids ∧ Access.findIds (s.without className id) className query sort = .ok ids := by
  refine ⟨fun hmem => ?_, ?_⟩
  · obtain ⟨doc, hdoc, hid, hdeleted⟩ := Access.mem_findIds hids hmem
    exact hdeleted (h.deleted hdoc hid)
  · obtain ⟨docs, hdocs, hrest⟩ := bind_eq_ok hids
    have hfound := find_without (ofStore_eq_ok hdocs) fun doc hdoc hid =>
      not_chosen_of_removed (h.deleted hdoc hid) query
    rw [Access.findIds, hfound]
    exact hrest

/-- Fetching records by other ids finds the same without a record. -/
theorem manyByIds_without {ids : List ObjectId} (hid : id ∉ ids) {records : List ClassRecord}
    (hrecords : Access.manyByIds s className ids = .ok records) :
    Access.manyByIds (s.without className id) className ids = .ok records := by
  rw [Access.manyByIds] at hrecords ⊢
  split at hrecords
  · rename_i hempty
    rw [if_pos hempty]
    exact hrecords
  · rename_i hempty
    rw [if_neg hempty]
    obtain ⟨docs, hdocs, hrest⟩ := bind_eq_ok hrecords
    have hfound : (s.without className id).find className _ none none = .ok docs :=
      find_without (ofStore_eq_ok hdocs) fun doc _ hdocId => ?_
    · simp only [hfound]
      exact hrest
    · rw [Bool.eq_false_iff]
      exact fun hchosen => hid (mem_of_chosen_ids hdocId hchosen)

/-- A page of a list query is the same without a removed record, which its count leaves out. -/
theorem RemovedAt.page {c : ClassInfo} (h : s.RemovedAt c.name id) {args : Fields Datum}
    {page : Connection EdgeNode} (hpage : Listing.page s c args = .ok page) :
    Listing.page (s.without c.name id) c args = .ok page ∧
    ∃ query ids,
      Access.findIds s c.name query (Listing.orderToSort c (Fields.get? args "orderBy")) = .ok ids ∧
      id ∉ ids ∧ page.totalCount = ids.length := by
  obtain ⟨query, hquery, hrest⟩ := bind_eq_ok hpage
  obtain ⟨ids, hids, hrest⟩ := bind_eq_ok hrest
  obtain ⟨connection, hconnection, hrest⟩ := bind_eq_ok hrest
  obtain ⟨records, hrecords, hrest⟩ := bind_eq_ok hrest
  obtain ⟨hnot, hwithout⟩ := h.findIds hids
  obtain ⟨hitems, hcount⟩ := paginate_eq_ok hconnection
  have hpageIds : id ∉ connection.edges.map Edge.node := by
    intro hmem
    obtain ⟨edge, hedge, rfl⟩ := List.mem_map.mp hmem
    exact hnot (hitems edge hedge)
  have hmany := manyByIds_without hpageIds hrecords
  refine ⟨?_, query, ids, hids, hnot, ?_⟩
  · rw [Listing.page, hquery]
    show (Access.findIds (s.without c.name id) c.name query _ >>= _) = _
    rw [hwithout]
    show (paginate ids _ >>= _) = _
    rw [hconnection]
    show (Access.manyByIds (s.without c.name id) c.name _ >>= _) = _
    rw [hmany]
    exact hrest
  · cases hrest
    exact hcount

/-! ## Mutations -/

/-- Writing keeps the mark of a removed record, unless it takes just that away. -/
theorem deleted_stamped {i : Intent} (hn : ∀ data, i.data? = some data → (Fields.names data).Nodup)
    (hmark : i ≠ .mark i.id false) (version : Int) (clock : Timestamp) {doc : Document}
    (h : Fields.get? doc "_deleted" = some (.bool true)) :
    Fields.get? (stamped (i.members version) clock doc) "_deleted" = some (.bool true) := by
  have hrecord :
      ∀ data, Fields.get? (stamped (Intent.recordMembers version data) clock doc) "_deleted" =
      some (.bool true) := by
    intro data
    rw [get?_stamped_recordMembers data version clock doc (by decide), h]
    rfl
  cases i with
  | insert id data => exact hrecord data
  | replace id data => exact hrecord data
  | merge id data => rw [get?_deleted_stamped_merge (hn data rfl), h]
  | mark id removed =>
    cases removed with
    | false => exact absurd rfl hmark
    | true =>
      rw [get?_stamped_mark id true version clock doc (by decide)]
      rfl

/-- Only recovering takes the mark away. -/
theorem recovers_of_intent {call : MutationCall} {x : ObjectId}
    (h : call.intent s = .ok (.mark x false))
    (hname : lowerText call.cls.name = lowerText className) : call.Recovers className x := by
  rcases intent_cases h with ⟨-, data, -, he⟩ | ⟨-, given, data, -, -, he⟩ |
    ⟨-, given, data, -, -, he⟩ | ⟨-, given, -, he⟩ | ⟨hkind, given, hgiven, he⟩
  · cases he
  · cases he
  · cases he
  · cases he
  · cases he
    exact ⟨hkind, hname, hgiven⟩

/-- What a write makes of the documents of a class keeps a removed record, unless it takes just the
mark away. -/
theorem marked_writes {docs : List Document} (hunique : UniqueIds docs) {i : Intent}
    (hfresh : i.Fresh docs) (hn : ∀ data, i.data? = some data → (Fields.names data).Nodup)
    (hmark : i ≠ .mark id false) (version : Int) (clock : Timestamp)
    (h : ∃ doc ∈ docs, idOf doc = some id ∧ Fields.get? doc "_deleted" = some (.bool true)) :
    ∃ doc ∈ i.writes version clock docs, idOf doc = some id ∧
      Fields.get? doc "_deleted" = some (.bool true) := by
  obtain ⟨doc, hdoc, hid, hdeleted⟩ := h
  have hfound := hunique.find?_eq_some_iff.mpr ⟨hdoc, hid⟩
  have hafter : UniqueIds (i.writes version clock docs) := Intent.uniqueIds_writes hunique hfresh
  by_cases hi : id = i.id
  · have hself : (i.writes version clock docs).find? (answersTo i.id) = _ :=
      Intent.find?_writes_self hfresh
    rcases Intent.writes_cases version clock hfresh with
      ⟨old, hold, -, hwritten⟩ | ⟨hnone, -⟩ | ⟨hnone, -⟩
    · rw [← hi, hfound] at hold
      cases hold
      rw [hwritten] at hself
      obtain ⟨hmem, hstored⟩ := hafter.find?_eq_some_iff.mp hself
      rw [← hi] at hstored
      rw [hi] at hmark
      exact ⟨_, hmem, hstored, deleted_stamped hn hmark version clock hdeleted⟩
    · rw [← hi, hfound] at hnone
      cases hnone
    · rw [← hi, hfound] at hnone
      cases hnone
  · have hother : (i.writes version clock docs).find? (answersTo id) = _ :=
      Intent.find?_writes_other hunique hfresh hi
    rw [hfound] at hother
    obtain ⟨hmem, -⟩ := hafter.find?_eq_some_iff.mp hother
    exact ⟨doc, hmem, hid, hdeleted⟩

/-- A mutation keeps a removed record removed, unless it recovers the record. -/
theorem RemovedAt.run (h : s.RemovedAt className id) {call : MutationCall} (hnew : s.DrawsNew call)
    (hrecover : ¬ call.Recovers className id) : (call.run s).2.RemovedAt className id := by
  cases hi : call.intent s with
  | error e =>
    have hsame : s.SameRecords (call.run s).2 := (run_refused hi).2
    obtain ⟨hunique, hmarked⟩ := h
    rw [← hsame.1 className] at hunique hmarked
    exact ⟨hunique, hmarked⟩
  | ok i =>
    have hwrote : s.Wrote (call.run s).2 call.cls.name _ := (run_accepted hi).2
    have hdocs := hwrote.1 className
    by_cases hname : lowerText className = lowerText call.cls.name
    · rw [if_pos hname] at hdocs
      have hclass := h.congr hname.symm
      have hfresh := fresh_of_intent hi hclass.unique hnew
      have hn : ∀ data, i.data? = some data → (Fields.names data).Nodup := fun data hd =>
        resolveInput_nodup (resolveInput_of_intent hi hd)
      have hmark : i ≠ .mark id false := by
        rintro rfl
        exact hrecover (recovers_of_intent hi hname.symm)
      refine ⟨?_, ?_⟩
      · rw [hdocs]
        exact Intent.uniqueIds_writes hclass.unique hfresh
      · rw [hdocs]
        exact marked_writes hclass.unique hfresh hn hmark call.version s.clock hclass.marked
    · rw [if_neg hname] at hdocs
      obtain ⟨hunique, hmarked⟩ := h
      rw [← hdocs] at hunique hmarked
      exact ⟨hunique, hmarked⟩

end Store

end ClassApi
