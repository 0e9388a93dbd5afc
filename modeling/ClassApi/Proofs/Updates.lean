import ClassApi.Proofs.Merging
import ClassApi.Proofs.RecordMap
import ClassApi.Proofs.RoundTrip
import ClassApi.Proofs.Unmarked

/-!
# What an update changes and what it does not

In a store whose documents have ids of their own, an update merges data into one document at most,
and that document stays where it is. If the input has no marks, a document that decodes still does
so after the merge, and it is removed just when it was before. So a record is found, is missing or
is removed after an update as it was before, and every other call reads its input in the same way
and fails in the same way, if it does.
-/

namespace ClassApi

/-! ## Failures -/

theorem MutationCall.failure_eq (call : MutationCall) (s : Store) :
    call.failure s = failureOf (call.run s).1 := by
  rw [failure]
  cases (call.run s).1 with
  | error e => rfl
  | ok payload => rfl

namespace Store

/-- Whether every document of a store has an id of its own and decodes. -/
structure Decodes (s : Store) : Prop where
  /-- Every document has an id of its own. -/
  unique : ∀ className, UniqueIds (s.documents className)
  /-- Every document is read as a record. -/
  decodes : ∀ className, ∀ doc ∈ s.documents className,
    ∃ record, StoredRecord.ofDocument? doc = some record

/-- Whether two stores hold the same files, and records are found, missing and removed in both
alike. -/
structure ReadsAlike (s t : Store) : Prop where
  /-- The files are the same. -/
  files : t.files = s.files
  /-- Fetching a record fails in the same way, if it does. -/
  failures : ∀ className id, failureOf (Access.classById t className id) =
    failureOf (Access.classById s className id)

end Store

namespace Access

/-- References are verified in such stores alike. -/
theorem verifyReference_congr {s t : Store} (h : s.ReadsAlike t) (target raw : String) :
    verifyReference t target raw = verifyReference s target raw := by
  have hfile : ∀ id, t.file? id = s.file? id := fun id => by rw [Store.file?, Store.file?, h.files]
  rw [verifyReference, verifyReference]
  cases ObjectId.ofClient? raw with
  | none => rfl
  | some id =>
    have hfailure := h.failures target id
    simp only [byId, hfile]
    by_cases hclass : target = fileClass
    · simp only [if_pos hclass]
    · simp only [if_neg hclass]
      cases ht : classById t target id with
      | error e =>
        cases hs : classById s target id with
        | error e' =>
          rw [ht, hs] at hfailure
          cases hfailure
          rfl
        | ok record =>
          rw [ht, hs] at hfailure
          cases hfailure
      | ok record =>
        cases hs : classById s target id with
        | error e' =>
          rw [ht, hs] at hfailure
          cases hfailure
        | ok record' => rfl

/-- Whether a document is found or not, a change that leaves it readable, and removed or not,
changes no failure. -/
theorem failureOf_parse_map {className : String} {found : Option Document} {f : Document → Document}
    (h : ∀ doc, found = some doc → ∃ record record', StoredRecord.ofDocument? doc = some record ∧
      StoredRecord.ofDocument? (f doc) = some record' ∧ record'.deleted = record.deleted) :
    failureOf (parse className (found.map f)) = failureOf (parse className found) := by
  cases found with
  | none => rfl
  | some doc =>
    obtain ⟨record, record', hrecord, hrecord', hdeleted⟩ := h doc rfl
    rw [Option.map_some, parse, parse, StoredRecord.ofDocument, StoredRecord.ofDocument,
      hrecord, hrecord']
    simp only [hdeleted]
    cases record.deleted with
    | true => rfl
    | false => rfl

end Access

/-! ## Merging data into a document -/

namespace Store

open StoredRecord

/-- A document after data was merged into it, if any was. -/
def mergedIf (version : Int) (clock : Timestamp) : Option Document → Document → Document
  | some data, doc => merged version clock data doc
  | none, doc => doc

variable {data doc : Document} {record : StoredRecord}

/-- The data after a merge: a document with the merged members, unless there are none of them. -/
theorem get?_data_merged (version : Int) (clock : Timestamp) (data doc : Document) :
    Fields.get? (merged version clock data doc) "data" =
      if data = [] then Fields.get? doc "data"
      else some (.document (Update.setAll (Path.inner doc "data") data)) := by
  rw [merged_eq, Fields.get?_insert_of_ne _ _ (by decide), Fields.get?_insert_of_ne _ _ (by decide)]
  by_cases hne : data = []
  · rw [if_pos hne, hne]
    rfl
  · rw [if_neg hne, Update.get?_setAll_below_of_ne_nil doc (by decide) hne]

theorem inner_merged (version : Int) (clock : Timestamp) (data doc : Document) :
    Path.inner (merged version clock data doc) "data" =
      Update.setAll (Path.inner doc "data") data := by
  by_cases hne : data = []
  · have hget := get?_data_merged version clock data doc
    rw [if_pos hne] at hget
    rw [inner_congr hget, hne]
    rfl
  · have hget := get?_data_merged version clock data doc
    rw [if_neg hne] at hget
    exact Path.inner_of_get? hget

/-- The data of a document that decodes can be read, member by member. -/
theorem readable_inner (h : ofDocument? doc = some record) : Readable (Path.inner doc "data") := by
  obtain ⟨-, hdata, -⟩ := ofDocument?_eq_some_iff.mp h
  cases hget : Fields.get? doc "data" with
  | none =>
    have hinner : Path.inner doc "data" = [] := by rw [Path.inner, hget]
    rw [hinner]
    exact fun member hmember => absurd hmember List.not_mem_nil
  | some value =>
    rw [hget] at hdata
    cases value with
    | document members =>
      rw [Path.inner_of_get? hget]
      obtain ⟨read, hread, hdocument⟩ := Option.bind_eq_some_iff.mp hdata
      cases read with
      | document result => exact exists_rereadMembers_iff.mp ⟨result, hread⟩
      | _ => cases hdocument
    | _ => cases hdata

/-- A document that decodes still does so when data that can be read was merged into it, and it is
removed as before. -/
theorem exists_ofDocument?_merged (hplain : Update.Plain data) (hreadable : Readable data)
    (version : Int) (clock : Timestamp) (h : ofDocument? doc = some record) :
    ∃ record', ofDocument? (merged version clock data doc) = some record' ∧
      record'.deleted = record.deleted := by
  obtain ⟨hid, hdata, -, hdeleted, hcreated, -⟩ := ofDocument?_eq_some_iff.mp h
  have hread : ∃ found, readData (Fields.get? (merged version clock data doc) "data") =
      some found := by
    rw [get?_data_merged]
    split
    · exact ⟨record.data, hdata⟩
    · have hall : Readable (Update.setAll (Path.inner doc "data") data) := by
        intro member hmember
        rcases hplain.mem_setAll hmember with hnew | hold
        · exact hreadable member hnew
        · exact readable_inner h member hold
      obtain ⟨result, hresult⟩ := exists_rereadMembers_iff.mpr hall
      exact ⟨result, by rw [readData, hresult]; rfl⟩
  obtain ⟨found, hfound⟩ := hread
  refine ⟨⟨record.id, found, version, record.deleted, record.createdAt, some clock⟩,
    ofDocument?_eq_some_iff.mpr ?_, rfl⟩
  have hkept : ∀ name ∉ ["data", "_classVersion", "updatedAt"],
      Fields.get? (merged version clock data doc) name = Fields.get? doc name :=
    fun name hname => get?_merged_of_ne version clock data doc hname
  rw [hkept "_id" (by decide), hkept "_deleted" (by decide), hkept "createdAt" (by decide),
    get?_version_merged, get?_time_merged]
  exact ⟨hid, hfound, rfl, hdeleted, hcreated, by simp [readTime, reread]⟩

theorem answersTo_mergedIf (version : Int) (clock : Timestamp) (given : Option Document)
    (id : ObjectId) (doc : Document) :
    answersTo id (mergedIf version clock given doc) = answersTo id doc := by
  cases given with
  | none => rfl
  | some data => exact answersTo_congr (get?_merged_of_ne version clock data doc (by decide)) id

/-- Changing the first document that answers to an id is changing all that do, when documents have
ids of their own. -/
theorem changeFirst_eq_map {docs : List Document} (h : UniqueIds docs) (id : ObjectId)
    (f : Document → Document) :
    changeFirst (answersTo id) f docs =
      docs.map fun doc => if answersTo id doc = true then f doc else doc := by
  induction docs with
  | nil => rfl
  | cons head rest ih =>
    have hrest : UniqueIds rest :=
      ⟨fun doc hdoc => h.present doc (List.mem_cons_of_mem _ hdoc), (List.nodup_cons.mp h.nodup).2⟩
    rw [changeFirst, List.map_cons]
    by_cases hhead : answersTo id head = true
    · -- no other document answers to the id
      have hother : ∀ doc ∈ rest, (if answersTo id doc = true then f doc else doc) = doc := by
        intro doc hdoc
        refine if_neg fun hdoc' => ?_
        have hid := (h.answersTo_iff List.mem_cons_self id).mp hhead
        have hid' := (h.answersTo_iff (List.mem_cons_of_mem _ hdoc) id).mp hdoc'
        exact (List.nodup_cons.mp h.nodup).1 (hid.trans hid'.symm ▸ List.mem_map_of_mem hdoc)
      rw [if_pos hhead, if_pos hhead, List.map_congr_left hother, List.map_id']
    · rw [if_neg hhead, if_neg hhead, ih hrest]

end Store

/-! ## Running an update -/

/-- An update that clients ask for. -/
def MutationCall.update (c : ClassInfo) (version : Int) (input : Fields Datum) : MutationCall where
  kind := .update
  cls := c
  version := version
  input := input

namespace Mutation

open Store

/-- The data that an update merges into a document of a class, if it is one that the update is
about. -/
def given (s : Store) (c : ClassInfo) (input : Fields Datum) (className : String)
    (doc : Document) : Option Document :=
  match intent .update s c input with
  | .ok i => if lowerText className = lowerText c.name ∧
    answersTo i.id doc = true then i.data? else none
  | .error _ => none

/-- Whether no value that the input gives to a field has names that begin with a dollar sign. -/
def Unmarked (c : ClassInfo) (input : Fields Datum) : Prop :=
  ∀ name value f, Gives c input name value f → f.Unmarked value

variable {definitions : List ClassDefinition} {r : Registry} {s : Store} {c : ClassInfo}
  {input : Fields Datum}

theorem intent_update {i : Intent} (h : intent .update s c input = .ok i) :
    ∃ id data, requiredId input = .ok id ∧ resolveInput s c input = .ok data ∧
      i = .merge id data := by
  obtain ⟨id, hid, h⟩ := bind_eq_ok h
  obtain ⟨data, hdata, h⟩ := bind_eq_ok h
  cases h
  exact ⟨id, data, hid, hdata, rfl⟩

/-- An update that is refused gives no data to any document. -/
theorem given_of_refused {e : ResolveError} (h : intent .update s c input = .error e)
    (className : String) (doc : Document) :
    given s c input className doc = none := by
  rw [given, h]

/-- An update gives its data to the document with its id. -/
theorem given_of_intent {id : ObjectId} {data : Document}
    (h : intent .update s c input = .ok (.merge id data)) (className : String) (doc : Document) :
    given s c input className doc =
      if lowerText className = lowerText c.name ∧
        answersTo id doc = true then some data else none := by
  rw [given, h]
  rfl

theorem of_given {className : String} {doc data : Document}
    (h : given s c input className doc = some data) :
    ∃ id, requiredId input = .ok id ∧ resolveInput s c input = .ok data ∧
      lowerText className = lowerText c.name ∧ answersTo id doc = true := by
  cases hintent : intent .update s c input with
  | error e =>
    rw [given_of_refused hintent] at h
    cases h
  | ok i =>
    obtain ⟨id, given, hid, hdata, rfl⟩ := intent_update hintent
    rw [given_of_intent hintent] at h
    by_cases hmatches : lowerText className = lowerText c.name ∧ answersTo id doc = true
    · rw [if_pos hmatches] at h
      cases h
      exact ⟨id, hid, hdata, hmatches⟩
    · rw [if_neg hmatches] at h
      cases h

/-- The data that an accepted class gets is plain. -/
theorem plain_resolveInput (hr : Registry.ofDefinitions definitions = .ok r) (hc : c ∈ r.classes)
    {data : Document} (h : resolveInput s c input = .ok data) : Update.Plain data :=
  ⟨resolveInput_isPlain hr hc h, resolveInput_nodup h⟩

/-- The data that an accepted class gets from input without marks can be read. -/
theorem readable_resolveInput (hr : Registry.ofDefinitions definitions = .ok r) (hc : c ∈ r.classes)
    (hu : Unmarked c input) {data : Document} (h : resolveInput s c input = .ok data) :
    StoredRecord.Readable data := by
  have hmark : ¬ (Value.document data).carriesMark = true := by
    rw [carriesMark_data_iff hr hc h]
    rintro ⟨⟨name, stored⟩, hmember, hcarries⟩
    obtain ⟨value, f, hgives, hresolved⟩ := mem_resolveInput h hmember
    have hplain := carriesMark_resolveValue (hu name value f hgives) hresolved
    rw [hplain] at hcarries
    cases hcarries
  rw [Bool.not_eq_true, Value.carriesMark] at hmark
  exact StoredRecord.exists_rereadMembers_iff.mp (StoredRecord.exists_rereadMembers data [] hmark)

/-- An update merges its data into the documents that it is about and leaves all documents where
they are. -/
theorem documents_update (hs : ∀ className, UniqueIds (s.documents className)) (c : ClassInfo)
    (version : Int) (input : Fields Datum) (className : String) :
    ((MutationCall.update c version input).run s).2.documents className =
      (s.documents className).map fun doc =>
        mergedIf version s.clock (given s c input className doc) doc := by
  have hsame : (∀ doc, given s c input className doc = none) →
      (s.documents className).map (fun doc =>
        mergedIf version s.clock (given s c input className doc) doc) =
        s.documents className := by
    intro hnone
    simp only [hnone, mergedIf, List.map_id']
  cases hintent : intent .update s c input with
  | error e =>
    rw [hsame (given_of_refused hintent className)]
    exact (run_refused hintent).2.1 className
  | ok i =>
    obtain ⟨id, data, -, hdata, rfl⟩ := intent_update hintent
    have hgiven := given_of_intent hintent className
    have hwrites : Intent.writes version s.clock (s.documents c.name) (.merge id data) =
        changeFirst (answersTo id) (stamped (Intent.members version (.merge id data)) s.clock)
          (s.documents c.name) := rfl
    have hwrote : s.Wrote ((MutationCall.update c version input).run s).2 c.name
        (Intent.writes version s.clock (s.documents c.name) (.merge id data)) :=
      (run_accepted hintent).2
    rw [hwrote.1 className]
    by_cases hclass : lowerText className = lowerText c.name
    · rw [if_pos hclass, hwrites, changeFirst_eq_map (hs c.name), ← s.documents_congr hclass]
      refine List.map_congr_left fun doc _ => ?_
      rw [hgiven]
      by_cases hanswers : answersTo id doc = true
      · rw [if_pos hanswers, if_pos ⟨hclass, hanswers⟩,
          stamped_members_merge (resolveInput_nodup hdata)]
        rfl
      · rw [if_neg hanswers, if_neg fun h => hanswers h.2]
        rfl
    · rw [if_neg hclass, hsame fun doc => by rw [hgiven, if_neg fun h => hclass h.1]]

section Accepted

variable (hr : Registry.ofDefinitions definitions = .ok r) (hc : c ∈ r.classes)
  (hu : Unmarked c input)

include hr hc hu

/-- After an update, documents that decoded still do, and they are removed as before. -/
theorem exists_ofDocument?_given (version : Int) (clock : Timestamp) {className : String}
    {doc : Document} {record : StoredRecord} (h : StoredRecord.ofDocument? doc = some record) :
    ∃ record', StoredRecord.ofDocument?
      (mergedIf version clock (given s c input className doc) doc) = some record' ∧
      record'.deleted = record.deleted := by
  cases hgiven : given s c input className doc with
  | none => exact ⟨record, h, rfl⟩
  | some data =>
    obtain ⟨id, -, hdata, -⟩ := of_given hgiven
    exact exists_ofDocument?_merged (plain_resolveInput hr hc hdata)
      (readable_resolveInput hr hc hu hdata) version clock h

theorem decodes_update (hs : s.Decodes) (version : Int) :
    ((MutationCall.update c version input).run s).2.Decodes := by
  have hdraws : s.DrawsNew (MutationCall.update c version input) := fun h => nomatch h
  refine ⟨uniqueIds_run hs.unique hdraws, fun className doc hdoc => ?_⟩
  rw [documents_update hs.unique] at hdoc
  obtain ⟨old, hold, rfl⟩ := List.mem_map.mp hdoc
  obtain ⟨record, hrecord⟩ := hs.decodes className old hold
  obtain ⟨record', hrecord', -⟩ := exists_ofDocument?_given hr hc hu version s.clock hrecord
  exact ⟨record', hrecord'⟩

/-- Records are found, missing and removed after an update as they were before. -/
theorem readsAlike_update (hs : s.Decodes) (version : Int) :
    s.ReadsAlike ((MutationCall.update c version input).run s).2 := by
  refine ⟨files_run, fun className id => ?_⟩
  have hanswers :
      (answersTo id ∘ fun doc => mergedIf version s.clock (given s c input className doc) doc) =
        answersTo id :=
    funext fun doc => answersTo_mergedIf version s.clock _ id doc
  rw [Access.classById_eq, Access.classById_eq, documents_update hs.unique,
    List.find?_map, hanswers]
  refine Access.failureOf_parse_map fun doc hfound => ?_
  obtain ⟨record, hrecord⟩ := hs.decodes className doc (List.mem_of_find?_eq_some hfound)
  obtain ⟨record', hrecord', hdeleted⟩ := exists_ofDocument?_given hr hc hu version s.clock hrecord
  exact ⟨record, record', hrecord, hrecord', hdeleted⟩

/-- An update fails when its input is refused, and otherwise as fetching the record does, before the
update as well as after. -/
theorem failure_update (hs : s.Decodes) (version : Int) :
    (MutationCall.update c version input).failure s =
      match intent .update s c input with
      | .error e => some e
      | .ok i => failureOf (Access.classById s c.name i.id) := by
  rw [MutationCall.failure_eq]
  cases hintent : intent .update s c input with
  | error e =>
    have hrun : ((MutationCall.update c version input).run s).1 = .error e :=
      (run_refused hintent).1
    rw [hrun]
    rfl
  | ok i =>
    obtain ⟨id, data, -, hdata, rfl⟩ := intent_update hintent
    have hrun : ((MutationCall.update c version input).run s).1 =
        (Access.parse c.name (((s.documents c.name).find? (answersTo id)).map
          (stamped (Intent.members version (.merge id data)) s.clock))).map (payloadOf input) :=
      (run_accepted hintent).1
    show _ = failureOf (Access.classById s c.name id)
    rw [hrun, failureOf_map, Access.classById_eq]
    refine Access.failureOf_parse_map fun doc hfound => ?_
    obtain ⟨record, hrecord⟩ := hs.decodes c.name doc (List.mem_of_find?_eq_some hfound)
    obtain ⟨record', hrecord', hdeleted⟩ :=
      exists_ofDocument?_merged (plain_resolveInput hr hc hdata)
      (readable_resolveInput hr hc hu hdata) version s.clock hrecord
    rw [← stamped_members_merge (resolveInput_nodup hdata) version s.clock id] at hrecord'
    exact ⟨record, record', hrecord, hrecord', hdeleted⟩

end Accepted

/-- An update has the same intent in stores that read alike. -/
theorem intent_update_congr {t : Store} (h : s.ReadsAlike t) (c : ClassInfo)
    (input : Fields Datum) : intent .update t c input = intent .update s c input := by
  rw [intent, intent, resolveInput_congr (Access.verifyReference_congr h)]

theorem given_congr {t : Store} (h : s.ReadsAlike t) (c : ClassInfo) (input : Fields Datum) :
    given t c input = given s c input := by
  funext className doc
  rw [given, given, intent_update_congr h]

/-- The data that an update merges into a document does not depend on what was merged into the
document before. -/
theorem given_mergedIf (s : Store) (c : ClassInfo) (input : Fields Datum) (className : String)
    (version : Int) (clock : Timestamp) (data : Option Document) (doc : Document) :
    given s c input className (mergedIf version clock data doc) =
      given s c input className doc := by
  simp only [given, answersTo_mergedIf]

end Mutation

end ClassApi
