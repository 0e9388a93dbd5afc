import ClassApi.Proofs.RecordMap

/-!
# The shape of stored records

A record that a mutation writes has six members, each with a value of a kind of its own, and its
data has no names but those of the fields of its class. A new record is written with all of them. A
change writes to paths that begin with three of them, and to the time of the last change, so it adds
no member; and it puts a value of the same kind where one was. What carries a run is that every
document of every class has this shape and an id of its own.
-/

namespace ClassApi

/-! ## The shape of a record -/

/-- The members of a stored record. -/
def recordNames : List String :=
  ["_id", "data", "_classVersion", "_deleted", "createdAt", "updatedAt"]

/-- Whether a document has the members of a record and no others, each with a value of its kind, and
data for some fields only. -/
structure RecordShape (fields : List String) (doc : Document) : Prop where
  /-- The members are those of a record, each of them once. -/
  names : (Fields.names doc).Perm recordNames
  /-- The id. -/
  id : ∃ id, Fields.get? doc "_id" = some (.objectId id)
  /-- The data, with no names but those of the fields. -/
  data : ∃ data, Fields.get? doc "data" = some (.document data) ∧
    ∀ name ∈ Fields.names data, name ∈ fields
  /-- The version of the class definitions. -/
  version : ∃ version, Fields.get? doc "_classVersion" = some (.int64 version)
  /-- The mark of removal. -/
  deleted : ∃ removed, Fields.get? doc "_deleted" = some (.bool removed)
  /-- When the record was written first. -/
  createdAt : ∃ time, Fields.get? doc "createdAt" = some (.date time)
  /-- When the record was changed last. -/
  updatedAt : ∃ time, Fields.get? doc "updatedAt" = some (.date time)

namespace Intent

variable {i : Intent} {fields : List String} {version : Int} {clock : Timestamp} {doc : Document}

/-- Whether an intent writes data for some fields only. -/
def DataFor (fields : List String) (i : Intent) : Prop :=
  ∀ data, i.data? = some data → ∀ name ∈ Fields.names data, name ∈ fields

/-- A write adds no member to a record. -/
theorem names_stamped (h : (Fields.names doc).Perm recordNames) :
    Fields.names (Store.stamped (i.members version) clock doc) = Fields.names doc := by
  have hset : Fields.names (Update.setAll doc (i.members version)) = Fields.names doc := by
    refine Update.names_setAll fun path hpath => ?_
    rcases Mutation.head?_members hpath with hhead | hhead | hhead
    · exact ⟨"data", h.mem_iff.mpr (by decide), hhead⟩
    · exact ⟨"_classVersion", h.mem_iff.mpr (by decide), hhead⟩
    · exact ⟨"_deleted", h.mem_iff.mpr (by decide), hhead⟩
  have htime : "updatedAt" ∈ Fields.names doc := h.mem_iff.mpr (by decide)
  rw [Store.stamped, Fields.names_insert_of_mem _ (hset ▸ htime), hset]

/-- A record that has a version keeps one. -/
theorem version_stamped (hi : i.PlainData)
    (h : ∃ v, Fields.get? doc "_classVersion" = some (.int64 v)) :
    ∃ v, Fields.get? (Store.stamped (i.members version) clock doc) "_classVersion" =
      some (.int64 v) := by
  have hrecord :
      ∀ data, Fields.get? (Store.stamped (recordMembers version data) clock doc) "_classVersion" =
      some (.int64 version) := by
    intro data
    rw [Mutation.get?_stamped_recordMembers data version clock doc (by decide)]
    rfl
  cases i with
  | insert id data => exact ⟨version, hrecord data⟩
  | replace id data => exact ⟨version, hrecord data⟩
  | merge id data =>
    exact ⟨version, Store.get?_version_stamped_merge (hi data rfl).1 version clock id doc⟩
  | mark id removed =>
    obtain ⟨v, hv⟩ := h
    refine ⟨v, ?_⟩
    rw [Mutation.get?_stamped_mark id removed version clock doc (by decide), hv]
    rfl

/-- A write keeps a record in shape. -/
theorem recordShape_stamped (hi : i.PlainData) (hfields : i.DataFor fields)
    (h : RecordShape fields doc) :
    RecordShape fields (Store.stamped (i.members version) clock doc) := by
  obtain ⟨old, hold, hnames⟩ := h.data
  obtain ⟨removed, hremoved⟩ := h.deleted
  obtain ⟨⟨data, hdata, hkept⟩, hdeleted⟩ := Store.members_stamped hi version clock hold hremoved
  have hdatafor : ∀ name ∈ Fields.names data, name ∈ fields := by
    intro name hname
    rcases hkept name hname with hm | ⟨given, hgiven, hm⟩
    · exact hnames name hm
    · exact hfields given hgiven name hm
  obtain ⟨id, hid⟩ := h.id
  obtain ⟨time, htime⟩ := h.createdAt
  refine ⟨?_, ⟨id, ?_⟩, ⟨data, hdata, hdatafor⟩, version_stamped hi h.version, hdeleted,
    ⟨time, ?_⟩, clock, ?_⟩
  · rw [names_stamped h.names]
    exact h.names
  · rw [Mutation.get?_id_stamped, hid]
  · rw [Mutation.get?_stamped_members i version clock doc (by decide), htime]
  · exact Fields.get?_insert_self _ _ _

/-- A new record is in shape. -/
theorem recordShape_created {data : Document} (id : ObjectId)
    (hfields : ∀ name ∈ Fields.names data, name ∈ fields) :
    RecordShape fields (created version clock id data) where
  names := by
    show List.Perm ["data", "_classVersion", "_id", "_deleted", "createdAt",
      "updatedAt"] recordNames
    decide
  id := ⟨id, rfl⟩
  data := ⟨data, rfl, hfields⟩
  version := ⟨version, rfl⟩
  deleted := ⟨false, rfl⟩
  createdAt := ⟨clock, rfl⟩
  updatedAt := ⟨clock, rfl⟩

theorem recordShape_upserted {data : Document} (id : ObjectId)
    (hfields : ∀ name ∈ Fields.names data, name ∈ fields) :
    RecordShape fields (upserted version clock id data) where
  names := List.Perm.refl _
  id := ⟨id, rfl⟩
  data := ⟨data, rfl, hfields⟩
  version := ⟨version, rfl⟩
  deleted := ⟨false, rfl⟩
  createdAt := ⟨clock, rfl⟩
  updatedAt := ⟨clock, rfl⟩

/-- What is written is in shape when what was there is. -/
theorem recordShape_written {docs : List Document} (hi : i.PlainData) (hfields : i.DataFor fields)
    (h : ∀ doc ∈ docs, RecordShape fields doc) (hw : i.written version clock docs = some doc) :
    RecordShape fields doc := by
  refine Mutation.of_written (fun old hold => recordShape_stamped hi hfields (h old hold)) ?_ ?_ hw
  · rintro id data rfl
    exact recordShape_created id (hfields data rfl)
  · rintro id data rfl
    exact recordShape_upserted id (hfields data rfl)

end Intent

/-! ## The shape of a store -/

namespace Store

/-- Whether a store holds records of declared classes only, each under an id of its own and in the
shape for its class. -/
structure Shaped (definitions : List ClassDefinition) (s : Store) : Prop where
  /-- Every record has an id of its own. -/
  unique : ∀ className, UniqueIds (s.documents className)
  /-- A class with records is declared. -/
  declared : ∀ className, s.documents className ≠ [] →
    ∃ d ∈ definitions, d.key = lowerText className
  /-- Every record is in the shape for its class. -/
  shaped : ∀ className, ∀ d ∈ definitions, d.key = lowerText className →
    ∀ doc ∈ s.documents className, RecordShape d.fieldNames doc

end Store

namespace Mutation

open Store

variable {definitions : List ClassDefinition} {r : Registry} {call : MutationCall} {s : Store}

/-- The data of an intent is for the fields that the definition of the class declares. -/
theorem dataFor_of_intent {c : ClassInfo} {kind : MutationKind} {input : Fields Datum} {i : Intent}
    {d : ClassDefinition} (hnames : c.fields.map ClassField.name = d.fieldNames)
    (hi : intent kind s c input = .ok i) : i.DataFor d.fieldNames := by
  intro data hdata name hname
  obtain ⟨⟨key, stored⟩, hmem, rfl⟩ := List.mem_map.mp hname
  obtain ⟨value, f, hgives, -⟩ := mem_resolveInput (resolveInput_of_intent hi hdata) hmem
  obtain ⟨rfl, hf⟩ := name_of_field? hgives.2.2
  rw [← hnames]
  exact List.mem_map_of_mem hf

/-- A mutation keeps a store in shape, whether it succeeds or fails. -/
theorem shaped_run (hr : Registry.ofDefinitions definitions = .ok r) (hc : call.cls ∈ r.classes)
    (hs : s.Shaped definitions) (hnew : s.DrawsNew call) : (call.run s).2.Shaped definitions := by
  refine ⟨uniqueIds_run hs.unique hnew, fun className => ?_,
    fun className d' hd' hkey' doc hdoc => ?_⟩
  · -- only the class of the mutation can come to have records
    rcases documents_run className with hsame | ⟨i, -, hclass, -⟩
    · intro hne
      exact hs.declared className fun hnil => hne (Eq.trans hsame hnil)
    · obtain ⟨d, hd, hname, -⟩ := Registry.exists_definition hr hc
      refine fun _ => ⟨d, hd, ?_⟩
      rw [ClassDefinition.key, hclass, hname]
  · -- each record was there before or is the one that is written
    rcases documents_run className with hsame | ⟨i, hi, hclass, hwrites⟩
    · have hmem : doc ∈ s.documents className := hsame ▸ hdoc
      exact hs.shaped className d' hd' hkey' doc hmem
    · obtain ⟨d, hd, hname, hfields⟩ := Registry.exists_definition hr hc
      have hkey : d.key = lowerText call.cls.name := by rw [ClassDefinition.key, hname]
      obtain rfl : d = d' :=
        Registry.eq_of_lowerText hr hd hd' (hkey.trans (hclass.symm.trans hkey'.symm))
      have hmem : doc ∈ i.writes call.version s.clock (s.documents call.cls.name) := hwrites ▸ hdoc
      rcases mem_writes hmem with hold | hwritten
      · exact hs.shaped _ d hd hkey doc hold
      · exact Intent.recordShape_written (plainData_of_intent hr hc hi)
          (dataFor_of_intent hfields hi) (hs.shaped _ d hd hkey) hwritten

end Mutation

namespace Store

theorem shaped_empty (definitions : List ClassDefinition) (seed : Nat) (clock : Timestamp) :
    (empty seed clock).Shaped definitions where
  unique _ := ⟨fun _ hd => absurd hd List.not_mem_nil, List.nodup_nil⟩
  declared _ hne := absurd rfl hne
  shaped _ _ _ _ _ hd := absurd hd List.not_mem_nil

/-- A run of mutations keeps a store in shape. -/
theorem Shaped.after {definitions : List ClassDefinition} {r : Registry}
    (hr : Registry.ofDefinitions definitions = .ok r) {s : Store} (hs : s.Shaped definitions)
    {calls : List MutationCall} (hcalls : ∀ call ∈ calls, call.cls ∈ r.classes)
    (hfresh : s.DrawsFresh calls) : (s.after calls).Shaped definitions := by
  induction calls generalizing s with
  | nil => exact hs
  | cons call rest ih =>
    obtain ⟨hnew, hlater⟩ := hfresh
    have hstep := Mutation.shaped_run hr (hcalls call List.mem_cons_self) hs hnew
    exact ih hstep (fun later hlater => hcalls later (List.mem_cons_of_mem _ hlater)) hlater

/-- Whatever mutations are run on an empty store, with whatever outcome, it holds records in shape
only. -/
theorem shaped_after_empty {definitions : List ClassDefinition} {r : Registry}
    (hr : Registry.ofDefinitions definitions = .ok r) (seed : Nat) (clock : Timestamp)
    {calls : List MutationCall} (hcalls : ∀ call ∈ calls, call.cls ∈ r.classes)
    (hfresh : (empty seed clock).DrawsFresh calls) :
    ((empty seed clock).after calls).Shaped definitions :=
  (shaped_empty definitions seed clock).after hr hcalls hfresh

/-- A user is created and removed, and then renamed in vain. -/
theorem shaped_after_empty_removal :
    Registry.ofDefinitions Sample.definitions = .ok ⟨[Sample.user]⟩ ∧
      (∀ call ∈ Sample.removal ++ [Sample.rename], call.cls ∈ [Sample.user]) ∧
      (empty 0 ⟨0⟩).DrawsFresh (Sample.removal ++ [Sample.rename]) ∧
      ((empty 0 ⟨0⟩).after (Sample.removal ++ [Sample.rename])).Shaped Sample.definitions ∧
      (((empty 0 ⟨0⟩).after (Sample.removal ++ [Sample.rename])).documents "User").length = 1 := by
  have hcalls : ∀ call ∈ Sample.removal ++ [Sample.rename], call.cls ∈ [Sample.user] := by
    simp [Sample.removal, Sample.rename, Sample.call]
  have hfresh : (empty 0 ⟨0⟩).DrawsFresh (Sample.removal ++ [Sample.rename]) :=
    ⟨by decide +kernel, by decide +kernel, by decide +kernel, trivial⟩
  exact ⟨Sample.definitions_accepted, hcalls, hfresh,
    shaped_after_empty Sample.definitions_accepted 0 ⟨0⟩ hcalls hfresh, by decide +kernel⟩

end Store

end ClassApi
