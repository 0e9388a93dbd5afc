import ClassApi.Proofs.Ids
import ClassApi.Proofs.View
import Mathlib.Data.Set.Finite.Basic

/-!
# Records as a map

A store whose documents are well formed is a map from class names and ids to records. Every mutation
has a plain effect on this map: it changes what is found under one id of its class, and nothing
else, or it changes nothing at all. So any run of mutations is the composition of the effects of its
calls. The invariant that carries the run is that the documents of every class stay well formed; it
needs the ids that are given out to be new.
-/

namespace ClassApi

/-- Records by class and id. Names of classes are compared without regard to case. -/
abbrev RecordMap := String → ObjectId → Option RecordView

/-- Changes what is found under an id of a class. -/
def RecordMap.set (m : RecordMap) (className : String) (id : ObjectId)
    (r : Option RecordView) : RecordMap :=
  fun other x => if lowerText other = lowerText className ∧ x = id then r else m other x

namespace RecordMap

variable (m : RecordMap) (className : String) (id : ObjectId) (r r' : Option RecordView)

@[simp] theorem set_self : m.set className id r className id = r :=
  if_pos ⟨rfl, rfl⟩

@[simp] theorem set_set : (m.set className id r).set className id r' = m.set className id r' := by
  funext other x
  by_cases h : lowerText other = lowerText className ∧ x = id
  · rw [set, if_pos h, set, if_pos h]
  · rw [set, if_neg h, set, if_neg h, set, if_neg h]

end RecordMap

/-- What a call does to the records, given the store its input is resolved in. A call whose input is
refused does nothing, and nor do updating, removing and recovering without an id, with a text that
stands for none, or with one that is not in use. Replacing without an id writes a new record, and so
it does with an id that is not in use. -/
def MutationCall.effect (call : MutationCall) (s : Store) (m : RecordMap) : RecordMap :=
  let className := call.cls.name
  match call.kind, call.givenId, Mutation.resolveInput s call.cls call.input with
  | .create, _, .ok data => m.set className s.drawId.1 (some (.fresh call.version data))
  | .update, .known id, .ok data =>
    m.set className id ((m className id).map (.merge call.version data))
  | .replace, .absent, .ok data => m.set className s.drawId.1 (some (.fresh call.version data))
  | .replace, .known id, .ok data =>
    m.set className id
      (some ((m className id).elim (.fresh call.version data) (.replace call.version data)))
  | .remove, .known id, _ => m.set className id ((m className id).map (.mark true))
  | .recover, .known id, _ => m.set className id ((m className id).map (.mark false))
  | _, _, _ => m

namespace Store

/-- What is seen of the records of a store. -/
def records (s : Store) : RecordMap :=
  fun className id => (s.get? className id).map RecordView.ofDocument

/-- Whether a document has data and a mark of removal. -/
def WellShaped (doc : Document) : Prop :=
  (∃ members, Fields.get? doc "data" = some (.document members)) ∧
    ∃ removed, Fields.get? doc "_deleted" = some (.bool removed)

/-- Whether the documents of every class have ids of their own, data and a mark of removal. -/
structure WellFormed (s : Store) : Prop where
  /-- Every document has an id of its own. -/
  unique : ∀ className, UniqueIds (s.documents className)
  /-- Every document has data and a mark. -/
  shaped : ∀ className, ∀ doc ∈ s.documents className, WellShaped doc

/-- Whether the ids that are given out in the course of some calls are not in use by then. -/
def DrawsFresh (s : Store) : List MutationCall → Prop
  | [] => True
  | call :: rest => s.DrawsNew call ∧ (call.run s).2.DrawsFresh rest

/-- The records after the effects of some calls, one after another. -/
def replay (s : Store) (m : RecordMap) : List MutationCall → RecordMap
  | [] => m
  | call :: rest => (call.run s).2.replay (call.effect s m) rest

/-- A write to a document with data and a mark leaves data and a mark, and no names in the data but
those that were there and those that are written. -/
theorem members_stamped {i : Intent} (hi : i.PlainData) (version : Int) (clock : Timestamp)
    {doc old : Document} {removed : Bool} (hdata : Fields.get? doc "data" = some (.document old))
    (hmark : Fields.get? doc "_deleted" = some (.bool removed)) :
    (∃ data, Fields.get? (stamped (i.members version) clock doc) "data" = some (.document data) ∧
      ∀ name ∈ Fields.names data, name ∈ Fields.names old ∨ ∃ given, i.data? = some given ∧
        name ∈ Fields.names given) ∧
    ∃ removed', Fields.get? (stamped (i.members version) clock doc) "_deleted" =
      some (.bool removed') := by
  have hrecord :
      ∀ data, Fields.get? (stamped (Intent.recordMembers version data) clock doc) "data" =
        some (.document data) ∧
      Fields.get? (stamped (Intent.recordMembers version data) clock doc) "_deleted" =
          some (.bool removed) := by
    intro data
    constructor
    · rw [Mutation.get?_stamped_recordMembers data version clock doc (by decide)]
      rfl
    · rw [Mutation.get?_stamped_recordMembers data version clock doc (by decide), hmark]
      rfl
  cases i with
  | insert id data =>
    exact ⟨⟨data, (hrecord data).1, fun name hname => Or.inr ⟨data, rfl, hname⟩⟩, removed,
      (hrecord data).2⟩
  | replace id data =>
    exact ⟨⟨data, (hrecord data).1, fun name hname => Or.inr ⟨data, rfl, hname⟩⟩, removed,
      (hrecord data).2⟩
  | merge id data =>
    obtain ⟨hn, hp⟩ := hi data rfl
    have hinner := Path.inner_of_get? hdata
    refine ⟨⟨Update.setAll old data, ?_, fun name hname => ?_⟩, removed, ?_⟩
    · rw [← hinner] at hdata
      rw [get?_data_stamped_merge hn, Update.get?_setAll_below data (by decide) hdata, hinner]
    · exact (Update.mem_names_setAll hp hname).symm.imp_right fun hnew => ⟨data, rfl, hnew⟩
    · rw [get?_deleted_stamped_merge hn, hmark]
  | mark id removed' =>
    refine ⟨⟨old, ?_, fun name hname => Or.inl hname⟩, removed', ?_⟩
    · rw [Mutation.get?_stamped_mark id removed' version clock doc (by decide), hdata]
      rfl
    · rw [Mutation.get?_stamped_mark id removed' version clock doc (by decide)]
      rfl

/-- Writing keeps a document in shape. -/
theorem wellShaped_stamped {i : Intent} (hi : i.PlainData) (version : Int) (clock : Timestamp)
    {doc : Document} (h : WellShaped doc) : WellShaped (stamped (i.members version) clock doc) := by
  obtain ⟨⟨old, hdata⟩, removed, hmark⟩ := h
  obtain ⟨⟨data, hdata', -⟩, hmark'⟩ := members_stamped hi version clock hdata hmark
  exact ⟨⟨data, hdata'⟩, hmark'⟩

/-- What is written is in shape when what was there is. -/
theorem wellShaped_written {i : Intent} (hi : i.PlainData) {version : Int} {clock : Timestamp}
    {docs : List Document} (h : ∀ doc ∈ docs, WellShaped doc) {doc : Document}
    (hw : i.written version clock docs = some doc) : WellShaped doc := by
  refine Mutation.of_written
    (fun old hold => wellShaped_stamped hi version clock (h old hold)) ?_ ?_ hw
  · exact fun id data _ => ⟨⟨data, rfl⟩, false, rfl⟩
  · exact fun id data _ => ⟨⟨data, rfl⟩, false, rfl⟩

theorem WellFormed.get?_eq {s : Store} (h : s.WellFormed) (className : String) (id : ObjectId) :
    s.get? className id = (s.documents className).find? (answersTo id) :=
  (h.unique className).get?_eq id

end Store

namespace Mutation

open Store

variable {definitions : List ClassDefinition} {r : Registry} {call : MutationCall} {s : Store}

/-- The effect of a call is that of its intent, when the id that it gives out is not in use. -/
theorem effect_eq (m : RecordMap) (hnew : call.draws = true → m call.cls.name s.drawId.1 = none) :
    call.effect s m =
      match call.intent s with
      | .ok i => m.set call.cls.name i.id (i.effect call.version (m call.cls.name i.id))
      | .error _ => m := by
  cases hkind : call.kind with
  | create =>
    rw [MutationCall.effect, MutationCall.intent, hkind, intent]
    cases resolveInput s call.cls call.input with
    | error e => rfl
    | ok data => rfl
  | update =>
    rw [MutationCall.effect, MutationCall.intent, hkind, intent]
    cases hgiven : call.givenId with
    | known id =>
      rw [MutationCall.requiredId_of_known hgiven]
      cases resolveInput s call.cls call.input with
      | error e => rfl
      | ok data => rfl
    | _ =>
      obtain ⟨e, he⟩ := call.exists_requiredId_error fun id h => by cases hgiven.symm.trans h
      rw [he]
      rfl
  | replace =>
    rw [MutationCall.effect, MutationCall.intent, hkind, intent]
    cases hgiven : call.givenId with
    | absent =>
      have hnone := hnew (by rw [MutationCall.draws, hkind, hgiven])
      rw [MutationCall.inputId_of_absent hgiven]
      cases resolveInput s call.cls call.input with
      | error e => rfl
      | ok data =>
        show _ = m.set call.cls.name s.drawId.1
          (Intent.effect call.version (.replace s.drawId.1 data) (m call.cls.name s.drawId.1))
        rw [hnone]
        rfl
    | known id =>
      rw [MutationCall.inputId_of_known hgiven]
      cases resolveInput s call.cls call.input with
      | error e => rfl
      | ok data =>
        show m.set call.cls.name id _ =
          m.set call.cls.name id (Intent.effect call.version (.replace id data)
            (m call.cls.name id))
        cases m call.cls.name id with
        | none => rfl
        | some old => rfl
    | unknown =>
      obtain ⟨e, he⟩ := MutationCall.exists_inputId_of_unknown hgiven
      rw [he]
      rfl
  | remove | recover =>
    rw [MutationCall.effect, MutationCall.intent, hkind, intent]
    cases hgiven : call.givenId with
    | known id =>
      rw [MutationCall.requiredId_of_known hgiven]
      rfl
    | _ =>
      obtain ⟨e, he⟩ := call.exists_requiredId_error fun id h => by cases hgiven.symm.trans h
      rw [he]
      rfl

/-- A mutation that draws an id which is not in use leaves every document with an id of its own. -/
theorem uniqueIds_run (hs : ∀ className, UniqueIds (s.documents className)) (hnew : s.DrawsNew call)
    (className : String) : UniqueIds ((call.run s).2.documents className) := by
  rcases documents_run className with hsame | ⟨i, hi, -, hwrites⟩
  · exact (congrArg UniqueIds hsame).mpr (hs className)
  · have hunique : UniqueIds (i.writes call.version s.clock (s.documents call.cls.name)) :=
      Intent.uniqueIds_writes (hs _) (fresh_of_intent hi (hs _) hnew)
    exact (congrArg UniqueIds hwrites).mpr hunique

/-- A mutation keeps the documents of every class well formed. -/
theorem wellFormed_run (hr : Registry.ofDefinitions definitions = .ok r) (hc : call.cls ∈ r.classes)
    (hs : s.WellFormed) (hnew : s.DrawsNew call) : (call.run s).2.WellFormed := by
  refine ⟨uniqueIds_run hs.unique hnew, fun className doc hdoc => ?_⟩
  rcases documents_run className with hsame | ⟨i, hi, -, hwrites⟩
  · have hmem : doc ∈ s.documents className := hsame ▸ hdoc
    exact hs.shaped className doc hmem
  · have hmem : doc ∈ i.writes call.version s.clock (s.documents call.cls.name) := hwrites ▸ hdoc
    rcases mem_writes hmem with hold | hwritten
    · exact hs.shaped _ doc hold
    · exact wellShaped_written (plainData_of_intent hr hc hi) (hs.shaped _) hwritten

theorem files_run : (call.run s).2.files = s.files := by
  cases hi : intent call.kind s call.cls call.input with
  | error e => exact (run_refused hi).2.2
  | ok i => exact (run_accepted hi).2.2

/-- What a mutation does to the records of a well-formed store. -/
theorem records_run (hr : Registry.ofDefinitions definitions = .ok r) (hc : call.cls ∈ r.classes)
    (hs : s.WellFormed) (hnew : s.DrawsNew call) :
    (call.run s).2.records = call.effect s s.records := by
  have hafter := wellFormed_run hr hc hs hnew
  have hunused : call.draws = true → s.records call.cls.name s.drawId.1 = none := fun hdraws => by
    rw [records, hnew hdraws]
    rfl
  rw [effect_eq s.records hunused]
  cases hi : call.intent s with
  | error e =>
    have hsame : s.SameRecords (call.run s).2 := (run_refused hi).2
    funext className id
    show (call.run s).2.records className id = s.records className id
    rw [records, records, hafter.get?_eq, hs.get?_eq, hsame.1 className]
  | ok i =>
    have hwrote : s.Wrote (call.run s).2 call.cls.name _ := (run_accepted hi).2
    have hunique := hs.unique call.cls.name
    have hfresh := fresh_of_intent hi hunique hnew
    funext className id
    show (call.run s).2.records className id =
      RecordMap.set s.records call.cls.name i.id
        (i.effect call.version (s.records call.cls.name i.id)) className id
    rw [records, hafter.get?_eq, hwrote.1 className, RecordMap.set]
    by_cases hclass : lowerText className = lowerText call.cls.name
    · rw [if_pos hclass]
      by_cases hid : id = i.id
      · rw [if_pos ⟨hclass, hid⟩, hid, Intent.find?_writes_self hfresh,
          written_view (plainData_of_intent hr hc hi) call.version s.clock, records, hs.get?_eq]
      · rw [if_neg (fun h => hid h.2), Intent.find?_writes_other hunique hfresh hid, records,
          hs.get?_eq, documents_congr s hclass]
    · rw [if_neg hclass, if_neg (fun h => hclass h.1), records, hs.get?_eq]

end Mutation

namespace Store

/-- Only finitely many ids of a class are in use. -/
theorem finite_records (s : Store) (className : String) :
    {id | (s.records className id).isSome}.Finite := by
  refine ((s.documents className).filterMap idOf).finite_toSet.subset ?_
  intro id hid
  obtain ⟨r, hr⟩ := Option.isSome_iff_exists.mp hid
  obtain ⟨doc, hdoc, -⟩ := Option.map_eq_some_iff.mp hr
  have hidOf := List.find?_some hdoc
  exact List.mem_filterMap.mpr ⟨doc, List.mem_of_find?_eq_some hdoc, of_decide_eq_true hidOf⟩

/-- A run of mutations does to the records what its calls do, one after another. The store stays
well formed and keeps its files. -/
theorem after_refines {definitions : List ClassDefinition} {r : Registry}
    (hr : Registry.ofDefinitions definitions = .ok r) {s : Store} (hs : s.WellFormed)
    {calls : List MutationCall} (hcalls : ∀ call ∈ calls, call.cls ∈ r.classes)
    (hfresh : s.DrawsFresh calls) :
    (s.after calls).WellFormed ∧ (s.after calls).files = s.files ∧
    (∀ className, {id | ((s.after calls).records className id).isSome}.Finite) ∧
    (s.after calls).records = s.replay s.records calls ∧
    ∀ before call rest, calls = before ++ call :: rest →
      (s.after (before ++ [call])).records =
        call.effect (s.after before) (s.after before).records := by
  induction calls generalizing s with
  | nil =>
    refine ⟨hs, rfl, finite_records s, rfl, ?_⟩
    intro before call rest h
    cases before with
    | nil => cases h
    | cons first others => cases h
  | cons call rest ih =>
    obtain ⟨hnew, hlater⟩ := hfresh
    have hc := hcalls call List.mem_cons_self
    have hstep := Mutation.records_run hr hc hs hnew
    obtain ⟨hwell, hfiles, -, hreplay, hsteps⟩ := ih (Mutation.wellFormed_run hr hc hs hnew)
      (fun later hm => hcalls later (List.mem_cons_of_mem _ hm)) hlater
    refine ⟨hwell, hfiles.trans Mutation.files_run, finite_records _, ?_, ?_⟩
    · rw [hstep] at hreplay
      exact hreplay
    · intro before made others h
      cases before with
      | nil =>
        cases h
        exact hstep
      | cons first before =>
        cases h
        exact hsteps before made others rfl

theorem wellFormed_empty : Sample.empty.WellFormed where
  unique _ := ⟨fun _ hd => absurd hd List.not_mem_nil, List.nodup_nil⟩
  shaped _ _ hd := absurd hd List.not_mem_nil

end Store

namespace Sample

/-- The user is given another name under the next version. -/
def renameLater : MutationCall :=
  { rename with version := 2 }

/-- A user is created, renamed and removed. Then a text that stands for no id is given, and no id at
all. -/
def lifecycle : List MutationCall :=
  [call .create [("name", .string "a"), ("friend", .null)], renameLater,
    call .remove [("id", .string firstId)],
    call .update [("id", .string "?"), ("name", .string "c")],
    call .replace [("name", .string "c")]]

/-- The records there are then: the user with the friend it was created with, and another one. -/
def lifecycleRecords : RecordMap :=
  let renamed : RecordView :=
    { data := Fields.get? [("name", .string "b"), ("friend", .null)]
      version := some 2, removed := true }
  let other : RecordView :=
    { data := Fields.get? [("name", .string "c")], version := some 1, removed := false }
  RecordMap.set (RecordMap.set (fun _ _ => none) "User" (.ofCounter 0 1) (some renamed))
    "User" (.ofCounter 0 2) (some other)

theorem replay_lifecycle : empty.replay empty.records lifecycle = lifecycleRecords := by
  have hgiven : (call .remove [("id", .string firstId)]).givenId = .known (.ofCounter 0 1) := by
    decide +kernel
  have hcreate (m : RecordMap) :
      (call .create [("name", .string "a"), ("friend", .null)]).effect empty m =
        m.set "User" (.ofCounter 0 1)
          (some (.fresh 1 [("name", .string "a"), ("friend", .null)])) :=
    rfl
  have hrename (s : Store) (m : RecordMap) : renameLater.effect s m =
      m.set "User" (.ofCounter 0 1)
        ((m "User" (.ofCounter 0 1)).map (.merge 2 [("name", .string "b")])) := by
    have hsame : renameLater.givenId = .known (.ofCounter 0 1) := hgiven
    have hdata : Mutation.resolveInput s renameLater.cls renameLater.input =
      .ok [("name", .string "b")] := rfl
    rw [MutationCall.effect, hsame, hdata]
    rfl
  have hremove (s : Store) (m : RecordMap) : (call .remove [("id", .string firstId)]).effect s m =
      m.set "User" (.ofCounter 0 1) ((m "User" (.ofCounter 0 1)).map (.mark true)) := by
    rw [MutationCall.effect, hgiven]
    rfl
  have hunknown (s : Store) (m : RecordMap) :
      (call .update [("id", .string "?"), ("name", .string "c")]).effect s m = m := by
    have hnone : (call .update [("id", .string "?"), ("name", .string "c")]).givenId =
        .unknown := by
      decide +kernel
    rw [MutationCall.effect, hnone]
    rfl
  have hreplace (s : Store) (m : RecordMap) (hdrawn : s.drawId.1 = .ofCounter 0 2) :
      (call .replace [("name", .string "c")]).effect s m =
        m.set "User" (.ofCounter 0 2) (some (.fresh 1 [("name", .string "c")])) := by
    rw [← hdrawn]
    rfl
  have hmerged : (RecordView.fresh 1 [("name", .string "a"), ("friend", .null)]).merge 2
      [("name", .string "b")] =
        { data := Fields.get? [("name", .string "b"), ("friend", .null)]
          version := some 2, removed := false } := by
    simp only [RecordView.merge, RecordView.fresh, RecordView.mk.injEq, and_true]
    funext name
    by_cases hname : "name" = name <;> simp [Fields.get?, hname]
  simp only [lifecycle, Store.replay]
  rw [hreplace _ _ (by decide +kernel), hunknown, hremove, hrename, hcreate]
  simp only [RecordMap.set_self, RecordMap.set_set, Option.map_some, hmerged]
  rfl

end Sample

namespace Store

/-- The records after a user was created, renamed and removed. -/
theorem after_refines_lifecycle :
    (Sample.empty.WellFormed ∧ Sample.empty.DrawsFresh Sample.lifecycle) ∧
    (Sample.empty.after Sample.lifecycle).WellFormed ∧
    (Sample.empty.after Sample.lifecycle).files = [] ∧
    (∀ className,
      {id | ((Sample.empty.after Sample.lifecycle).records className id).isSome}.Finite) ∧
    (Sample.empty.after Sample.lifecycle).records = Sample.lifecycleRecords ∧
    ∀ before call rest, Sample.lifecycle = before ++ call :: rest →
      (Sample.empty.after (before ++ [call])).records =
        call.effect (Sample.empty.after before) (Sample.empty.after before).records := by
  have hfresh : Sample.empty.DrawsFresh Sample.lifecycle :=
    ⟨by decide +kernel, by decide +kernel, by decide +kernel, by decide +kernel, by
      decide +kernel, trivial⟩
  have hcalls : ∀ call ∈ Sample.lifecycle, call.cls ∈ [Sample.user] := by
    simp [Sample.lifecycle, Sample.renameLater, Sample.rename, Sample.call]
  obtain ⟨hwell, hfiles, hfinite, hreplay, hsteps⟩ :=
    after_refines Sample.definitions_accepted wellFormed_empty hcalls hfresh
  exact ⟨⟨wellFormed_empty, hfresh⟩, hwell, hfiles, hfinite,
    hreplay.trans Sample.replay_lifecycle, hsteps⟩

end Store

end ClassApi
