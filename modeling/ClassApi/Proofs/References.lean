import ClassApi.Proofs.Calls
import ClassApi.Proofs.View

/-!
# References in the input of a mutation

A reference in the input is verified: it is `null`, or it points at a record that is there and not
removed, or at a stored file. This holds for every value of a field that refers to one record, and
for the items of a list of references. There is one gap. Input to a list of references that is
neither `null` nor a text nor a list is stored as it is, so the references of the resolved input are
all verified exactly when no such input is given.
-/

namespace ClassApi

namespace Store

/-- Whether a reference may point at a node: a record of the class that is not removed, or a file
for the file class. -/
def Live (s : Store) (target : String) (id : ObjectId) : Prop :=
  if target = fileClass then ∃ file ∈ s.files, file.id = id
  else ∃ doc ∈ s.documents target, idOf doc = some id ∧
    ∃ stored, StoredRecord.ofDocument? doc = some stored ∧ stored.deleted = false

/-- Whether a value is a verified reference or `null`. -/
def Verified (s : Store) (target : String) : Value → Prop
  | .null => True
  | .objectId id => s.Live target id
  | _ => False

/-- Whether a value is a list of verified references or `null`. -/
def VerifiedList (s : Store) (target : String) : Value → Prop
  | .null => True
  | .array items => ∀ item ∈ items, s.Verified target item
  | _ => False

/-- Whether the references in the value of a field are verified. -/
def VerifiedField (s : Store) (f : ClassField) (value : Value) : Prop :=
  match f.kind with
  | .relation target => s.Verified target value
  | .relationList target => s.VerifiedList target value
  | _ => True

/-- Whether all references in the data of a class are verified. -/
def ReferencesVerified (s : Store) (c : ClassInfo) (data : Document) : Prop :=
  ∀ name value f, (name, value) ∈ data → c.field? name = some f → s.VerifiedField f value

end Store

/-- Whether a value of the input names references: it is `null`, one text, or a list. -/
def Datum.NamesReferences : Datum → Prop
  | .null => True
  | .string _ => True
  | .list _ => True
  | _ => False

/-- Whether what the input gives to lists of references names references. -/
def Mutation.NamesReferences (c : ClassInfo) (input : Fields Datum) : Prop :=
  ∀ name value f target, Gives c input name value f → f.kind = .relationList target →
    value.NamesReferences

namespace Access

open Store

/-- A record that is found by its id is live. -/
theorem live_of_classById {s : Store} {className : String} {id : ObjectId} {r : ClassRecord}
    (h : classById s className id = .ok r) : ∃ doc ∈ s.documents className, idOf doc = some id ∧
      ∃ stored, StoredRecord.ofDocument? doc = some stored ∧ stored.deleted = false := by
  rw [classById_eq] at h
  cases hf : (s.documents className).find? (answersTo id) with
  | none =>
    rw [hf] at h
    cases h
  | some doc =>
    rw [hf] at h
    obtain ⟨stored, hstored, hlive, -⟩ := parse_ok h
    have hanswers := List.find?_some hf
    exact ⟨doc, List.mem_of_find?_eq_some hf, (idOf_of_answersTo hanswers hstored).1, stored,
      hstored, hlive⟩

/-- A reference that is verified is live. -/
theorem live_of_verifyReference {s : Store} {target raw : String} {id : ObjectId}
    (h : verifyReference s target raw = .ok id) : s.Live target id := by
  rw [verifyReference] at h
  cases hid : ObjectId.ofClient? raw with
  | none =>
    rw [hid] at h
    cases h
  | some given =>
    rw [hid] at h
    simp only at h
    rw [Store.Live]
    by_cases ht : target = fileClass
    · rw [if_pos ht]
      rw [byId, if_pos ht] at h
      cases hf : s.file? given with
      | none =>
        rw [hf] at h
        cases h
      | some file =>
        rw [hf] at h
        cases h
        have hfile := List.find?_some hf
        exact ⟨file, List.mem_of_find?_eq_some hf, of_decide_eq_true hfile⟩
    · rw [if_neg ht]
      rw [byId, if_neg ht] at h
      cases hr : classById s target given with
      | error e =>
        rw [hr] at h
        cases e <;> cases h
      | ok record =>
        rw [hr] at h
        cases h
        exact live_of_classById hr

end Access

namespace Mutation

variable {s : Store} {c : ClassInfo} {input : Fields Datum}

theorem verified_of_resolveReference {target : String} {value : Datum} {v : Value}
    (h : resolveReference s target value = .ok v) : s.Verified target v := by
  cases value with
  | null =>
    cases h
    trivial
  | string raw =>
    obtain ⟨id, hid, rfl⟩ := map_eq_ok h
    exact Access.live_of_verifyReference hid
  | _ => cases h

theorem verified_of_resolveReferences {target : String} {values : List Datum}
    {resolved : List Value} (h : resolveReferences s target values = .ok resolved) :
    ∀ v ∈ resolved, s.Verified target v := by
  induction values generalizing resolved with
  | nil =>
    cases h
    exact fun v hv => absurd hv List.not_mem_nil
  | cons value rest ih =>
    obtain ⟨first, hfirst, h⟩ := bind_eq_ok h
    obtain ⟨others, hothers, h⟩ := bind_eq_ok h
    cases h
    intro v hv
    rcases List.mem_cons.mp hv with rfl | hm
    · exact verified_of_resolveReference hfirst
    · exact ih hothers v hm

/-- The references a list of references resolves to are verified, unless the input is stored as it
is. -/
theorem verifiedList_resolveValue {f : ClassField} {target : String}
    (hf : f.kind = .relationList target) {value : Datum} {v : Value}
    (h : resolveValue s f value = .ok v) : s.VerifiedList target v ↔ value.NamesReferences := by
  unfold resolveValue at h
  rw [hf] at h
  cases value with
  | null =>
    cases h
    exact Iff.rfl
  | string raw =>
    obtain ⟨items, hitems, rfl⟩ := map_eq_ok h
    exact iff_of_true (verified_of_resolveReferences hitems) trivial
  | list values =>
    obtain ⟨items, hitems, rfl⟩ := map_eq_ok h
    exact iff_of_true (verified_of_resolveReferences hitems) trivial
  | number n =>
    cases h
    refine iff_of_false ?_ id
    rw [Datum.toStored]
    cases n.toInt? with
    | none => exact id
    | some i => exact id
  | bool b =>
    cases h
    exact Iff.rfl
  | binary bytes =>
    cases h
    exact Iff.rfl
  | enum name =>
    cases h
    exact Iff.rfl
  | object members =>
    cases h
    exact Iff.rfl

/-- When the references in the stored form of a value are verified. -/
theorem verifiedField_resolveValue {f : ClassField} {value : Datum} {v : Value}
    (h : resolveValue s f value = .ok v) :
    s.VerifiedField f v ↔ ∀ target, f.kind = .relationList target → value.NamesReferences := by
  rw [Store.VerifiedField]
  cases hk : f.kind with
  | relation target =>
    have hone : resolveReference s target value = .ok v := by
      unfold resolveValue at h
      rw [hk] at h
      exact h
    refine iff_of_true (verified_of_resolveReference hone) fun _ hlist => ?_
    cases hlist
  | relationList target =>
    show s.VerifiedList target v ↔ _
    rw [verifiedList_resolveValue hk h]
    exact ⟨fun hv _ _ => hv, fun hv => hv target rfl⟩
  | scalar kind => exact iff_of_true trivial fun _ hlist => by cases hlist
  | list kind => exact iff_of_true trivial fun _ hlist => by cases hlist

/-- The references of the resolved input are all verified exactly when lists of references are given
as such. -/
theorem referencesVerified_resolveInput (hn : (Fields.names input).Nodup) {data : Document}
    (h : resolveInput s c input = .ok data) :
    s.ReferencesVerified c data ↔ NamesReferences c input := by
  constructor
  · intro hv name value f target hgives hf
    obtain ⟨stored, hstored, hget⟩ := get?_resolveMembers hn h hgives
    have hfield := hv name stored f (Fields.mem_of_get? hget) hgives.2.2
    exact (verifiedField_resolveValue hstored).mp hfield target hf
  · intro hnames name stored f hm hf
    obtain ⟨value, f', hgives, hresolved⟩ := mem_resolveInput h hm
    obtain rfl : f' = f := Option.some.inj (hgives.2.2.symm.trans hf)
    exact (verifiedField_resolveValue hresolved).mpr fun target hk =>
      hnames name value f' target hgives hk

/-- What a mutation leaves under a field was in a record of the class before, or its references are
verified. -/
theorem verified_of_run {definitions : List ClassDefinition} {r : Registry}
    (hr : Registry.ofDefinitions definitions = .ok r) (hc : c ∈ r.classes)
    (hn : (Fields.names input).Nodup) (hnames : NamesReferences c input) {kind : MutationKind}
    {version : Int} {doc : Document} (hdoc : doc ∈ (run kind s c version input).2.documents c.name)
    {name : String} {v : Value} {f : ClassField} (hf : c.field? name = some f)
    (hv : (RecordView.ofDocument doc).data name = some v) :
    (∃ old ∈ s.documents c.name, (RecordView.ofDocument old).data name = some v) ∨
    s.VerifiedField f v := by
  cases hi : intent kind s c input with
  | error e =>
    rw [(run_refused hi).2.1 c.name] at hdoc
    exact Or.inl ⟨doc, hdoc, hv⟩
  | ok i =>
    have hwrote : s.Wrote (run kind s c version input).2 c.name _ := (run_accepted hi).2
    rw [hwrote.1 c.name, if_pos rfl] at hdoc
    rcases mem_writes hdoc with hold | hwritten
    · exact Or.inl ⟨doc, hold, hv⟩
    · have heffect :=
        Store.written_view (plainData_of_intent hr hc hi) version s.clock (s.documents c.name)
      rw [hwritten, Option.map_some] at heffect
      rcases Intent.data_of_effect heffect.symm hv with ⟨o, ho, hold⟩ | ⟨data, hdata, hget⟩
      · obtain ⟨before, hbefore, rfl⟩ := Option.map_eq_some_iff.mp ho
        exact Or.inl ⟨before, List.mem_of_find?_eq_some hbefore, hold⟩
      · have hverified :=
          (referencesVerified_resolveInput hn (resolveInput_of_intent hi hdata)).mpr hnames
        exact Or.inr (hverified name v f (Fields.mem_of_get? hget) hf)

/-- A reference to one record is always verified, lists of references are exactly when they are
given as such, and then a mutation writes no other references than verified ones. -/
theorem references_verified_iff {definitions : List ClassDefinition} {r : Registry}
    (hr : Registry.ofDefinitions definitions = .ok r) (hc : c ∈ r.classes)
    (hn : (Fields.names input).Nodup) :
    (∀ data, resolveInput s c input = .ok data →
      (∀ name v f target, (name, v) ∈ data → c.field? name = some f → f.kind = .relation target →
        s.Verified target v) ∧
      (s.ReferencesVerified c data ↔ NamesReferences c input)) ∧
    (NamesReferences c input →
      ∀ kind version doc, doc ∈ (run kind s c version input).2.documents c.name →
        ∀ name v f, c.field? name = some f → (RecordView.ofDocument doc).data name = some v →
        (∃ old ∈ s.documents c.name, (RecordView.ofDocument old).data name = some v) ∨
        s.VerifiedField f v) := by
  refine ⟨fun data h => ⟨?_, referencesVerified_resolveInput hn h⟩, ?_⟩
  · intro name v f target hm hf hk
    obtain ⟨value, f', hgives, hresolved⟩ := mem_resolveInput h hm
    obtain rfl : f' = f := Option.some.inj (hgives.2.2.symm.trans hf)
    have hfield : s.VerifiedField f' v := by
      refine (verifiedField_resolveValue hresolved).mpr fun _ hlist => ?_
      rw [hk] at hlist
      cases hlist
    rw [Store.VerifiedField, hk] at hfield
    exact hfield
  · intro hnames kind version doc hdoc name v f hf hv
    exact verified_of_run hr hc hn hnames hdoc hf hv

/-- A user who is given as a friend is verified, in a list and alone. -/
theorem references_verified_iff_friends :
    (resolveInput Sample.single Sample.user Sample.friends).isOk = true ∧
    (∀ data, resolveInput Sample.single Sample.user Sample.friends = .ok data →
      (∀ name v f target, (name, v) ∈ data → Sample.user.field? name = some f →
        f.kind = .relation target → Sample.single.Verified target v) ∧
      (Sample.single.ReferencesVerified Sample.user data ↔
        NamesReferences Sample.user Sample.friends)) ∧
    (NamesReferences Sample.user Sample.friends → ∀ kind version doc,
      doc ∈ (run kind Sample.single Sample.user version Sample.friends).2.documents
        Sample.user.name →
      ∀ name v f, Sample.user.field? name = some f →
        (RecordView.ofDocument doc).data name = some v →
        (∃ old ∈ Sample.single.documents Sample.user.name,
          (RecordView.ofDocument old).data name = some v) ∨ Sample.single.VerifiedField f v) :=
  ⟨by decide +kernel,
    references_verified_iff Sample.definitions_accepted List.mem_cons_self (by decide)⟩

/-- A number that is given for a list of references is stored, so resolved input need not be
verified. -/
theorem exists_resolveInput_unverified :
    ¬ ∀ (definitions : List ClassDefinition) (r : Registry) (c : ClassInfo) (s : Store)
      (input : Fields Datum)
      (data : Document), Registry.ofDefinitions definitions = .ok r → c ∈ r.classes →
      resolveInput s c input = .ok data → s.ReferencesVerified c data := by
  intro h
  have hresolved : resolveInput Sample.empty Sample.user [("friends", .int 5)] =
      .ok [("friends", .int64 5)] := rfl
  exact h Sample.definitions _ Sample.user Sample.empty _ _ Sample.definitions_accepted
    List.mem_cons_self hresolved "friends" (.int64 5) _ List.mem_cons_self rfl

end Mutation

end ClassApi
