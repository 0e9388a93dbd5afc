import ClassApi.Proofs.Calls
import ClassApi.Proofs.Canonical

/-!
# Creating a record and reading it back

A record is written with the data that the input gives, and what is answered is the record as it is
read. So creating succeeds and the record comes back with its data exactly when the data survives
being read once more, that is, when no document in it carries a mark. Otherwise the record is stored
all the same, but it is refused when it is read, or it comes back with other data.
-/

namespace ClassApi

/-- Whether a record that is fetched is the one that was answered, with some version, data and
times. -/
structure ClassRecord.ReadsBack (answered fetched : ClassRecord) (version : Int)
    (data : Document) : Prop where
  /-- The data is as given. -/
  data : fetched.data = data
  /-- The version is as given. -/
  version : fetched.classVersion = version
  /-- The id is the same. -/
  id : fetched.id = answered.id
  /-- The time of creation is there and the same. -/
  createdAt : ∃ time, answered.createdAt = some time ∧ fetched.createdAt = some time
  /-- The time of the last change is there and the same. -/
  updatedAt : ∃ time, answered.updatedAt = some time ∧ fetched.updatedAt = some time

namespace Mutation

open Store

/-- Whether creating a record succeeds and the record that is answered can be fetched by its id
right after, with some data. -/
def RoundTrips (s : Store) (c : ClassInfo) (version : Int) (input : Fields Datum)
    (data : Document) : Prop :=
  ∃ payload answered fetched, (run .create s c version input).1 = .ok payload ∧
    payload.record = some answered ∧
    Access.classById (run .create s c version input).2 c.name answered.id = .ok fetched ∧
    answered.ReadsBack fetched version data

/-- The record that a new document with some data is read as. -/
def newRecord (className : String) (version : Int) (clock : Timestamp) (id : ObjectId)
    (data : Document) : ClassRecord where
  className := className
  id := id
  data := data
  classVersion := version
  createdAt := some clock
  updatedAt := some clock

/-- A new document is read as a record when its data is read as a document. -/
theorem parse_created (className : String) (version : Int) (clock : Timestamp) (id : ObjectId)
    (data : Document) :
    Access.parse className (some (Intent.created version clock id data)) =
      match (StoredRecord.rereadMembers [] data).bind Value.asDocument? with
      | some found => .ok (newRecord className version clock id found)
      | none => .error (.storage .invalidRecord) := by
  have hread : StoredRecord.ofDocument? (Intent.created version clock id data) =
      ((StoredRecord.rereadMembers [] data).bind Value.asDocument?).map fun found =>
        { id, data := found, classVersion := version, deleted := false, createdAt := some clock,
          updatedAt := some clock } := by
    have hdata : StoredRecord.readData (Fields.get? (Intent.created version clock id data) "data") =
        (StoredRecord.rereadMembers [] data).bind Value.asDocument? := rfl
    rw [StoredRecord.ofDocument?, hdata]
    cases (StoredRecord.rereadMembers [] data).bind Value.asDocument? with
    | none => rfl
    | some found => rfl
  rw [Access.parse, StoredRecord.ofDocument, hread]
  cases (StoredRecord.rereadMembers [] data).bind Value.asDocument? with
  | none => rfl
  | some found => rfl

section Create

variable {s : Store} {c : ClassInfo} {version : Int} {input : Fields Datum} {data : Document}

/-- What creating answers, and what fetching the new id gives right after, is the new document as it
is read. -/
theorem run_create (version : Int)
    (hfresh : ∀ doc ∈ s.documents c.name, answersTo s.drawId.1 doc = false)
    (hdata : resolveInput s c input = .ok data) :
    (run .create s c version input).1 =
        (Access.parse c.name (some (Intent.created version s.clock s.drawId.1 data))).map
          (payloadOf input) ∧
      Access.classById (run .create s c version input).2 c.name s.drawId.1 =
        Access.parse c.name (some (Intent.created version s.clock s.drawId.1 data)) := by
  have hintent : intent .create s c input = .ok (.insert s.drawId.1 data) := by
    rw [intent, hdata]
    rfl
  have hrun := run_performs s c version input .create
  rw [hintent] at hrun
  obtain ⟨hanswer, hwrote, -⟩ := hrun
  refine ⟨hanswer, ?_⟩
  have hdocs : (run .create s c version input).2.documents c.name =
      s.documents c.name ++ [Intent.created version s.clock s.drawId.1 data] := by
    rw [hwrote c.name, if_pos rfl]
    rfl
  have hnone : (s.documents c.name).find? (answersTo s.drawId.1) = none :=
    List.find?_eq_none.mpr fun doc hdoc => by rw [hfresh doc hdoc]; exact Bool.false_ne_true
  have hid : idOf (Intent.created version s.clock s.drawId.1 data) = some s.drawId.1 := rfl
  have hanswers : answersTo s.drawId.1 (Intent.created version s.clock s.drawId.1 data) = true := by
    rw [answersTo_eq_decide hid, decide_eq_true_iff]
  rw [Access.classById_eq, hdocs, List.find?_append, hnone, Option.none_or,
    List.find?_cons_of_pos hanswers]

/-- Creating a record under a new id succeeds, and the record comes back right after with the data
that the input gives, exactly when no document in the data carries a mark. -/
theorem roundTrips_iff (hdistinct : ∀ member ∈ input, member.2.Distinct)
    (hfresh : ∀ doc ∈ s.documents c.name, answersTo s.drawId.1 doc = false)
    (hdata : resolveInput s c input = .ok data) :
    RoundTrips s c version input data ↔ (Value.document data).carriesMark = false := by
  have hcanonical := canonical_resolveInput hdistinct hdata
  have hsurvives : StoredRecord.rereadMembers [] data = some (.document data) ↔
      (Value.document data).carriesMark = false := by
    rw [← StoredRecord.reread_eq_self_iff _ hcanonical, StoredRecord.reread]
  obtain ⟨hanswer, hfetch⟩ := run_create version hfresh hdata
  -- The answer and the fetched record are both the new document as it is read, so only its data is
  -- in question.
  rw [parse_created] at hanswer hfetch
  rw [← hsurvives]
  constructor
  · rintro ⟨payload, answered, fetched, hpayload, hrecord, hfetched, hback⟩
    rw [hanswer] at hpayload
    cases hfound : (StoredRecord.rereadMembers [] data).bind Value.asDocument? with
    | none =>
      rw [hfound] at hpayload
      cases hpayload
    | some found =>
      rw [hfound] at hpayload hfetch
      cases hpayload
      cases hrecord
      rw [newRecord] at hfetched
      rw [hfetch] at hfetched
      cases hfetched
      have hsame : found = data := hback.data
      obtain ⟨value, hvalue, hdocument⟩ := Option.bind_eq_some_iff.mp hfound
      cases value with
      | document members =>
        cases hdocument
        rw [hvalue, ← hsame]
      | _ => cases hdocument
  · intro hread
    rw [hread] at hanswer hfetch
    exact ⟨_, _, _, hanswer, rfl, hfetch, rfl, rfl, rfl, ⟨_, rfl, rfl⟩, ⟨_, rfl, rfl⟩⟩

/-- The fields of accepted classes have names that are no marks, so only the values in the data
count. -/
theorem carriesMark_data_iff {definitions : List ClassDefinition} {r : Registry}
    (hr : Registry.ofDefinitions definitions = .ok r) (hc : c ∈ r.classes)
    (hdata : resolveInput s c input = .ok data) :
    (Value.document data).carriesMark = true ↔ ∃ member ∈ data, member.2.carriesMark = true := by
  have hdollar : ∀ name ∈ Value.markNames, '$' ∈ name.toList := by decide
  rw [Value.carriesMark, Value.memberCarriesMark_iff, or_iff_right]
  rintro ⟨name, hname, hmark⟩
  obtain ⟨member, hmember, rfl⟩ := List.mem_map.mp hname
  obtain ⟨value, f, hgives, -⟩ := mem_resolveInput hdata hmember
  obtain ⟨hfname, hf⟩ := name_of_field? hgives.2.2
  obtain ⟨rawName, hraw⟩ := Registry.exists_camelCase hr hc hf
  have hcamel : member.1 = Naming.camelCase rawName := hfname.symm.trans hraw
  have halphanum := Naming.camelCase_alphanum rawName '$' (hcamel ▸ hdollar _ hmark)
  exact absurd halphanum (by decide)

end Create

end Mutation

namespace Sample

/-- The definition of a class with a text and a value of any shape. -/
def noteDefinitions : List ClassDefinition :=
  [{ name := "note", plural := none
     fields := [("text", .token "string"), ("meta", .token "mixed")] }]

/-- The class. -/
def note : ClassInfo where
  name := "Note"
  plural := none
  fields := [⟨"text", .scalar .string, false, none⟩, ⟨"meta", .scalar .mixed, false, none⟩]

theorem noteDefinitions_accepted : Registry.ofDefinitions noteDefinitions = .ok ⟨[note]⟩ := by
  have hclasses : (Registry.ofDefinitions noteDefinitions).toOption.map Registry.classes =
      some [note] := by
    decide +kernel
  exact Registry.eq_ok_of_classes hclasses

/-- Input with an object in it. -/
def noteInput (value : Datum) : Fields Datum :=
  [("text", .string "a"), ("meta", value)]

end Sample

namespace Mutation

/-- An object without marks comes back. -/
theorem roundTrips_iff_note :
    ((∀ member ∈ Sample.noteInput (.object [("k", .int 1)]), member.2.Distinct) ∧
      (∀ doc ∈ Sample.empty.documents Sample.note.name,
        Store.answersTo Sample.empty.drawId.1 doc = false) ∧
      resolveInput Sample.empty Sample.note (Sample.noteInput (.object [("k", .int 1)])) =
        .ok [("text", .string "a"), ("meta", .document [("k", .int64 1)])]) ∧
    RoundTrips Sample.empty Sample.note 1 (Sample.noteInput (.object [("k", .int 1)]))
      [("text", .string "a"), ("meta", .document [("k", .int64 1)])] := by
  have hdistinct : ∀ member ∈ Sample.noteInput (.object [("k", .int 1)]), member.2.Distinct := by
    simp [Sample.noteInput, Datum.Distinct, Datum.DistinctMembers, Datum.int, Fields.names]
  have hfresh : ∀ doc ∈ Sample.empty.documents Sample.note.name,
      Store.answersTo Sample.empty.drawId.1 doc = false :=
    fun _ hdoc => absurd hdoc List.not_mem_nil
  have hdata : resolveInput Sample.empty Sample.note (Sample.noteInput (.object [("k", .int 1)])) =
      .ok [("text", .string "a"), ("meta", .document [("k", .int64 1)])] := by rfl
  exact ⟨⟨hdistinct, hfresh, hdata⟩, (roundTrips_iff hdistinct hfresh hdata).mpr (by decide)⟩

/-- An object with a mark and what is no id makes creating fail, though the record is stored. -/
theorem exists_created_unreadable :
    Registry.ofDefinitions Sample.noteDefinitions = .ok ⟨[Sample.note]⟩ ∧
    resolveInput Sample.empty Sample.note (Sample.noteInput (.object [("$oid", .int 5)])) =
      .ok [("text", .string "a"), ("meta", .document [("$oid", .int64 5)])] ∧
    (run .create Sample.empty Sample.note 1 (Sample.noteInput (.object [("$oid", .int 5)]))).1 =
      .error (.storage .invalidRecord) ∧
    ((run .create Sample.empty Sample.note 1
      (Sample.noteInput (.object [("$oid", .int 5)]))).2.documents "Note").length = 1 ∧
    ¬ RoundTrips Sample.empty Sample.note 1 (Sample.noteInput (.object [("$oid", .int 5)]))
      [("text", .string "a"), ("meta", .document [("$oid", .int64 5)])] := by
  have hfails :
      (run .create Sample.empty Sample.note 1 (Sample.noteInput (.object [("$oid", .int 5)]))).1 =
      .error (.storage .invalidRecord) := by rfl
  refine ⟨Sample.noteDefinitions_accepted, by rfl, hfails, by rfl, ?_⟩
  rintro ⟨payload, answered, fetched, hpayload, -⟩
  rw [hfails] at hpayload
  cases hpayload

end Mutation

end ClassApi
