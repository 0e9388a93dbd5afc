import ClassApi.Proofs.Parse
import ClassApi.Proofs.Results

/-!
# What a mutation writes

A mutation first reads its input: the id is decoded and references are verified. What it then writes
is its intent. If the input is refused there is no intent and nothing is written; otherwise the
documents of the class change as the intent says, whatever comes of reading the record back. So the
effect of every mutation on the store is that of its intent, and its result is the record that was
written, read once more.
-/

namespace ClassApi

/-- Whether two stores hold the same documents and files. -/
def Store.SameRecords (s t : Store) : Prop :=
  (∀ className, t.documents className = s.documents className) ∧ t.files = s.files

/-- Whether a store differs from another in the documents of one class only, and which ones it has
instead. -/
def Store.Wrote (s t : Store) (className : String) (docs : List Document) : Prop :=
  (∀ other, t.documents other =
    if lowerText other = lowerText className then docs else s.documents other) ∧
  t.files = s.files

theorem Store.wrote_withDocuments (s : Store) (className : String) (docs : List Document) :
    s.Wrote (s.withDocuments className docs) className docs :=
  ⟨fun other => Store.documents_withDocuments s className other docs, rfl⟩

/-- What a mutation writes, once its input is accepted. -/
inductive Intent where
  /-- A new record. -/
  | insert (id : ObjectId) (data : Document)
  /-- Some fields of a record. -/
  | merge (id : ObjectId) (data : Document)
  /-- All fields of a record, which is new if there is none with the id. -/
  | replace (id : ObjectId) (data : Document)
  /-- The mark of a removed record. -/
  | mark (id : ObjectId) (removed : Bool)

namespace Intent

/-- The record a mutation is about. -/
def id : Intent → ObjectId
  | insert id _ => id
  | merge id _ => id
  | replace id _ => id
  | mark id _ => id

/-- The members that hold the data and the version of a record. -/
def recordMembers (version : Int) (data : Document) : Document :=
  [("data", .document data), ("_classVersion", .int64 version)]

/-- The members that are written. -/
def members (version : Int) : Intent → Document
  | insert _ data => recordMembers version data
  | merge _ data =>
    Fields.insert (Fields.ofEntries (data.map fun m => ("data." ++ m.1, m.2))) "_classVersion"
      (.int64 version)
  | replace _ data => recordMembers version data
  | mark _ removed => [("_deleted", .bool removed)]

/-- The members a new record begins with besides those that are written. -/
def defaults (id : ObjectId) (clock : Timestamp) : Document :=
  [("_id", .objectId id), ("_deleted", .bool false), ("createdAt", .date clock),
    ("updatedAt", .date clock)]

/-- A record that `create` writes. -/
def created (version : Int) (clock : Timestamp) (id : ObjectId) (data : Document) : Document :=
  recordMembers version data ++ defaults id clock

/-- A record that `replace` writes where there was none. -/
def upserted (version : Int) (clock : Timestamp) (id : ObjectId) (data : Document) : Document :=
  ("_id", .objectId id) :: recordMembers version data ++ (defaults id clock).tail

/-- The record as it is after the write, unless there is none. -/
def written (version : Int) (clock : Timestamp) (docs : List Document)
    (i : Intent) : Option Document :=
  let changed := (docs.find? (Store.answersTo i.id)).map (Store.stamped (i.members version) clock)
  match i with
  | insert id data => some (created version clock id data)
  | replace id data => some (changed.getD (upserted version clock id data))
  | merge _ _ => changed
  | mark _ _ => changed

/-- The documents of the class after the write. -/
def writes (version : Int) (clock : Timestamp) (docs : List Document)
    (i : Intent) : List Document :=
  let changed :=
    Store.changeFirst (Store.answersTo i.id) (Store.stamped (i.members version) clock) docs
  match i with
  | insert id data => docs ++ [created version clock id data]
  | replace id data =>
    match docs.find? (Store.answersTo id) with
    | some _ => changed
    | none => docs ++ [upserted version clock id data]
  | merge _ _ => changed
  | mark _ _ => changed

end Intent

namespace Mutation

open Store

/-- What a mutation is going to write, or why its input is refused. -/
def intent (kind : MutationKind) (s : Store) (c : ClassInfo)
    (input : Fields Datum) : Except ResolveError Intent :=
  match kind with
  | .create => do return .insert s.drawId.1 (← resolveInput s c input)
  | .update => do
    let id ← requiredId input
    return .merge id (← resolveInput s c input)
  | .replace => do
    let given ← inputId input
    return .replace (given.getD s.drawId.1) (← resolveInput s c input)
  | .remove => do return .mark (← requiredId input) true
  | .recover => do return .mark (← requiredId input) false

/-- What a mutation answers, given the record as it is after the write. -/
def answer (kind : MutationKind) (className : String) (input : Fields Datum) (id : ObjectId)
    (doc : Option Document) : Except ResolveError MutationPayload :=
  match kind with
  | .remove =>
    match doc with
    | some _ =>
      .ok { clientMutationId := clientMutationId input, record := none, removedId := some id.hex }
    | none => .error (.notFound className)
  | _ => (Access.parse className doc).map (payloadOf input)

/-! ## Reading the input -/

section Congr

variable {s t : Store}
  (h : ∀ target raw, Access.verifyReference t target raw = Access.verifyReference s target raw)

include h

theorem resolveReference_congr (target : String) (value : Datum) :
    resolveReference t target value = resolveReference s target value := by
  cases value with
  | string raw => rw [resolveReference, resolveReference, h]
  | _ => rfl

theorem resolveReferences_congr (target : String) (values : List Datum) :
    resolveReferences t target values = resolveReferences s target values := by
  induction values with
  | nil => rfl
  | cons value rest ih => rw [resolveReferences, resolveReferences, ih, resolveReference_congr h]

theorem resolveValue_congr (f : ClassField) (value : Datum) :
    resolveValue t f value = resolveValue s f value := by
  unfold resolveValue
  split
  · rw [resolveReference_congr h]
  · rw [resolveReferences_congr h]
  · rw [resolveReferences_congr h]
  · rfl
  · rfl
  · rfl

/-- Reading the input asks a store for what references refer to, and for nothing else. -/
theorem resolveInput_congr (c : ClassInfo) (input : Fields Datum) :
    resolveInput t c input = resolveInput s c input := by
  suffices hmembers :
      ∀ data, resolveMembers t c data input = resolveMembers s c data input from hmembers []
  induction input with
  | nil => exact fun data => rfl
  | cons member rest ih =>
    intro data
    obtain ⟨name, value⟩ := member
    rw [resolveMembers, resolveMembers]
    simp only [ih, resolveValue_congr h]

end Congr

theorem resolveInput_drawId (s : Store) (c : ClassInfo) (input : Fields Datum) :
    resolveInput s.drawId.2 c input = resolveInput s c input :=
  resolveInput_congr (s := s) (t := s.drawId.2) (fun _ _ => rfl) c input

/-- An intent comes from an id and from data, each read from the input. -/
theorem intent_cases {kind : MutationKind} {s : Store} {c : ClassInfo} {input : Fields Datum}
    {i : Intent} (h : intent kind s c input = .ok i) :
    (kind = .create ∧ ∃ data, resolveInput s c input = .ok data ∧ i = .insert s.drawId.1 data) ∨
    (kind = .update ∧ ∃ id data, requiredId input = .ok id ∧ resolveInput s c input = .ok data ∧
      i = .merge id data) ∨
    (kind = .replace ∧ ∃ given data, inputId input = .ok given ∧ resolveInput s c input = .ok data ∧
      i = .replace (given.getD s.drawId.1) data) ∨
    (kind = .remove ∧ ∃ id, requiredId input = .ok id ∧ i = .mark id true) ∨
    (kind = .recover ∧ ∃ id, requiredId input = .ok id ∧ i = .mark id false) := by
  cases kind with
  | create =>
    obtain ⟨data, hdata, hi⟩ := bind_eq_ok h
    cases hi
    exact Or.inl ⟨rfl, data, hdata, rfl⟩
  | update =>
    obtain ⟨id, hid, hrest⟩ := bind_eq_ok h
    obtain ⟨data, hdata, hi⟩ := bind_eq_ok hrest
    cases hi
    exact Or.inr (Or.inl ⟨rfl, id, data, hid, hdata, rfl⟩)
  | replace =>
    obtain ⟨given, hid, hrest⟩ := bind_eq_ok h
    obtain ⟨data, hdata, hi⟩ := bind_eq_ok hrest
    cases hi
    exact Or.inr (Or.inr (Or.inl ⟨rfl, given, data, hid, hdata, rfl⟩))
  | remove =>
    obtain ⟨id, hid, hi⟩ := bind_eq_ok h
    cases hi
    exact Or.inr (Or.inr (Or.inr (Or.inl ⟨rfl, id, hid, rfl⟩)))
  | recover =>
    obtain ⟨id, hid, hi⟩ := bind_eq_ok h
    cases hi
    exact Or.inr (Or.inr (Or.inr (Or.inr ⟨rfl, id, hid, rfl⟩)))

/-! ## Writing -/

theorem equalities_byId (id : ObjectId) : Query.equalities (byId id) = byId id := by
  have hs : "_id".startsWith "$" = false := by
    rw [← Bool.not_eq_true, String.startsWith_string_iff]
    decide
  have hop : Query.isOperators (.objectId id) = false := rfl
  have hp : Path.IsPlain "_id" := by decide
  rw [Query.equalities, byId, List.foldl_cons, List.foldl_nil, hs, hop, Bool.or_false,
    if_neg Bool.false_ne_true]
  exact Path.set_plain [] (.objectId id) hp

theorem setAll_recordMembers (doc data : Document) (version : Int) :
    Update.setAll doc (Intent.recordMembers version data) =
      Fields.insert (Fields.insert doc "data" (.document data)) "_classVersion"
        (.int64 version) := by
  rw [Intent.recordMembers, Update.setAll_cons, Update.setAll_cons, Path.set_plain _ _ (by decide),
    Path.set_plain _ _ (by decide)]
  rfl

theorem insertNew_byId (s : Store) (className : String) (id : ObjectId) (version : Int)
    (data : Document) :
    s.insertNew className (byId id) (setting (Intent.recordMembers version data)) =
      (.ok (Intent.upserted version s.clock id data),
        s.withDocuments className (s.documents className ++
          [Intent.upserted version s.clock id data])) := by
  rw [insertNew, equalities_byId, apply_setting, setAll_recordMembers]
  rfl

/-- The paths an intent writes begin with the members of a record that hold data, version and
mark. -/
theorem head?_members {i : Intent} {version : Int} {path : String}
    (h : path ∈ Fields.names (i.members version)) :
    (Path.segments path).head? = some "data" ∨ (Path.segments path).head? = some "_classVersion" ∨
      (Path.segments path).head? = some "_deleted" := by
  have hdata : (Path.segments "data").head? = some "data" := rfl
  have hversion : (Path.segments "_classVersion").head? = some "_classVersion" := rfl
  have hmark : (Path.segments "_deleted").head? = some "_deleted" := rfl
  obtain ⟨entry, hentry, rfl⟩ := List.mem_map.mp h
  cases i with
  | insert id data =>
    rcases List.mem_cons.mp hentry with rfl | hm
    · exact Or.inl hdata
    · rw [List.mem_singleton.mp hm]
      exact Or.inr (Or.inl hversion)
  | replace id data =>
    rcases List.mem_cons.mp hentry with rfl | hm
    · exact Or.inl hdata
    · rw [List.mem_singleton.mp hm]
      exact Or.inr (Or.inl hversion)
  | merge id data =>
    rcases Fields.mem_insert hentry with rfl | hm
    · exact Or.inr (Or.inl hversion)
    · obtain ⟨m, -, rfl⟩ := List.mem_map.mp (Fields.mem_of_mem_ofEntries hm)
      rw [Path.segments_data]
      exact Or.inl rfl
  | mark id removed =>
    rw [List.mem_singleton.mp hentry]
    exact Or.inr (Or.inr hmark)

/-- A write keeps every member of a record but its data, its version, its mark and the time of its
last change. -/
theorem get?_stamped_members (i : Intent) (version : Int) (clock : Timestamp) (doc : Document)
    {name : String} (hname : name ∉ ["data", "_classVersion", "_deleted", "updatedAt"]) :
    Fields.get? (stamped (i.members version) clock doc) name = Fields.get? doc name := by
  simp only [List.mem_cons, List.not_mem_nil, or_false, not_or] at hname
  obtain ⟨hdata, hversion, hmark, htime⟩ := hname
  refine get?_stamped clock doc htime fun path hpath => ?_
  rcases head?_members hpath with h | h | h
  · rw [h]
    exact fun he => hdata (Option.some.inj he).symm
  · rw [h]
    exact fun he => hversion (Option.some.inj he).symm
  · rw [h]
    exact fun he => hmark (Option.some.inj he).symm

theorem get?_id_stamped (i : Intent) (version : Int) (clock : Timestamp) (doc : Document) :
    Fields.get? (stamped (i.members version) clock doc) "_id" = Fields.get? doc "_id" :=
  get?_stamped_members i version clock doc (by decide)

theorem find?_changed (i : Intent) (version : Int) (clock : Timestamp) (docs : List Document)
    (id : ObjectId) :
    (changeFirst (answersTo id) (stamped (i.members version) clock) docs).find? (answersTo id) =
      (docs.find? (answersTo id)).map (stamped (i.members version) clock) :=
  find?_changeFirst_self fun doc => answersTo_congr (get?_id_stamped i version clock doc) id

/-- What is found in a record after all of its data was written. -/
theorem get?_stamped_recordMembers (data : Document) (version : Int) (clock : Timestamp)
    (doc : Document) {name : String} (hu : name ≠ "updatedAt") :
    Fields.get? (stamped (Intent.recordMembers version data) clock doc) name =
      (Fields.get? (Intent.recordMembers version data) name).or (Fields.get? doc name) := by
  have hnames : Fields.names (Intent.recordMembers version data) = ["data", "_classVersion"] := rfl
  refine get?_stamped_plain clock doc hu ?_ ?_
  · rw [hnames]
    decide
  · rw [hnames]
    decide

/-- What is found in a record after its mark was set. -/
theorem get?_stamped_mark (id : ObjectId) (removed : Bool) (version : Int) (clock : Timestamp)
    (doc : Document) {name : String} (hu : name ≠ "updatedAt") :
    Fields.get? (stamped (Intent.members version (.mark id removed)) clock doc) name =
      (Fields.get? [("_deleted", Value.bool removed)] name).or (Fields.get? doc name) := by
  have hnames : Fields.names (Intent.members version (.mark id removed)) = ["_deleted"] := rfl
  refine get?_stamped_plain clock doc hu ?_ (List.nodup_singleton _)
  rw [hnames]
  decide

/-- A write touches at most one document of the class: nothing, or the record that is written takes
the place of at most one document. -/
theorem written_cases (i : Intent) (version : Int) (clock : Timestamp) (docs : List Document) :
    (i.written version clock docs = none ∧ i.writes version clock docs = docs) ∨
    ∃ front old back doc, docs = front ++ old ++ back ∧ old.length ≤ 1 ∧
      i.written version clock docs = some doc ∧
      i.writes version clock docs = front ++ doc :: back := by
  have happended : ∀ doc : Document, ∃ front old back, docs = front ++ old ++ back ∧
      old.length ≤ 1 ∧
      docs ++ [doc] = front ++ doc :: back := fun doc =>
    ⟨docs, [], [], by rw [List.append_nil, List.append_nil], Nat.zero_le 1, rfl⟩
  cases hf : docs.find? (answersTo i.id) with
  | some old =>
    obtain ⟨front, back, hdocs, hchanged⟩ :=
      changeFirst_of_find?_some (f := stamped (i.members version) clock) hf
    have hold : docs = front ++ [old] ++ back := by rw [hdocs, List.append_assoc]; rfl
    cases i with
    | insert id data =>
      obtain ⟨front, old, back, hsplit, hlen, happ⟩ :=
        happended (Intent.created version clock id data)
      exact Or.inr ⟨front, old, back, _, hsplit, hlen, rfl, happ⟩
    | merge id data =>
      exact Or.inr ⟨front, [old], back, _, hold, Nat.le_refl 1,
        congrArg (Option.map _) hf, hchanged⟩
    | mark id removed =>
      exact Or.inr ⟨front, [old], back, _, hold, Nat.le_refl 1,
        congrArg (Option.map _) hf, hchanged⟩
    | replace id data =>
      have hf' : docs.find? (answersTo id) = some old := hf
      refine Or.inr ⟨front, [old], back,
        stamped (Intent.members version (.replace id data)) clock old, hold, Nat.le_refl 1, ?_, ?_⟩
      · simp only [Intent.written, Intent.id, hf', Option.map_some, Option.getD_some]
      · simp only [Intent.writes, hf']
        exact hchanged
  | none =>
    have hsame := changeFirst_of_find?_none (f := stamped (i.members version) clock) hf
    cases i with
    | insert id data =>
      obtain ⟨front, old, back, hsplit, hlen, happ⟩ :=
        happended (Intent.created version clock id data)
      exact Or.inr ⟨front, old, back, _, hsplit, hlen, rfl, happ⟩
    | merge id data => exact Or.inl ⟨congrArg (Option.map _) hf, hsame⟩
    | mark id removed => exact Or.inl ⟨congrArg (Option.map _) hf, hsame⟩
    | replace id data =>
      have hf' : docs.find? (answersTo id) = none := hf
      obtain ⟨front, old, back, hsplit, hlen, happ⟩ :=
        happended (Intent.upserted version clock id data)
      refine Or.inr ⟨front, old, back, Intent.upserted version clock id data, hsplit, hlen, ?_, ?_⟩
      · simp only [Intent.written, Intent.id, hf', Option.map_none, Option.getD_none]
      · simp only [Intent.writes, hf']
        exact happ

/-- Every document after a write was there before or is the record that was written. -/
theorem mem_writes {i : Intent} {version : Int} {clock : Timestamp} {docs : List Document}
    {doc : Document} (h : doc ∈ i.writes version clock docs) :
    doc ∈ docs ∨ i.written version clock docs = some doc := by
  rcases written_cases i version clock docs with
    ⟨-, hsame⟩ | ⟨front, old, back, written, hsplit, -, hwritten, hwrites⟩
  · rw [hsame] at h
    exact Or.inl h
  · rw [hwrites] at h
    rcases List.mem_append.mp h with hm | hm
    · rw [hsplit]
      exact Or.inl (List.mem_append_left _ (List.mem_append_left _ hm))
    · rcases List.mem_cons.mp hm with rfl | hm
      · exact Or.inr hwritten
      · rw [hsplit]
        exact Or.inl (List.mem_append_right _ hm)

/-- What holds of changed and of new documents holds of the record that was written. -/
theorem of_written {P : Document → Prop} {i : Intent} {version : Int} {clock : Timestamp}
    {docs : List Document} (hstamped : ∀ doc ∈ docs, P (stamped (i.members version) clock doc))
    (hcreated : ∀ id data, i = .insert id data → P (Intent.created version clock id data))
    (hupserted : ∀ id data, i = .replace id data → P (Intent.upserted version clock id data))
    {doc : Document} (h : i.written version clock docs = some doc) : P doc := by
  have hchanged : ∀ d, (docs.find? (answersTo i.id)).map (stamped (i.members version) clock) =
      some d → P d := by
    intro d hd
    obtain ⟨old, hold, rfl⟩ := Option.map_eq_some_iff.mp hd
    exact hstamped old (List.mem_of_find?_eq_some hold)
  cases i with
  | insert id data =>
    cases h
    exact hcreated id data rfl
  | merge id data => exact hchanged doc h
  | mark id removed => exact hchanged doc h
  | replace id data =>
    have hid : Intent.id (.replace id data) = id := rfl
    rw [hid] at hchanged
    rw [Intent.written, hid] at h
    cases hf : docs.find? (answersTo id) with
    | some old =>
      rw [hf] at h hchanged
      exact hchanged doc h
    | none =>
      rw [hf] at h
      cases h
      exact hupserted id data rfl

/-- The record that was written is among the documents after the write. -/
theorem mem_of_written {i : Intent} {version : Int} {clock : Timestamp} {docs : List Document}
    {doc : Document} (h : i.written version clock docs = some doc) :
    doc ∈ i.writes version clock docs := by
  rcases written_cases i version clock docs with
    ⟨hnone, -⟩ | ⟨front, old, back, written, -, -, hwritten, hwrites⟩
  · rw [hnone] at h
    cases h
  · obtain rfl : written = doc := Option.some.inj (hwritten.symm.trans h)
    rw [hwrites]
    exact List.mem_append_right _ List.mem_cons_self

/-! ## Running a mutation -/

/-- An update by id writes the first record that answers to the id and tells whether there is
one. -/
theorem update_byId (s : Store) (className : String) (id : ObjectId) (members : Document) :
    s.update className (byId id) (setting members) =
      (.ok (if ((s.documents className).find? (answersTo id)).isSome then 1 else 0),
        s.withDocuments className
          (changeFirst (answersTo id) (stamped members s.clock) (s.documents className))) := by
  rw [Store.update, updateFirst_byId]
  cases (s.documents className).find? (answersTo id) with
  | none => rfl
  | some doc => rfl

/-- The record that is read after it was written. -/
theorem classById_changed (s : Store) (className : String) (i : Intent) (version : Int)
    (id : ObjectId) :
    Access.classById
        (s.withDocuments className
          (changeFirst (answersTo id) (stamped (i.members version) s.clock)
            (s.documents className))) className id =
      Access.parse className
        (((s.documents className).find? (answersTo id)).map
          (stamped (i.members version) s.clock)) := by
  rw [Access.classById_eq, documents_withDocuments, if_pos rfl, find?_changed]

/-- Whether an outcome is that of a mutation with some intent: the failure and the store as it was,
if there is no intent, and otherwise the answer for what was written and the store with that. -/
def Performs (kind : MutationKind) (s : Store) (c : ClassInfo) (version : Int)
    (input : Fields Datum) (outcome : Except ResolveError MutationPayload × Store) :
    Except ResolveError Intent → Prop
  | .error e => outcome.1 = .error e ∧ s.SameRecords outcome.2
  | .ok i =>
    outcome.1 = answer kind c.name input i.id (i.written version s.clock (s.documents c.name)) ∧
    s.Wrote outcome.2 c.name (i.writes version s.clock (s.documents c.name))

theorem sameRecords_refl (s : Store) : s.SameRecords s :=
  ⟨fun _ => rfl, rfl⟩

variable (s : Store) (c : ClassInfo) (version : Int) (input : Fields Datum)

theorem create_performs :
    Performs .create s c version input (create s c version input) (intent .create s c input) := by
  rw [create, intent]
  cases resolveInput s c input with
  | error e => exact And.intro rfl (sameRecords_refl s)
  | ok data => exact And.intro rfl (wrote_withDocuments s.drawId.2 c.name _)

theorem update_performs :
    Performs .update s c version input (update s c version input) (intent .update s c input) := by
  rw [update, intent]
  cases requiredId input with
  | error e => exact And.intro rfl (sameRecords_refl s)
  | ok id =>
    cases resolveInput s c input with
    | error e => exact And.intro rfl (sameRecords_refl s)
    | ok data =>
      have hread := classById_changed s c.name (.merge id data) version id
      have hstore := update_byId s c.name id (Intent.members version (.merge id data))
      simp only [Intent.members] at hstore ⊢
      rw [hstore]
      exact And.intro (congrArg (Except.map (payloadOf input)) hread)
        (wrote_withDocuments s c.name _)

/-- Replacing a record by id changes the first one that answers to the id, or appends a new one. -/
theorem findOneAndUpdate_byId (id : ObjectId) (data : Document) :
    s.findOneAndUpdate c.name (byId id) (setting (Intent.recordMembers version data)) true true =
      (.ok (Intent.written version s.clock (s.documents c.name) (.replace id data)),
        s.withDocuments c.name (Intent.writes version s.clock (s.documents c.name)
          (.replace id data))) := by
  have hid : Intent.id (.replace id data) = id := rfl
  rw [findOneAndUpdate, updateFirst_byId, Intent.written, Intent.writes, hid]
  cases (s.documents c.name).find? (answersTo id) with
  | some doc => rfl
  | none =>
    simp only [Option.map_none, insertNew_byId]
    rfl

theorem replace_performs :
    Performs .replace s c version input (replace s c version input)
      (intent .replace s c input) := by
  rw [replace, intent]
  cases inputId input with
  | error e => exact And.intro rfl (sameRecords_refl s)
  | ok given =>
    cases given with
    | some id =>
      cases hr : resolveInput s c input with
      | error e =>
        simp only [hr]
        exact And.intro rfl (sameRecords_refl s)
      | ok data =>
        have hstore := findOneAndUpdate_byId s c version id data
        simp only [hr, Intent.recordMembers] at hstore ⊢
        rw [hstore]
        exact And.intro rfl (wrote_withDocuments s c.name _)
    | none =>
      cases hr : resolveInput s c input with
      | error e =>
        simp only [resolveInput_drawId, hr]
        exact And.intro rfl (sameRecords_refl s)
      | ok data =>
        have hstore := findOneAndUpdate_byId s.drawId.2 c version s.drawId.1 data
        simp only [resolveInput_drawId, hr, Intent.recordMembers] at hstore ⊢
        rw [hstore]
        exact And.intro rfl (wrote_withDocuments s.drawId.2 c.name _)

theorem mark_eq (removed : Bool) (id : ObjectId) :
    mark s c removed id =
      (if ((s.documents c.name).find? (answersTo id)).isSome then .ok ()
        else .error (.notFound c.name),
        s.withDocuments c.name
          (Intent.writes version s.clock (s.documents c.name) (.mark id removed))) := by
  rw [mark, update_byId]
  cases (s.documents c.name).find? (answersTo id) with
  | some doc => rfl
  | none => rfl

theorem written_mark (docs : List Document) (clock : Timestamp) (id : ObjectId) (removed : Bool) :
    Intent.written version clock docs (.mark id removed) =
      (docs.find? (answersTo id)).map (stamped (Intent.members version (.mark id removed)) clock) :=
  rfl

theorem remove_performs :
    Performs .remove s c version input (remove s c input) (intent .remove s c input) := by
  rw [remove, intent]
  cases requiredId input with
  | error e => exact And.intro rfl (sameRecords_refl s)
  | ok id =>
    simp only [mark_eq s c version true id]
    have hw := written_mark version (s.documents c.name) s.clock id true
    have hwrote :=
      wrote_withDocuments s c.name
        (Intent.writes version s.clock (s.documents c.name) (.mark id true))
    cases hf : (s.documents c.name).find? (answersTo id) with
    | some doc =>
      rw [hf] at hw
      refine And.intro ?_ hwrote
      rw [hw]
      rfl
    | none =>
      rw [hf] at hw
      refine And.intro ?_ hwrote
      rw [hw]
      rfl

theorem recover_performs :
    Performs .recover s c version input (recover s c input) (intent .recover s c input) := by
  rw [recover, intent]
  cases requiredId input with
  | error e => exact And.intro rfl (sameRecords_refl s)
  | ok id =>
    simp only [mark_eq s c version false id]
    have hw := written_mark version (s.documents c.name) s.clock id false
    have hread := classById_changed s c.name (.mark id false) version id
    have hwrote :=
      wrote_withDocuments s c.name
        (Intent.writes version s.clock (s.documents c.name) (.mark id false))
    cases hf : (s.documents c.name).find? (answersTo id) with
    | some doc =>
      rw [hf] at hw hread
      refine And.intro ?_ hwrote
      rw [hw]
      exact congrArg (Except.map (payloadOf input)) hread
    | none =>
      rw [hf] at hw
      refine And.intro ?_ hwrote
      rw [hw]
      rfl

/-- Every mutation does what its intent says. -/
theorem run_performs (kind : MutationKind) :
    Performs kind s c version input (run kind s c version input) (intent kind s c input) := by
  cases kind with
  | create => exact create_performs s c version input
  | update => exact update_performs s c version input
  | replace => exact replace_performs s c version input
  | remove => exact remove_performs s c version input
  | recover => exact recover_performs s c version input

variable {s c version input} {kind : MutationKind}

/-- A mutation whose input is refused fails and writes nothing. -/
theorem run_refused {e : ResolveError} (h : intent kind s c input = .error e) :
    (run kind s c version input).1 = .error e ∧ s.SameRecords (run kind s c version input).2 := by
  have hrun := run_performs s c version input kind
  rw [h] at hrun
  exact hrun

/-- A mutation whose input is accepted writes its intent, and answers what it has written. -/
theorem run_accepted {i : Intent} (h : intent kind s c input = .ok i) :
    (run kind s c version input).1 =
        answer kind c.name input i.id (i.written version s.clock (s.documents c.name)) ∧
      s.Wrote (run kind s c version input).2 c.name
        (i.writes version s.clock (s.documents c.name)) := by
  have hrun := run_performs s c version input kind
  rw [h] at hrun
  exact hrun

/-- After a mutation a class has the documents it had, or it is the class of the mutation and has
those after the write. -/
theorem documents_run (className : String) :
    (run kind s c version input).2.documents className = s.documents className ∨
    ∃ i, intent kind s c input = .ok i ∧ lowerText className = lowerText c.name ∧
      (run kind s c version input).2.documents className =
        i.writes version s.clock (s.documents c.name) := by
  cases hi : intent kind s c input with
  | error e => exact Or.inl ((run_refused hi).2.1 className)
  | ok i =>
    have hwrote :
        s.Wrote (run kind s c version input).2 c.name
          (i.writes version s.clock (s.documents c.name)) :=
      (run_accepted hi).2
    by_cases hclass : lowerText className = lowerText c.name
    · exact Or.inr ⟨i, rfl, hclass, (hwrote.1 className).trans (if_pos hclass)⟩
    · exact Or.inl ((hwrote.1 className).trans (if_neg hclass))

end Mutation

end ClassApi
