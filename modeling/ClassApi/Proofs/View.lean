import ClassApi.Proofs.Input
import ClassApi.Proofs.Intent

/-!
# What a write does to a record

A record is seen here without the order of its members and without the times stamped on it: the
values of its fields, its version and its mark of removal. Each kind of intent has a plain effect on
what is seen, and a write has that effect on the first document that answers to the id.
-/

namespace ClassApi

/-- What is seen of a record. -/
structure RecordView where
  /-- The values by field. -/
  data : String → Option Value
  /-- The version of the class definitions at the last write, if it can be read. -/
  version : Option Int
  /-- Whether the record is marked as removed. -/
  removed : Bool

namespace RecordView

/-- What is seen of a document. -/
def ofDocument (doc : Document) : RecordView where
  data := Fields.get? (Path.inner doc "data")
  version := StoredRecord.readVersion (Fields.get? doc "_classVersion")
  removed := StoredRecord.readDeleted (Fields.get? doc "_deleted") == some true

/-- A record that was just written for the first time. -/
def fresh (version : Int) (data : Document) : RecordView where
  data := Fields.get? data
  version := some version
  removed := false

/-- Some fields are written over, the others are kept. -/
def merge (version : Int) (data : Document) (old : RecordView) : RecordView :=
  { old with
    data := fun name => (Fields.get? data name).or (old.data name)
    version := some version }

/-- All fields are replaced, the mark is kept. -/
def replace (version : Int) (data : Document) (old : RecordView) : RecordView :=
  { fresh version data with removed := old.removed }

/-- Only the mark is set. -/
def mark (removed : Bool) (old : RecordView) : RecordView :=
  { old with removed := removed }

end RecordView

namespace Intent

/-- The data that an intent writes, if it writes any. -/
def data? : Intent → Option Document
  | insert _ data => some data
  | merge _ data => some data
  | replace _ data => some data
  | mark _ _ => none

/-- Whether the names in the data of an intent do not repeat and have no dots. -/
def PlainData (i : Intent) : Prop :=
  ∀ data, i.data? = some data → (Fields.names data).Nodup ∧
    ∀ name ∈ Fields.names data, Path.IsPlain name

/-- What an intent makes of the record with its id. -/
def effect (version : Int) : Intent → Option RecordView → Option RecordView
  | insert _ data, _ => some (.fresh version data)
  | merge _ data, old => old.map (.merge version data)
  | replace _ data, old => some ((old.map (.replace version data)).getD (.fresh version data))
  | mark _ removed, old => old.map (.mark removed)

/-- A value seen after the effect of an intent was seen before or is among the data of the
intent. -/
theorem data_of_effect {i : Intent} {version : Int} {old : Option RecordView} {r : RecordView}
    (h : i.effect version old = some r) {name : String} {v : Value} (hv : r.data name = some v) :
    (∃ o, old = some o ∧ o.data name = some v) ∨ ∃ data, i.data? = some data ∧
      Fields.get? data name = some v := by
  cases i with
  | insert id data =>
    cases h
    exact Or.inr ⟨data, rfl, hv⟩
  | merge id data =>
    obtain ⟨o, ho, rfl⟩ := Option.map_eq_some_iff.mp h
    rcases Option.or_eq_some_iff.mp hv with hnew | ⟨-, hold⟩
    · exact Or.inr ⟨data, rfl, hnew⟩
    · exact Or.inl ⟨o, ho, hold⟩
  | replace id data =>
    cases h
    cases old with
    | none => exact Or.inr ⟨data, rfl, hv⟩
    | some o => exact Or.inr ⟨data, rfl, hv⟩
  | mark id removed =>
    obtain ⟨o, ho, rfl⟩ := Option.map_eq_some_iff.mp h
    exact Or.inl ⟨o, ho, hv⟩

end Intent

namespace Store

open Intent

theorem inner_congr {doc doc' : Document} {head : String}
    (h : Fields.get? doc' head = Fields.get? doc head) :
    Path.inner doc' head = Path.inner doc head := by
  rw [Path.inner, Path.inner, h]

theorem members_merge {data : Document} (hn : (Fields.names data).Nodup) (version : Int)
    (id : ObjectId) :
    members version (.merge id data) = Update.below "data" data ++
      [("_classVersion", .int64 version)] := by
  have hnames :
      Fields.names (Update.below "data" data) = (Fields.names data).map ("data." ++ ·) := by
    rw [Update.below, Fields.names, Fields.names, List.map_map, List.map_map]
    rfl
  have hnodup : (Fields.names (Update.below "data" data)).Nodup := by
    rw [hnames]
    exact hn.map Path.data_injective
  have hversion : "_classVersion" ∉ Fields.names (Update.below "data" data) := by
    rw [hnames]
    intro hm
    obtain ⟨name, -, hname⟩ := List.mem_map.mp hm
    have hlist := congrArg String.toList hname
    simp at hlist
  have hentries : (data.map fun m => ("data." ++ m.1, m.2)) = Update.below "data" data := rfl
  rw [members, hentries, Fields.ofEntries_of_nodup hnodup, Fields.insert_eq_append _ hversion]

/-- A document after data was merged into it at some time. -/
def merged (version : Int) (clock : Timestamp) (data doc : Document) : Document :=
  stamped (Update.below "data" data ++ [("_classVersion", .int64 version)]) clock doc

theorem stamped_members_merge {data : Document} (hn : (Fields.names data).Nodup) (version : Int)
    (clock : Timestamp) (id : ObjectId) (doc : Document) :
    stamped (members version (.merge id data)) clock doc = merged version clock data doc := by
  rw [members_merge hn, merged]

/-- Merging changes the data, the version and the time of the last change, and nothing else. -/
theorem get?_merged_of_ne (version : Int) (clock : Timestamp) (data doc : Document) {name : String}
    (hname : name ∉ ["data", "_classVersion", "updatedAt"]) :
    Fields.get? (merged version clock data doc) name = Fields.get? doc name := by
  simp only [List.mem_cons, List.not_mem_nil, or_false, not_or] at hname
  obtain ⟨hdata, hversion, htime⟩ := hname
  refine get?_stamped clock doc htime fun path hpath => ?_
  obtain ⟨entry, hentry, rfl⟩ := List.mem_map.mp hpath
  rcases List.mem_append.mp hentry with hbelow | hlast
  · obtain ⟨field, -, rfl⟩ := List.mem_map.mp hbelow
    rw [Path.segments_below field.1 (by decide), List.head?_cons]
    exact fun he => hdata (Option.some.inj he).symm
  · have hhead : (Path.segments "_classVersion").head? = some "_classVersion" := rfl
    rw [List.mem_singleton.mp hlast, hhead]
    exact fun he => hversion (Option.some.inj he).symm

theorem merged_eq (version : Int) (clock : Timestamp) (data doc : Document) :
    merged version clock data doc =
      Fields.insert (Fields.insert (Update.setAll doc (Update.below "data" data)) "_classVersion"
        (.int64 version)) "updatedAt" (.date clock) := by
  rw [merged, stamped, Update.setAll_append, Update.setAll_cons, Path.set_plain _ _ (by decide)]
  rfl

theorem get?_time_merged (version : Int) (clock : Timestamp) (data doc : Document) :
    Fields.get? (merged version clock data doc) "updatedAt" = some (.date clock) := by
  rw [merged_eq, Fields.get?_insert_self]

theorem get?_version_merged (version : Int) (clock : Timestamp) (data doc : Document) :
    Fields.get? (merged version clock data doc) "_classVersion" = some (.int64 version) := by
  rw [merged_eq, Fields.get?_insert_of_ne _ _ (by decide), Fields.get?_insert_self]

theorem get?_data_stamped_merge {data : Document} (hn : (Fields.names data).Nodup) (version : Int)
    (clock : Timestamp) (id : ObjectId) (doc : Document) :
    Fields.get? (stamped (members version (.merge id data)) clock doc) "data" =
      Fields.get? (Update.setAll doc (Update.below "data" data)) "data" := by
  rw [stamped_members_merge hn, merged_eq, Fields.get?_insert_of_ne _ _ (by decide),
    Fields.get?_insert_of_ne _ _ (by decide)]

theorem get?_version_stamped_merge {data : Document} (hn : (Fields.names data).Nodup)
    (version : Int) (clock : Timestamp) (id : ObjectId) (doc : Document) :
    Fields.get? (stamped (members version (.merge id data)) clock doc) "_classVersion" =
      some (.int64 version) := by
  rw [stamped_members_merge hn, get?_version_merged]

theorem get?_deleted_stamped_merge {data : Document} (hn : (Fields.names data).Nodup)
    (version : Int) (clock : Timestamp) (id : ObjectId) (doc : Document) :
    Fields.get? (stamped (members version (.merge id data)) clock doc) "_deleted" =
      Fields.get? doc "_deleted" := by
  rw [stamped_members_merge hn, get?_merged_of_ne _ _ _ _ (by decide)]

/-- What is seen of a record after some of its fields were written. -/
theorem view_stamped_merge {data : Document} (hn : (Fields.names data).Nodup)
    (hp : ∀ name ∈ Fields.names data, Path.IsPlain name) (version : Int) (clock : Timestamp)
    (id : ObjectId) (doc : Document) :
    RecordView.ofDocument (stamped (members version (.merge id data)) clock doc) =
      RecordView.merge version data (RecordView.ofDocument doc) := by
  have hdata : Fields.get? (Update.setAll (Path.inner doc "data") data) =
      fun name => (Fields.get? data name).or (Fields.get? (Path.inner doc "data") name) :=
    funext (Update.get?_setAll_plain (Path.inner doc "data") hp hn)
  rw [RecordView.ofDocument, inner_congr (get?_data_stamped_merge hn version clock id doc),
    Update.inner_setAll_below doc data (by decide), hdata, get?_version_stamped_merge hn,
    get?_deleted_stamped_merge hn]
  rfl

/-- What is seen of a record after all of its data was written. -/
theorem view_stamped_replace (data : Document) (version : Int) (clock : Timestamp) (id : ObjectId)
    (doc : Document) :
    RecordView.ofDocument (stamped (members version (.replace id data)) clock doc) =
      RecordView.replace version data (RecordView.ofDocument doc) := by
  have hmembers : members version (.replace id data) = recordMembers version data := rfl
  have hdata : Path.inner (stamped (recordMembers version data) clock doc) "data" = data := by
    refine Path.inner_of_get? ?_
    rw [Mutation.get?_stamped_recordMembers data version clock doc (by decide)]
    rfl
  rw [hmembers, RecordView.ofDocument, hdata,
    Mutation.get?_stamped_recordMembers data version clock doc (by decide),
    Mutation.get?_stamped_recordMembers data version clock doc (by decide)]
  rfl

/-- What is seen of a record after its mark was set. -/
theorem view_stamped_mark (removed : Bool) (version : Int) (clock : Timestamp) (id : ObjectId)
    (doc : Document) :
    RecordView.ofDocument (stamped (members version (.mark id removed)) clock doc) =
      RecordView.mark removed (RecordView.ofDocument doc) := by
  have hget : ∀ name, name ≠ "updatedAt" →
      Fields.get? (stamped (members version (.mark id removed)) clock doc) name =
      (Fields.get? [("_deleted", Value.bool removed)] name).or (Fields.get? doc name) :=
    fun _ hu => Mutation.get?_stamped_mark id removed version clock doc hu
  rw [RecordView.ofDocument, inner_congr (hget "data" (by decide)),
    hget "_classVersion" (by decide), hget "_deleted" (by decide)]
  cases removed with
  | true => rfl
  | false => rfl

/-- A written record is the effect of the intent on the record that was there. -/
theorem written_view {i : Intent} (h : i.PlainData) (version : Int) (clock : Timestamp)
    (docs : List Document) :
    (i.written version clock docs).map RecordView.ofDocument =
      i.effect version ((docs.find? (answersTo i.id)).map RecordView.ofDocument) := by
  cases i with
  | insert id data => rfl
  | merge id data =>
    obtain ⟨hn, hp⟩ := h data rfl
    show Option.map _ (Option.map _ (docs.find? (answersTo id))) = Option.map _ (Option.map _ _)
    rw [Option.map_map, Option.map_map]
    congr 1
    exact funext (view_stamped_merge hn hp version clock id)
  | mark id removed =>
    show Option.map _ (Option.map _ (docs.find? (answersTo id))) = Option.map _ (Option.map _ _)
    rw [Option.map_map, Option.map_map]
    congr 1
    exact funext (view_stamped_mark removed version clock id)
  | replace id data =>
    have hid : Intent.id (.replace id data) = id := rfl
    rw [written, effect, hid]
    cases docs.find? (answersTo id) with
    | none => rfl
    | some doc => exact congrArg some (view_stamped_replace data version clock id doc)

end Store

namespace Mutation

variable {kind : MutationKind} {s : Store} {c : ClassInfo} {input : Fields Datum} {i : Intent}

/-- The data of an intent is what the input gives. -/
theorem resolveInput_of_intent (h : intent kind s c input = .ok i) {data : Document}
    (hd : i.data? = some data) : resolveInput s c input = .ok data := by
  rcases intent_cases h with ⟨-, given, hgiven, rfl⟩ | ⟨-, id, given, -, hgiven, rfl⟩ |
    ⟨-, id, given, -, hgiven, rfl⟩ | ⟨-, id, -, rfl⟩ | ⟨-, id, -, rfl⟩
  · cases hd
    exact hgiven
  · cases hd
    exact hgiven
  · cases hd
    exact hgiven
  · cases hd
  · cases hd

theorem plainData_of_intent {definitions : List ClassDefinition} {r : Registry}
    (hr : Registry.ofDefinitions definitions = .ok r) (hc : c ∈ r.classes)
    (h : intent kind s c input = .ok i) : i.PlainData := by
  intro data hd
  have hdata := resolveInput_of_intent h hd
  exact ⟨resolveInput_nodup hdata, resolveInput_isPlain hr hc hdata⟩

end Mutation

end ClassApi
