import ClassApi.Proofs.Calls
import Mathlib.Data.List.Find

/-!
# Documents with ids of their own

When every document of a class is stored under an id of its own, a document answers to its id and to
no other, and at most one document answers to an id. Mutations keep it so, provided that the id of a
new record is not in use. Such a write is seen under its own id only: there, what was found is
replaced by what was written.
-/

namespace ClassApi

namespace Store

/-- Whether every document is stored under an id, and no two under the same. -/
structure UniqueIds (docs : List Document) : Prop where
  /-- There is an id. -/
  present : ∀ doc ∈ docs, ∃ id, idOf doc = some id
  /-- No id repeats. -/
  nodup : (docs.map idOf).Nodup

namespace UniqueIds

variable {docs : List Document}

theorem answersTo_iff (h : UniqueIds docs) {doc : Document} (hd : doc ∈ docs) (id : ObjectId) :
    answersTo id doc = true ↔ idOf doc = some id := by
  obtain ⟨x, hx⟩ := h.present doc hd
  rw [answersTo_eq_decide hx id, decide_eq_true_iff, hx, Option.some.injEq]

theorem eq_of_idOf (h : UniqueIds docs) {doc doc' : Document} (hd : doc ∈ docs) (hd' : doc' ∈ docs)
    (he : idOf doc = idOf doc') : doc = doc' :=
  List.inj_on_of_nodup_map h.nodup hd hd' he

/-- The document that answers to an id is the one that is stored under it. -/
theorem find?_eq_some_iff (h : UniqueIds docs) {doc : Document} {id : ObjectId} :
    docs.find? (answersTo id) = some doc ↔ doc ∈ docs ∧ idOf doc = some id := by
  constructor
  · intro hf
    have hm := List.mem_of_find?_eq_some hf
    exact ⟨hm, (h.answersTo_iff hm id).mp (List.find?_some hf)⟩
  · rintro ⟨hm, hid⟩
    cases hf : docs.find? (answersTo id) with
    | none => exact absurd ((h.answersTo_iff hm id).mpr hid) (List.find?_eq_none.mp hf doc hm)
    | some found =>
      have hfound := List.mem_of_find?_eq_some hf
      have hid' := (h.answersTo_iff hfound id).mp (List.find?_some hf)
      rw [h.eq_of_idOf hfound hm (hid'.trans hid.symm)]

theorem find?_eq_none_iff (h : UniqueIds docs) {id : ObjectId} :
    docs.find? (answersTo id) = none ↔ ∀ doc ∈ docs, idOf doc ≠ some id := by
  rw [List.find?_eq_none]
  constructor
  · intro hf doc hd hid
    exact hf doc hd ((h.answersTo_iff hd id).mpr hid)
  · intro hf doc hd ha
    exact hf doc hd ((h.answersTo_iff hd id).mp ha)

/-- Looking up a stored id finds what answers to it. -/
theorem get?_eq {s : Store} {className : String} (h : UniqueIds (s.documents className))
    (id : ObjectId) : s.get? className id = (s.documents className).find? (answersTo id) := by
  have hsame : ∀ doc ∈ s.documents className,
      decide ((Fields.get? doc "_id").bind Value.asObjectId? = some id) = answersTo id doc := by
    intro doc hd
    rw [Bool.eq_iff_iff, decide_eq_true_iff, h.answersTo_iff hd id]
    rfl
  rw [get?]
  exact List.find?_congr hsame

/-- Documents stay apart when one with a new id is added. -/
theorem append (h : UniqueIds docs) {doc : Document} {id : ObjectId} (hid : idOf doc = some id)
    (hnew : docs.find? (answersTo id) = none) : UniqueIds (docs ++ [doc]) := by
  refine ⟨?_, ?_⟩
  · intro d hd
    rcases List.mem_append.mp hd with hm | hm
    · exact h.present d hm
    · rw [List.mem_singleton.mp hm]
      exact ⟨id, hid⟩
  · rw [List.map_append, List.map_singleton, hid]
    refine h.nodup.append (List.nodup_singleton _) ?_
    intro x hx hx'
    obtain ⟨d, hd, rfl⟩ := List.mem_map.mp hx
    exact h.find?_eq_none_iff.mp hnew d hd (List.mem_singleton.mp hx')

/-- Documents stay apart when one of them is changed and keeps its id. -/
theorem change (h : UniqueIds docs) (p : Document → Bool) {f : Document → Document}
    (hf : ∀ doc, idOf (f doc) = idOf doc) : UniqueIds (changeFirst p f docs) := by
  refine ⟨?_, ?_⟩
  · intro d hd
    rcases mem_changeFirst hd with hm | ⟨old, hm, -, rfl⟩
    · exact h.present d hm
    · rw [hf]
      exact h.present old hm
  · rw [map_changeFirst idOf fun doc _ => hf doc]
    exact h.nodup

end UniqueIds

end Store

namespace Intent

open Store

variable {i : Intent} {version : Int} {clock : Timestamp} {docs : List Document}

/-- Whether the id of a new record is not in use. -/
def Fresh (docs : List Document) : Intent → Prop
  | insert id _ => docs.find? (answersTo id) = none
  | _ => True

theorem idOf_stamped (i : Intent) (version : Int) (clock : Timestamp) (doc : Document) :
    idOf (stamped (i.members version) clock doc) = idOf doc :=
  idOf_congr (Mutation.get?_id_stamped i version clock doc)

/-- A write changes the document that answers to the id; if there is none, it does nothing or adds a
document that is stored under the id. -/
theorem writes_cases (version : Int) (clock : Timestamp) (hfresh : i.Fresh docs) :
    (∃ old, docs.find? (answersTo i.id) = some old ∧
      i.writes version clock docs =
        changeFirst (answersTo i.id) (stamped (i.members version) clock) docs ∧
      i.written version clock docs = some (stamped (i.members version) clock old)) ∨
    (docs.find? (answersTo i.id) = none ∧ i.writes version clock docs = docs ∧
      i.written version clock docs = none) ∨
    (docs.find? (answersTo i.id) = none ∧ ∃ doc, idOf doc = some i.id ∧
      i.writes version clock docs = docs ++ [doc] ∧ i.written version clock docs = some doc) := by
  cases i with
  | insert id data => exact Or.inr (Or.inr ⟨hfresh, created version clock id data, rfl, rfl, rfl⟩)
  | merge id data =>
    cases hf : docs.find? (answersTo id) with
    | some old => exact Or.inl ⟨old, hf, rfl, congrArg (Option.map _) hf⟩
    | none => exact Or.inr (Or.inl ⟨hf, changeFirst_of_find?_none hf, congrArg (Option.map _) hf⟩)
  | mark id removed =>
    cases hf : docs.find? (answersTo id) with
    | some old => exact Or.inl ⟨old, hf, rfl, congrArg (Option.map _) hf⟩
    | none => exact Or.inr (Or.inl ⟨hf, changeFirst_of_find?_none hf, congrArg (Option.map _) hf⟩)
  | replace id data =>
    have hid : Intent.id (.replace id data) = id := rfl
    rw [writes, written, hid]
    cases docs.find? (answersTo id) with
    | some old => exact Or.inl ⟨old, rfl, rfl, rfl⟩
    | none => exact Or.inr (Or.inr ⟨rfl, upserted version clock id data, rfl, rfl, rfl⟩)

theorem uniqueIds_writes (h : UniqueIds docs) (hfresh : i.Fresh docs) :
    UniqueIds (i.writes version clock docs) := by
  rcases writes_cases version clock hfresh with
    ⟨old, -, hwrites, -⟩ | ⟨-, hwrites, -⟩ | ⟨hnone, doc, hid, hwrites, -⟩
  · rw [hwrites]
    exact h.change _ (idOf_stamped i version clock)
  · rw [hwrites]
    exact h
  · rw [hwrites]
    exact h.append hid hnone

/-- Under the id of a write, what was written is found. -/
theorem find?_writes_self (hfresh : i.Fresh docs) :
    (i.writes version clock docs).find? (answersTo i.id) = i.written version clock docs := by
  rcases writes_cases version clock hfresh with
    ⟨old, hsome, hwrites, hwritten⟩ | ⟨hnone, hwrites, hwritten⟩ |
    ⟨hnone, doc, hid, hwrites, hwritten⟩
  · rw [hwrites, hwritten, Mutation.find?_changed, hsome, Option.map_some]
  · rw [hwrites, hwritten, hnone]
  · have hanswers : answersTo i.id doc = true := by rw [answersTo_eq_decide hid, decide_eq_true_iff]
    rw [hwrites, hwritten, List.find?_append, hnone, Option.none_or,
      List.find?_cons_of_pos hanswers]

/-- Under every other id, what was there is found. -/
theorem find?_writes_other (h : UniqueIds docs) (hfresh : i.Fresh docs) {id : ObjectId}
    (hne : id ≠ i.id) :
    (i.writes version clock docs).find? (answersTo id) = docs.find? (answersTo id) := by
  have hother : ∀ doc, idOf doc = some i.id → answersTo id doc = false := by
    intro doc hdoc
    rw [answersTo_eq_decide hdoc, decide_eq_false_iff_not]
    exact Ne.symm hne
  rcases writes_cases version clock hfresh with
    ⟨old, -, hwrites, -⟩ | ⟨-, hwrites, -⟩ | ⟨-, doc, hid, hwrites, -⟩
  · rw [hwrites]
    refine find?_changeFirst_other fun doc hd hanswers => ?_
    have hdoc := (h.answersTo_iff hd i.id).mp hanswers
    exact ⟨hother doc hdoc, hother _ ((idOf_stamped i version clock doc).trans hdoc)⟩
  · rw [hwrites]
  · rw [hwrites, List.find?_append,
      List.find?_cons_of_neg (by rw [hother doc hid]; exact Bool.false_ne_true)]
    exact Option.or_none

end Intent

namespace Mutation

open Store

/-- The id of a new record is new when the ids that are given out are. -/
theorem fresh_of_intent {call : MutationCall} {s : Store} {i : Intent} (h : call.intent s = .ok i)
    (hs : UniqueIds (s.documents call.cls.name)) (hnew : s.DrawsNew call) :
    i.Fresh (s.documents call.cls.name) := by
  rcases intent_cases h with ⟨hkind, data, -, rfl⟩ | ⟨-, id, data, -, -, rfl⟩ |
    ⟨-, given, data, -, -, rfl⟩ | ⟨-, id, -, rfl⟩ | ⟨-, id, -, rfl⟩
  · have hdraws : call.draws = true := by rw [MutationCall.draws, hkind]
    have hnone := hnew hdraws
    rw [hs.get?_eq] at hnone
    exact hnone
  · trivial
  · trivial
  · trivial
  · trivial

end Mutation

end ClassApi
