import ClassApi.Access.Mutation
import ClassApi.Proofs.Path

/-!
# Selecting documents by id

A selector of an id cannot fail: it selects the documents that answer to the id, and an operation
that takes the first match takes the first of them. Updates that only write members cannot fail
either, so each store operation on an id is a plain function of the list of documents. An operation
on one class leaves the documents of all others alone.
-/

namespace ClassApi.Store

/-- The id a document is stored under. -/
def idOf (doc : Document) : Option ObjectId :=
  (Fields.get? doc "_id").bind Value.asObjectId?

/-- Whether a document answers to an id: it is stored under the id, or under a list that holds
it. -/
def answersTo (id : ObjectId) (doc : Document) : Bool :=
  match Fields.get? doc "_id" with
  | none => false
  | some v => v.equal (.objectId id) ||
    Query.anyItem (fun item => item.equal (.objectId id)) (some v)

theorem selects_byId (doc : Document) (id : ObjectId) :
    Query.selects doc (byId id) = .ok (answersTo id doc) := by
  have hlook : Path.lookup doc "_id" = Fields.get? doc "_id" := rfl
  have hsat : Query.satisfies (Fields.get? doc "_id") (.objectId id) = .ok (answersTo id doc) := by
    have hop : Query.isOperators (.objectId id) = false := rfl
    rw [Query.satisfies, hop, if_neg Bool.false_ne_true, answersTo]
    cases Fields.get? doc "_id" with
    | none => rfl
    | some v => rfl
  rw [byId, Query.selects, hlook, hsat]
  cases answersTo id doc with
  | false => rfl
  | true => rfl

theorem answersTo_congr {doc doc' : Document} (h : Fields.get? doc' "_id" = Fields.get? doc "_id")
    (id : ObjectId) : answersTo id doc' = answersTo id doc := by
  rw [answersTo, answersTo, h]

theorem idOf_eq {doc : Document} {id : ObjectId} (h : Fields.get? doc "_id" = some (.objectId id)) :
    idOf doc = some id := by
  rw [idOf, h]
  rfl

theorem idOf_congr {doc doc' : Document} (h : Fields.get? doc' "_id" = Fields.get? doc "_id") :
    idOf doc' = idOf doc := by
  rw [idOf, idOf, h]

theorem get?_of_idOf {doc : Document} {id : ObjectId} (h : idOf doc = some id) :
    Fields.get? doc "_id" = some (.objectId id) := by
  rw [idOf] at h
  obtain ⟨v, hv, hid⟩ := Option.bind_eq_some_iff.mp h
  cases v with
  | objectId x =>
    cases hid
    exact hv
  | _ => cases hid

theorem equal_objectId (a b : ObjectId) :
    Value.equal (.objectId a) (.objectId b) = decide (a = b) := by
  rw [Value.equal.eq_3 _ _ (by simp) (by simp)]
  rfl

/-- A document stored under an object id answers to that id alone. -/
theorem answersTo_eq_decide {doc : Document} {x : ObjectId} (h : idOf doc = some x)
    (id : ObjectId) : answersTo id doc = decide (x = id) := by
  rw [answersTo, get?_of_idOf h]
  simp only [equal_objectId, Query.anyItem, Bool.or_false]

/-! ## Changing the first match -/

/-- Changes the first document of a list that passes a test. -/
def changeFirst (p : Document → Bool) (f : Document → Document) : List Document → List Document
  | [] => []
  | doc :: rest => if p doc then f doc :: rest else doc :: changeFirst p f rest

section ChangeFirst

variable {p q : Document → Bool} {f : Document → Document} {docs : List Document}

theorem changeFirst_of_find?_none (h : docs.find? p = none) : changeFirst p f docs = docs := by
  induction docs with
  | nil => rfl
  | cons doc rest ih =>
    have hp : ¬ p doc = true := List.find?_eq_none.mp h doc List.mem_cons_self
    rw [List.find?_cons_of_neg hp] at h
    rw [changeFirst, if_neg hp, ih h]

/-- Where the changed document stands. -/
theorem changeFirst_of_find?_some {doc : Document} (h : docs.find? p = some doc) :
    ∃ front back, docs = front ++ doc :: back ∧ changeFirst p f docs = front ++ f doc :: back := by
  induction docs with
  | nil => cases h
  | cons head rest ih =>
    by_cases hp : p head = true
    · rw [List.find?_cons_of_pos hp] at h
      cases h
      exact ⟨[], rest, rfl, by rw [changeFirst, if_pos hp]; rfl⟩
    · rw [List.find?_cons_of_neg hp] at h
      obtain ⟨front, back, hdocs, hchanged⟩ := ih h
      exact ⟨head :: front, back, by rw [hdocs]; rfl, by rw [changeFirst, if_neg hp, hchanged]; rfl⟩

/-- A change that keeps the test is found by it. -/
theorem find?_changeFirst_self (hf : ∀ doc, p (f doc) = p doc) :
    (changeFirst p f docs).find? p = (docs.find? p).map f := by
  induction docs with
  | nil => rfl
  | cons doc rest ih =>
    by_cases hp : p doc = true
    · have hpf : p (f doc) = true := (hf doc).trans hp
      rw [changeFirst, if_pos hp, List.find?_cons_of_pos hpf, List.find?_cons_of_pos hp]
      rfl
    · rw [changeFirst, if_neg hp, List.find?_cons_of_neg hp, List.find?_cons_of_neg hp]
      exact ih

/-- A change of a document that another test refuses before and after is not seen by that test. -/
theorem find?_changeFirst_other
    (hq : ∀ doc ∈ docs, p doc = true → q doc = false ∧ q (f doc) = false) :
    (changeFirst p f docs).find? q = docs.find? q := by
  induction docs with
  | nil => rfl
  | cons doc rest ih =>
    by_cases hp : p doc = true
    · obtain ⟨hbefore, hafter⟩ := hq doc List.mem_cons_self hp
      rw [changeFirst, if_pos hp, List.find?_cons_of_neg (by rw [hafter]; exact Bool.false_ne_true),
        List.find?_cons_of_neg (by rw [hbefore]; exact Bool.false_ne_true)]
    · rw [changeFirst, if_neg hp, List.find?_cons, List.find?_cons,
        ih fun d hd => hq d (List.mem_cons_of_mem _ hd)]

theorem map_changeFirst {β : Type} (g : Document → β) (hg : ∀ doc ∈ docs, g (f doc) = g doc) :
    (changeFirst p f docs).map g = docs.map g := by
  induction docs with
  | nil => rfl
  | cons doc rest ih =>
    by_cases hp : p doc = true
    · rw [changeFirst, if_pos hp, List.map_cons, List.map_cons, hg doc List.mem_cons_self]
    · rw [changeFirst, if_neg hp, List.map_cons, List.map_cons, ih fun d hd =>
        hg d (List.mem_cons_of_mem _ hd)]

/-- Every document after a change was there before or is the changed form of one that passed the
test. -/
theorem mem_changeFirst {doc : Document} (h : doc ∈ changeFirst p f docs) :
    doc ∈ docs ∨ ∃ old ∈ docs, p old = true ∧ doc = f old := by
  induction docs with
  | nil => cases h
  | cons head rest ih =>
    by_cases hp : p head = true
    · rw [changeFirst, if_pos hp] at h
      rcases List.mem_cons.mp h with he | hm
      · exact Or.inr ⟨head, List.mem_cons_self, hp, he⟩
      · exact Or.inl (List.mem_cons_of_mem _ hm)
    · rw [changeFirst, if_neg hp] at h
      rcases List.mem_cons.mp h with he | hm
      · exact Or.inl (he ▸ List.mem_cons_self)
      · rcases ih hm with hold | ⟨old, hold, hpold, he⟩
        · exact Or.inl (List.mem_cons_of_mem _ hold)
        · exact Or.inr ⟨old, List.mem_cons_of_mem _ hold, hpold, he⟩

end ChangeFirst

/-! ## Store operations on an id -/

/-- When a query never fails, the first document that is selected is the first one of which it
holds. -/
theorem selectFirst_eq_ok {query : Document} {docs : List Document} {test : Document → Bool}
    (h : ∀ doc ∈ docs, Query.selects doc query = .ok (test doc)) :
    selectFirst query docs = .ok (docs.find? test) := by
  induction docs with
  | nil => rfl
  | cons doc rest ih =>
    rw [selectFirst, h doc List.mem_cons_self]
    cases ht : test doc with
    | true => rw [List.find?_cons_of_pos ht]
    | false =>
      rw [List.find?_cons_of_neg (by rw [ht]; exact Bool.false_ne_true)]
      exact ih fun d hd => h d (List.mem_cons_of_mem _ hd)

theorem selectFirst_byId (id : ObjectId) (docs : List Document) :
    selectFirst (byId id) docs = .ok (docs.find? (answersTo id)) :=
  selectFirst_eq_ok fun doc _ => selects_byId doc id

theorem findOne_byId (s : Store) (className : String) (id : ObjectId) :
    s.findOne className (byId id) = .ok ((s.documents className).find? (answersTo id)) :=
  selectFirst_byId id _

/-- A document after some of its members were written at some time. -/
def stamped (members : Document) (clock : Timestamp) (doc : Document) : Document :=
  Fields.insert (Update.setAll doc members) "updatedAt" (.date clock)

theorem apply_setting (doc members : Document) :
    Update.apply doc (Mutation.setting members) = (Update.setAll doc members, none) := rfl

theorem updateFirst_byId (id : ObjectId) (members : Document) (clock : Timestamp)
    (docs : List Document) :
    updateFirst (byId id) (Mutation.setting members) clock docs =
      (changeFirst (answersTo id) (stamped members clock) docs,
        .ok ((docs.find? (answersTo id)).map fun doc => (doc, stamped members clock doc))) := by
  induction docs with
  | nil => rfl
  | cons doc rest ih =>
    rw [updateFirst, selects_byId]
    cases ha : answersTo id doc with
    | true =>
      rw [changeFirst, if_pos ha, List.find?_cons_of_pos ha, apply_setting]
      rfl
    | false =>
      have hne : ¬ answersTo id doc = true := by rw [ha]; exact Bool.false_ne_true
      rw [changeFirst, if_neg hne, List.find?_cons_of_neg hne, ih]

/-- A write at paths that begin with other names leaves a member as it was. -/
theorem get?_stamped {members : Document} (clock : Timestamp) (doc : Document) {name : String}
    (hu : name ≠ "updatedAt")
    (h : ∀ path ∈ Fields.names members, (Path.segments path).head? ≠ some name) :
    Fields.get? (stamped members clock doc) name = Fields.get? doc name := by
  rw [stamped, Fields.get?_insert_of_ne _ _ hu]
  exact Update.get?_setAll_of_ne doc h

/-- What is found at a name after a write whose paths are plain names. -/
theorem get?_stamped_plain {members : Document} (clock : Timestamp) (doc : Document) {name : String}
    (hu : name ≠ "updatedAt") (hp : ∀ path ∈ Fields.names members, Path.IsPlain path)
    (hn : (Fields.names members).Nodup) :
    Fields.get? (stamped members clock doc) name =
      (Fields.get? members name).or (Fields.get? doc name) := by
  rw [stamped, Fields.get?_insert_of_ne _ _ hu]
  exact Update.get?_setAll_plain doc hp hn name

/-! ## Documents by class -/

/-- Writing the documents of a class leaves those of all others alone. -/
theorem documents_withDocuments (s : Store) (className other : String) (docs : List Document) :
    (s.withDocuments className docs).documents other =
      if lowerText other = lowerText className then docs else s.documents other := by
  rw [documents, withDocuments, Fields.get?_insert]
  by_cases h : lowerText other = lowerText className
  · rw [if_pos h, if_pos h]
    rfl
  · rw [if_neg h, if_neg h]
    rfl

theorem documents_congr (s : Store) {className other : String}
    (h : lowerText other = lowerText className) : s.documents other = s.documents className := by
  rw [documents, documents, h]

end ClassApi.Store
