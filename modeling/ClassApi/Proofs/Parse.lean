import ClassApi.Access.Record
import ClassApi.Proofs.Selection

/-!
# Reading documents as records

A document that reads as a record gives it its id, data and version, and a record is shown only when
it is not marked as removed. Reading fails for two reasons: the document does not decode, or it does
and the mark is set.
-/

namespace ClassApi

theorem StoredRecord.ofDocument?_eq_some_iff {doc : Document} {r : StoredRecord} :
    ofDocument? doc = some r ↔
      readId (Fields.get? doc "_id") = some r.id ∧ readData (Fields.get? doc "data") = some r.data ∧
      readVersion (Fields.get? doc "_classVersion") = some r.classVersion ∧
      readDeleted (Fields.get? doc "_deleted") = some r.deleted ∧
      readTime (Fields.get? doc "createdAt") = some r.createdAt ∧
      readTime (Fields.get? doc "updatedAt") = some r.updatedAt := by
  constructor
  · intro h
    rw [ofDocument?] at h
    obtain ⟨id, hid, h⟩ := Option.bind_eq_some_iff.mp h
    obtain ⟨data, hdata, h⟩ := Option.bind_eq_some_iff.mp h
    obtain ⟨version, hversion, h⟩ := Option.bind_eq_some_iff.mp h
    obtain ⟨deleted, hdeleted, h⟩ := Option.bind_eq_some_iff.mp h
    obtain ⟨createdAt, hcreated, h⟩ := Option.bind_eq_some_iff.mp h
    obtain ⟨updatedAt, hupdated, h⟩ := Option.bind_eq_some_iff.mp h
    cases h
    exact ⟨hid, hdata, hversion, hdeleted, hcreated, hupdated⟩
  · rintro ⟨hid, hdata, hversion, hdeleted, hcreated, hupdated⟩
    rw [ofDocument?, hid, hdata, hversion, hdeleted, hcreated, hupdated]
    rfl

theorem StoredRecord.ofDocument?_eq_some {doc : Document} {r : StoredRecord}
    (h : ofDocument? doc = some r) :
    readId (Fields.get? doc "_id") = some r.id ∧ readData (Fields.get? doc "data") = some r.data ∧
    readVersion (Fields.get? doc "_classVersion") = some r.classVersion ∧
    readDeleted (Fields.get? doc "_deleted") = some r.deleted := by
  obtain ⟨hid, hdata, hversion, hdeleted, -⟩ := ofDocument?_eq_some_iff.mp h
  exact ⟨hid, hdata, hversion, hdeleted⟩

namespace Access

/-- A document that is refused does not decode or is marked as removed. -/
theorem parse_error {className : String} {doc : Document} {e : ResolveError}
    (h : parse className (some doc) = .error e) :
    (e = .storage .invalidRecord ∧ StoredRecord.ofDocument? doc = none) ∨
    (e = .removed className ∧ ∃ stored, StoredRecord.ofDocument? doc = some stored ∧
      stored.deleted = true) := by
  rw [parse, StoredRecord.ofDocument] at h
  cases hr : StoredRecord.ofDocument? doc with
  | none =>
    rw [hr] at h
    cases h
    exact Or.inl ⟨rfl, rfl⟩
  | some stored =>
    rw [hr] at h
    cases hd : stored.deleted with
    | false => simp [hd] at h
    | true =>
      simp only [hd, if_pos] at h
      cases h
      exact Or.inr ⟨rfl, stored, rfl, hd⟩

/-- A document that is shown decodes and is not marked as removed. -/
theorem parse_ok {className : String} {doc : Document} {r : ClassRecord}
    (h : parse className (some doc) = .ok r) :
    ∃ stored, StoredRecord.ofDocument? doc = some stored ∧ stored.deleted = false ∧
      r = { className, id := stored.id, data := stored.data, classVersion := stored.classVersion,
            createdAt := stored.createdAt, updatedAt := stored.updatedAt } := by
  rw [parse, StoredRecord.ofDocument] at h
  cases hr : StoredRecord.ofDocument? doc with
  | none =>
    rw [hr] at h
    cases h
  | some stored =>
    rw [hr] at h
    cases hd : stored.deleted with
    | true => simp [hd] at h
    | false =>
      simp only [hd, Bool.false_eq_true, if_false] at h
      cases h
      exact ⟨stored, rfl, hd, rfl⟩

theorem classById_eq (s : Store) (className : String) (id : ObjectId) :
    classById s className id =
      parse className ((s.documents className).find? (Store.answersTo id)) := by
  rw [classById, findOne, Store.findOne_byId]
  rfl

/-- A value other than a list equals an id only if it is the id. -/
theorem eq_of_equal_objectId {v : Value} {id : ObjectId} (h : v.equal (.objectId id) = true) :
    v = .objectId id := by
  cases v with
  | objectId x =>
    rw [Store.equal_objectId] at h
    rw [of_decide_eq_true h]
  | _ => simp [Value.equal, Value.same, Value.asFloat?] at h

/-- A document that answers to an id and decodes is stored under the id. -/
theorem idOf_of_answersTo {doc : Document} {id : ObjectId} (h : Store.answersTo id doc = true)
    {stored : StoredRecord} (hs : StoredRecord.ofDocument? doc = some stored) :
    Store.idOf doc = some id ∧ stored.id = id := by
  obtain ⟨hread, -⟩ := StoredRecord.ofDocument?_eq_some hs
  rw [Store.answersTo] at h
  cases hv : Fields.get? doc "_id" with
  | none =>
    rw [hv] at h
    cases h
  | some v =>
    rw [hv] at h hread
    rcases Bool.or_eq_true_iff.mp h with heq | hany
    · rw [eq_of_equal_objectId heq] at hv hread
      cases hread
      exact ⟨Store.idOf_eq hv, rfl⟩
    · cases v with
      | array items => cases hread
      | _ => cases hany

end Access

end ClassApi
