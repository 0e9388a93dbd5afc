import ClassApi.Proofs.Intent
import ClassApi.Store.Fixture

/-!
# What a failed write leaves in the store

There is no transaction around a write of the store. An update changes a document in place, operator
by operator, and a fixture is loaded item by item. So a write that fails keeps what it had written
when it came to the part at fault. Which part that is depends on the update or the fixture alone:
the parts in front of it are written, those behind it are not. A failed update changes one document
at most, the first one that is selected, and a failed load only adds.
-/

namespace ClassApi

/-! ## Writes in parts -/

section Parts

variable {σ α : Type} {step : σ → α → Option StoreError × σ} {fault : α → Option StoreError}

/-- Takes the parts of a write in order, up to the first one that fails. -/
def runParts (step : σ → α → Option StoreError × σ) (s : σ) : List α → Option StoreError × σ
  | [] => (none, s)
  | part :: rest =>
    match step s part with
    | (some e, s) => (some e, s)
    | (none, s) => runParts step s rest

/-- Whether `part` is the first of some parts that has a fault, and which one. -/
structure FailsAt (fault : α → Option StoreError) (parts done : List α) (part : α) (rest : List α)
    (e : StoreError) : Prop where
  /-- Where the part stands. -/
  split : parts = done ++ part :: rest
  /-- The parts in front of it have no fault. -/
  faultless : ∀ other ∈ done, fault other = none
  /-- Its own fault. -/
  fault : fault part = some e

theorem runParts_append (s : σ) (front back : List α) :
    runParts step s (front ++ back) =
      match runParts step s front with
      | (some e, t) => (some e, t)
      | (none, t) => runParts step t back := by
  induction front generalizing s with
  | nil => rfl
  | cons part rest ih =>
    rw [List.cons_append, runParts, runParts]
    cases hstep : step s part with
    | mk failure t =>
      cases failure with
      | some e => rfl
      | none => exact ih t

/-- When the fault of a part is its own, a run that fails stops at the first part with a fault. -/
theorem runParts_fails (hstep : ∀ s part, (step s part).1 = fault part) {s : σ} {parts : List α}
    {e : StoreError} (h : (runParts step s parts).1 = some e) :
    ∃ done part rest, FailsAt fault parts done part rest e ∧
      (runParts step s parts).2 = (step (runParts step s done).2 part).2 := by
  induction parts generalizing s with
  | nil => cases h
  | cons part parts ih =>
    have hfault := hstep s part
    rw [runParts] at h ⊢
    cases hs : step s part with
    | mk failure t =>
      rw [hs] at h hfault
      cases failure with
      | some e' =>
        cases h
        exact ⟨[], part, parts, ⟨rfl, by simp, hfault.symm⟩, by rw [runParts, hs]⟩
      | none =>
        obtain ⟨done, bad, rest, ⟨hsplit, hdone, hbad⟩, hrun⟩ := ih h
        refine ⟨part :: done, bad, rest,
          ⟨?_, List.forall_mem_cons.mpr ⟨hfault.symm, hdone⟩, hbad⟩, ?_⟩
        · rw [hsplit, List.cons_append]
        · rw [runParts, hs]
          exact hrun

end Parts

/-! ## Updates -/

namespace Update

/-- The fault of an operator of an update, if it cannot be applied. -/
def fault : String × Value → Option StoreError
  | (operator, .document _) =>
    if operator = "$set" ∨ operator = "$unset" then none else some (.unsupportedOperator operator)
  | (operator, _) => some (.unsupportedOperator operator)

/-- Applies one operator. -/
def applyOne (doc : Document) (operator : String × Value) : Option StoreError × Document :=
  (apply doc [operator]).swap

theorem apply_cons (doc : Document) (operator : String × Value) (rest : Document) :
    apply doc (operator :: rest) =
      match fault operator with
      | none => apply (apply doc [operator]).1 rest
      | some e => (doc, some e) := by
  obtain ⟨name, argument⟩ := operator
  cases argument with
  | document fields =>
    by_cases hset : name = "$set"
    · subst hset
      rfl
    · by_cases hunset : name = "$unset"
      · subst hunset
        rfl
      · rw [fault, if_neg (by simp [hset, hunset]), apply]
        · exact hset
        · exact hunset
  | _ => rfl

theorem applyOne_fst (doc : Document) (operator : String × Value) :
    (applyOne doc operator).1 = fault operator := by
  rw [applyOne, apply_cons]
  cases fault operator with
  | none => rfl
  | some e => rfl

/-- An operator with a fault changes nothing. -/
theorem applyOne_snd_of_fault {operator : String × Value} {e : StoreError}
    (h : fault operator = some e) (doc : Document) : (applyOne doc operator).2 = doc := by
  rw [applyOne, apply_cons, h]
  rfl

theorem apply_eq (doc update : Document) :
    apply doc update = (runParts applyOne doc update).swap := by
  induction update generalizing doc with
  | nil => rfl
  | cons operator rest ih =>
    have hone : applyOne doc operator = (fault operator, (applyOne doc operator).2) :=
      Prod.ext (applyOne_fst doc operator) rfl
    rw [runParts, apply_cons, hone]
    cases hfault : fault operator with
    | none => exact ih _
    | some e =>
      rw [applyOne_snd_of_fault hfault]
      rfl

/-- An update that fails on a document leaves it as the operators in front of the first one with a
fault do. -/
theorem apply_fails {doc update : Document} {e : StoreError} (h : (apply doc update).2 = some e) :
    ∃ done operator rest, FailsAt fault update done operator rest e ∧
      (apply doc update).1 = (apply doc done).1 := by
  rw [apply_eq] at h ⊢
  obtain ⟨done, operator, rest, hfails, hrun⟩ := runParts_fails applyOne_fst h
  refine ⟨done, operator, rest, hfails, ?_⟩
  rw [apply_eq doc done]
  exact hrun.trans (applyOne_snd_of_fault hfails.fault _)

end Update

namespace Store

/-- Whether a document is the first of a list that a query selects, and where it stands. -/
structure SelectedAt (query : Document) (docs front : List Document) (doc : Document)
    (back : List Document) : Prop where
  /-- What stands before the document and behind it. -/
  split : docs = front ++ doc :: back
  /-- The documents before it are not selected. -/
  passed : ∀ other ∈ front, Query.selects other query = .ok false
  /-- The document is. -/
  selected : Query.selects doc query = .ok true

section Update

variable {s t : Store} {className : String} {query update : Document} {clock : Timestamp}
  {docs : List Document}

theorem updateFirst_append {front : List Document}
    (h : ∀ other ∈ front, Query.selects other query = .ok false) (rest : List Document) :
    updateFirst query update clock (front ++ rest) =
      (front ++ (updateFirst query update clock rest).1,
        (updateFirst query update clock rest).2) := by
  induction front with
  | nil => rfl
  | cons doc front ih =>
    obtain ⟨hdoc, hfront⟩ := List.forall_mem_cons.mp h
    rw [List.cons_append, updateFirst, hdoc, ih hfront]
    rfl

/-- When no document is selected, nothing is updated; the selection may fail on the way. -/
theorem updateFirst_unselected (h : ∀ front doc back, ¬ SelectedAt query docs front doc back) :
    (updateFirst query update clock docs).1 = docs ∧
      ∀ found, (updateFirst query update clock docs).2 ≠ .ok (some found) := by
  induction docs with
  | nil => exact ⟨rfl, fun found hfound => by cases hfound⟩
  | cons doc rest ih =>
    rw [updateFirst]
    cases hs : Query.selects doc query with
    | error e => exact ⟨rfl, fun found hfound => by cases hfound⟩
    | ok b =>
      cases b with
      | true => exact absurd ⟨rfl, by simp, hs⟩ (h [] doc rest)
      | false =>
        have hrest : ∀ front found back, ¬ SelectedAt query rest front found back := by
          intro front found back hat
          exact h (doc :: front) found back
            ⟨congrArg (doc :: ·) hat.split, List.forall_mem_cons.mpr ⟨hs, hat.passed⟩, hat.selected⟩
        obtain ⟨hdocs, hfound⟩ := ih hrest
        exact ⟨congrArg (doc :: ·) hdocs, hfound⟩

/-- When a document is selected, the update fails if it fails on the document, which then keeps what
was written to it. -/
theorem updateFirst_selected (update : Document) (clock : Timestamp) {front back : List Document}
    {doc : Document} (h : SelectedAt query docs front doc back) :
    (∃ e, (Update.apply doc update).2 = some e ∧
      updateFirst query update clock docs =
        (front ++ (Update.apply doc update).1 :: back, .error e)) ∨
    ∃ found, (updateFirst query update clock docs).2 = .ok (some found) := by
  rw [h.split, updateFirst_append h.passed, updateFirst, h.selected]
  cases ha : Update.apply doc update with
  | mk changed failure =>
    cases failure with
    | some e => exact Or.inl ⟨e, rfl, rfl⟩
    | none => exact Or.inr ⟨_, rfl⟩

/-- What an update of a class that fails with `e` leaves of a store: when a document was selected,
the first one that was is as the operators in front of the first one with a fault make it; otherwise
everything is as it was. -/
def LeavesUpdated (s t : Store) (className : String) (query update : Document)
    (e : StoreError) : Prop :=
  (∃ front doc back done operator rest,
      SelectedAt query (s.documents className) front doc back ∧
      FailsAt Update.fault update done operator rest e ∧
      s.Wrote t className (front ++ (Update.apply doc done).1 :: back)) ∨
    (∀ front doc back, ¬ SelectedAt query (s.documents className) front doc back) ∧ s.SameRecords t

/-- Writing back the documents that are there changes nothing. -/
theorem sameRecords_withDocuments (h : docs = s.documents className) :
    s.SameRecords (s.withDocuments className docs) := by
  refine ⟨fun other => ?_, rfl⟩
  rw [documents_withDocuments, h]
  by_cases hclass : lowerText other = lowerText className
  · rw [if_pos hclass, documents_congr s hclass]
  · rw [if_neg hclass]

/-- A failed update, seen on the documents of its class. -/
theorem leavesUpdated_of_updateFirst {e : StoreError}
    (h : (updateFirst query update s.clock (s.documents className)).2 = .error e) :
    LeavesUpdated s (s.withDocuments className
      (updateFirst query update s.clock (s.documents className)).1) className query update e := by
  by_cases hat : ∃ front doc back, SelectedAt query (s.documents className) front doc back
  · obtain ⟨front, doc, back, hat⟩ := hat
    rcases updateFirst_selected update s.clock hat with ⟨e', he', hrun⟩ | ⟨found, hok⟩
    · rw [hrun] at h
      cases h
      obtain ⟨done, operator, rest, hfails, hdoc⟩ := Update.apply_fails he'
      refine Or.inl ⟨front, doc, back, done, operator, rest, hat, hfails, ?_⟩
      rw [hrun, ← hdoc]
      exact wrote_withDocuments s className _
    · rw [hok] at h
      cases h
  · have hnone : ∀ front doc back, ¬ SelectedAt query (s.documents className) front doc back :=
      fun front doc back hsome => hat ⟨front, doc, back, hsome⟩
    exact Or.inr ⟨hnone, sameRecords_withDocuments (updateFirst_unselected hnone).1⟩

theorem update_fails {e : StoreError} (h : (s.update className query update).1 = .error e) :
    LeavesUpdated s (s.update className query update).2 className query update e :=
  leavesUpdated_of_updateFirst (map_eq_error h)

/-- A new document is written at once, or not at all. -/
theorem insertNew_fails {e : StoreError} (h : (s.insertNew className query update).1 = .error e) :
    (s.insertNew className query update).2 = s := by
  rw [insertNew] at h ⊢
  cases ha : Update.apply (Query.equalities query) update with
  | mk doc failure =>
    rw [ha] at h
    cases failure with
    | some e' => rfl
    | none => cases h

theorem findOneAndUpdate_fails {new upsert : Bool} {e : StoreError}
    (h : (s.findOneAndUpdate className query update new upsert).1 = .error e) :
    LeavesUpdated s (s.findOneAndUpdate className query update new upsert).2 className query
      update e := by
  have hfirst : ∀ e', (updateFirst query update s.clock (s.documents className)).2 = .error e' →
      LeavesUpdated s
      (s.withDocuments className (updateFirst query update s.clock (s.documents className)).1)
        className query update e' :=
    fun _ => leavesUpdated_of_updateFirst
  rw [findOneAndUpdate] at h ⊢
  cases hr : updateFirst query update s.clock (s.documents className) with
  | mk docs result =>
    rw [hr] at h hfirst
    cases result with
    | error e' =>
      cases h
      exact hfirst _ rfl
    | ok found =>
      cases found with
      | some found => cases h
      | none =>
        have hnone :
            ∀ front doc back, ¬ SelectedAt query (s.documents className) front doc back := by
          intro front doc back hat
          rcases updateFirst_selected update s.clock hat with ⟨e', -, hrun⟩ | ⟨found, hok⟩
          · rw [hr] at hrun
            cases hrun
          · rw [hr] at hok
            cases hok
        refine Or.inr ⟨hnone, ?_⟩
        cases upsert with
        | false => cases h
        | true =>
          have hsame : (s.insertNew className query update).2 = s :=
            insertNew_fails (map_eq_error h)
          show s.SameRecords (s.insertNew className query update).2
          rw [hsame]
          exact Mutation.sameRecords_refl s

end Update

end Store

/-! ## Fixtures -/

/-- A file or a record of a fixture. -/
inductive FixtureItem where
  /-- A file. -/
  | file (json : Json)
  /-- A record of a class. -/
  | record (className : String) (json : Json)

namespace FixtureItem

/-- Loads an item. -/
def load (s : Store) : FixtureItem → Option StoreError × Store
  | file json => s.seedFile json
  | record className json =>
    match Store.fixtureDocument className json with
    | .error e => (some e, s)
    | .ok doc => (none, (s.create className doc).2)

/-- The fault of an item, if it is malformed. -/
def fault : FixtureItem → Option StoreError
  | file json =>
    (((json.member? "_id").bind Json.asString?).bind fun text =>
      failureOf (Store.fixtureId text)).or
      (if ((json.member? "filename").bind Json.asString?).isSome then none
      else some .fileWithoutName)
  | record className json => failureOf (Store.fixtureDocument className json)

/-- Whether an item is a file. -/
def isFile : FixtureItem → Bool
  | file _ => true
  | record _ _ => false

/-- Whether an item is a record of a class. -/
def isRecordOf (className : String) : FixtureItem → Bool
  | file _ => false
  | record name _ => lowerText name = lowerText className

/-- The items of a fixture in the order in which they are loaded: files first, then the records
class by class. -/
def all (fixture : Json) : List FixtureItem :=
  (((fixture.member? "files").bind Json.asArray?).getD []).map file ++
    (((fixture.member? "classes").bind Json.asObject?).getD []).flatMap fun c =>
      ((c.2.asArray?).getD []).map (record c.1)

end FixtureItem

namespace Store

open FixtureItem

theorem seedFiles_eq (s : Store) (files : List Json) :
    s.seedFiles files = runParts FixtureItem.load s (files.map file) := by
  induction files generalizing s with
  | nil => rfl
  | cons json rest ih =>
    rw [seedFiles, List.map_cons, runParts, FixtureItem.load]
    cases s.seedFile json with
    | mk failure t =>
      cases failure with
      | some e => rfl
      | none => exact ih t

theorem seedRecords_eq (s : Store) (className : String) (records : List Json) :
    s.seedRecords className records =
      runParts FixtureItem.load s (records.map (record className)) := by
  induction records generalizing s with
  | nil => rfl
  | cons json rest ih =>
    rw [seedRecords, List.map_cons, runParts, FixtureItem.load]
    cases fixtureDocument className json with
    | error e => rfl
    | ok doc => exact ih _

theorem seedClasses_eq (s : Store) (classes : Fields Json) :
    s.seedClasses classes =
      runParts FixtureItem.load s (classes.flatMap fun c =>
        ((c.2.asArray?).getD []).map (record c.1)) := by
  induction classes generalizing s with
  | nil => rfl
  | cons c rest ih =>
    rw [seedClasses, List.flatMap_cons, runParts_append, seedRecords_eq]
    cases runParts FixtureItem.load s (((c.2.asArray?).getD []).map (record c.1)) with
    | mk failure t =>
      cases failure with
      | some e => rfl
      | none => exact ih t

/-- A fixture is loaded item by item. -/
theorem load_eq (s : Store) (fixture : Json) :
    s.load fixture = runParts FixtureItem.load s (all fixture) := by
  rw [Store.load, all, runParts_append, seedFiles_eq]
  cases runParts FixtureItem.load s
    ((((fixture.member? "files").bind Json.asArray?).getD []).map file) with
  | mk failure t =>
    cases failure with
    | some e => rfl
    | none => exact seedClasses_eq t _

/-- Whether a list has been extended by a number of items. -/
def ExtendedBy {α : Type} (n : Nat) (xs ys : List α) : Prop :=
  ∃ new, ys = xs ++ new ∧ new.length = n

section ExtendedBy

variable {α : Type} {m n : Nat} {xs ys zs : List α}

theorem extendedBy_refl (xs : List α) : ExtendedBy 0 xs xs :=
  ⟨[], (List.append_nil xs).symm, rfl⟩

theorem ExtendedBy.trans (h : ExtendedBy m xs ys) (h' : ExtendedBy n ys zs) :
    ExtendedBy (m + n) xs zs := by
  obtain ⟨new, rfl, rfl⟩ := h
  obtain ⟨new', rfl, rfl⟩ := h'
  exact ⟨new ++ new', List.append_assoc xs new new', List.length_append⟩

theorem ExtendedBy.eq_iff (h : ExtendedBy n xs ys) : ys = xs ↔ n = 0 := by
  obtain ⟨new, rfl, rfl⟩ := h
  rw [List.append_right_eq_self, List.length_eq_zero_iff]

end ExtendedBy

/-- Whether a store has grown out of another by some items: behind the files and documents that were
there, there is a new one for each item. -/
structure GrownBy (items : List FixtureItem) (s t : Store) : Prop where
  /-- The new files. -/
  files : ExtendedBy (items.countP isFile) s.files t.files
  /-- The new documents of every class. -/
  documents :
    ∀ className, ExtendedBy (items.countP (isRecordOf className)) (s.documents className)
      (t.documents className)

variable {s t u : Store} {item : FixtureItem} {items more : List FixtureItem}

theorem grownBy_of_sameRecords (h : s.SameRecords t) : GrownBy [] s t := by
  refine ⟨?_, fun className => ?_⟩
  · rw [h.2]
    exact extendedBy_refl s.files
  · rw [h.1]
    exact extendedBy_refl (s.documents className)

theorem GrownBy.trans (h : GrownBy items s t) (h' : GrownBy more t u) :
    GrownBy (items ++ more) s u := by
  refine ⟨?_, fun className => ?_⟩
  · rw [List.countP_append]
    exact h.files.trans h'.files
  · rw [List.countP_append]
    exact (h.documents className).trans (h'.documents className)

/-- What has grown by some items is as it was only when there are none. -/
theorem GrownBy.sameRecords_iff (h : GrownBy items s t) : s.SameRecords t ↔ items = [] := by
  have hcounts : s.SameRecords t ↔
      (∀ className, items.countP (isRecordOf className) = 0) ∧ items.countP isFile = 0 :=
    and_congr (forall_congr' fun className => (h.documents className).eq_iff) h.files.eq_iff
  rw [hcounts]
  constructor
  · rintro ⟨hrecords, hfiles⟩
    refine List.eq_nil_iff_forall_not_mem.mpr fun item hitem => ?_
    cases item with
    | file json => exact List.countP_eq_zero.mp hfiles _ hitem rfl
    | record className json =>
      exact List.countP_eq_zero.mp (hrecords className) _ hitem (decide_eq_true rfl)
  · rintro rfl
    exact ⟨fun _ => rfl, rfl⟩

theorem documents_complete (doc : Document) (className : String) :
    (s.complete doc).2.documents className = s.documents className := by
  rw [complete]
  by_cases hid : Fields.contains doc "_id" = true
  · rw [if_pos hid]
  · rw [if_neg hid]
    rfl

theorem files_complete (doc : Document) : (s.complete doc).2.files = s.files := by
  rw [complete]
  by_cases hid : Fields.contains doc "_id" = true
  · rw [if_pos hid]
  · rw [if_neg hid]
    rfl

/-- A record that is created stands behind those of its class. -/
theorem grownBy_create (className : String) (json : Json) (doc : Document) :
    GrownBy [.record className json] s (s.create className doc).2 := by
  refine ⟨?_, fun other => ?_⟩
  · show ExtendedBy 0 s.files (s.complete doc).2.files
    rw [files_complete]
    exact extendedBy_refl s.files
  · rw [create, documents_withDocuments, documents_complete, documents_complete,
      List.countP_singleton, isRecordOf]
    by_cases hclass : lowerText other = lowerText className
    · rw [if_pos hclass, if_pos (decide_eq_true hclass.symm), documents_congr s hclass]
      exact ⟨[(s.complete doc).1], rfl, rfl⟩
    · rw [if_neg hclass, if_neg (by simpa using Ne.symm hclass)]
      exact extendedBy_refl _

/-- How a store that is loaded with an item ends up: the item has a fault, and nothing was loaded,
or it has none, and the store has grown by it. -/
def LoadedOne (s : Store) (item : FixtureItem) (loaded : Option StoreError × Store) : Prop :=
  (∃ e, item.fault = some e ∧ loaded.1 = some e ∧ s.SameRecords loaded.2) ∨
    item.fault = none ∧ loaded.1 = none ∧ GrownBy [item] s loaded.2

theorem grownBy_insertFile (json : Json) (info : FileInfo) (h : s.SameRecords t) :
    GrownBy [.file json] s (t.insertFile info) := by
  refine ⟨⟨[info], ?_, rfl⟩, fun className => ?_⟩
  · rw [insertFile, h.2]
  · show ExtendedBy 0 (s.documents className) (t.documents className)
    rw [h.1]
    exact extendedBy_refl _

/-- A file that is loaded stands behind the others; a malformed one leaves no more than an id that
is given out. -/
theorem loadedOne_seedFile (s : Store) (json : Json) :
    LoadedOne s (.file json) (s.seedFile json) := by
  have hdrawn : s.SameRecords s.drawId.2 := ⟨fun _ => rfl, rfl⟩
  have hsame := Mutation.sameRecords_refl s
  rw [LoadedOne, seedFile, fault]
  cases (json.member? "_id").bind Json.asString? with
  | none =>
    cases (json.member? "filename").bind Json.asString? with
    | none => exact Or.inl ⟨_, rfl, rfl, hdrawn⟩
    | some filename => exact Or.inr ⟨rfl, rfl, grownBy_insertFile json _ hdrawn⟩
  | some text =>
    simp only [Option.bind_some]
    cases fixtureId text with
    | error e => exact Or.inl ⟨e, rfl, rfl, hsame⟩
    | ok id =>
      cases (json.member? "filename").bind Json.asString? with
      | none => exact Or.inl ⟨_, rfl, rfl, hsame⟩
      | some filename => exact Or.inr ⟨rfl, rfl, grownBy_insertFile json _ hsame⟩

theorem loadedOne_load (s : Store) (item : FixtureItem) : LoadedOne s item (item.load s) := by
  cases item with
  | file json => exact loadedOne_seedFile s json
  | record className json =>
    rw [LoadedOne, FixtureItem.load, fault]
    cases fixtureDocument className json with
    | error e => exact Or.inl ⟨e, rfl, rfl, Mutation.sameRecords_refl s⟩
    | ok doc => exact Or.inr ⟨rfl, rfl, grownBy_create className json doc⟩

/-- Whether an item can be loaded does not depend on the store. -/
theorem load_fst (s : Store) (item : FixtureItem) : (item.load s).1 = item.fault := by
  rcases loadedOne_load s item with ⟨e, hfault, hload, -⟩ | ⟨hfault, hload, -⟩
  · rw [hload, hfault]
  · rw [hload, hfault]

theorem sameRecords_load {e : StoreError} (h : item.fault = some e) (s : Store) :
    s.SameRecords (item.load s).2 := by
  rcases loadedOne_load s item with ⟨e', -, -, hsame⟩ | ⟨hfault, -⟩
  · exact hsame
  · cases h.symm.trans hfault

theorem grownBy_load (h : item.fault = none) (s : Store) : GrownBy [item] s (item.load s).2 := by
  rcases loadedOne_load s item with ⟨e, hfault, -⟩ | ⟨-, -, hgrown⟩
  · cases h.symm.trans hfault
  · exact hgrown

/-- By items without faults the store grows, one after the other. -/
theorem grownBy_runParts (s : Store) (h : ∀ item ∈ items, item.fault = none) :
    GrownBy items s (runParts FixtureItem.load s items).2 := by
  induction items generalizing s with
  | nil => exact grownBy_of_sameRecords (Mutation.sameRecords_refl s)
  | cons item rest ih =>
    obtain ⟨hitem, hrest⟩ := List.forall_mem_cons.mp h
    have hload : item.load s = (none, (item.load s).2) :=
      Prod.ext ((load_fst s item).trans hitem) rfl
    rw [runParts, hload]
    exact (grownBy_load hitem s).trans (ih _ hrest)

/-- What a load that fails with `e` leaves of a store: what loading the items in front of the first
malformed one does, so that it is as it was only when the first item is malformed. -/
def LeavesLoaded (s t : Store) (fixture : Json) (e : StoreError) : Prop :=
  ∃ done item rest, FailsAt fault (all fixture) done item rest e ∧
    (runParts FixtureItem.load s done).2.SameRecords t ∧ GrownBy done s t ∧
    (s.SameRecords t ↔ done = [])

theorem load_fails {fixture : Json} {e : StoreError} (h : (s.load fixture).1 = some e) :
    LeavesLoaded s (s.load fixture).2 fixture e := by
  rw [load_eq] at h ⊢
  obtain ⟨done, item, rest, hfails, hrun⟩ := runParts_fails load_fst h
  have hsame :
      (runParts FixtureItem.load s done).2.SameRecords
          (runParts FixtureItem.load s (all fixture)).2 := by
    rw [hrun]
    exact sameRecords_load hfails.fault _
  have hgrown := (grownBy_runParts s hfails.faultless).trans (grownBy_of_sameRecords hsame)
  rw [List.append_nil] at hgrown
  exact ⟨done, item, rest, hfails, hsame, hgrown, hgrown.sameRecords_iff⟩

end Store

/-! ## Writes -/

/-- A write of the store that can fail. -/
inductive StoreWrite where
  /-- Updates the first document that is selected. -/
  | update (className : String) (query operators : Document)
  /-- Updates the first document that is selected and gives it back, or writes a new one. -/
  | findOneAndUpdate (className : String) (query operators : Document) (new upsert : Bool)
  /-- Loads a fixture. -/
  | load (fixture : Json)

namespace StoreWrite

open Store

/-- Why a write fails, if it does, and what it makes of the store. -/
def run (s : Store) : StoreWrite → Option StoreError × Store
  | .update className query operators => (s.update className query operators).map failureOf id
  | .findOneAndUpdate className query operators new upsert =>
    (s.findOneAndUpdate className query operators new upsert).map failureOf id
  | .load fixture => s.load fixture

/-- What a write that fails with `e` leaves of a store. -/
def Leaves (s t : Store) (e : StoreError) : StoreWrite → Prop
  | .update className query operators => LeavesUpdated s t className query operators e
  | .findOneAndUpdate className query operators _ _ => LeavesUpdated s t className query operators e
  | .load fixture => LeavesLoaded s t fixture e

/-- A write that fails leaves what its parts in front of the first one at fault have written: to the
first document that was selected, when it is an update, and new files and documents, when it is a
load. -/
theorem leaves_of_run {s : Store} {write : StoreWrite} {e : StoreError}
    (h : (write.run s).1 = some e) : write.Leaves s (write.run s).2 e := by
  cases write with
  | update className query operators => exact update_fails (failureOf_eq_some h)
  | findOneAndUpdate className query operators new upsert =>
    exact findOneAndUpdate_fails (failureOf_eq_some h)
  | load fixture => exact load_fails h

namespace Sample

/-- A store with one document. -/
def store : Store :=
  (Store.empty 0 ⟨0⟩).withDocuments "User" [[("name", .string "a")]]

/-- Names a document and then applies an operator there is none of. -/
def rename : StoreWrite :=
  .update "User" [("name", .string "a")]
    [("$set", .document [("name", .string "b")]), ("$inc", .document [("age", .int32 1)])]

theorem rename_fails : (rename.run store).1 = some (.unsupportedOperator "$inc") := by
  decide +kernel

end Sample

/-- The new name is written, since it stands in front of the operator at fault. -/
theorem leaves_of_run_rename :
    (Sample.rename.run Sample.store).1 = some (.unsupportedOperator "$inc") ∧
    Sample.rename.Leaves Sample.store (Sample.rename.run Sample.store).2
      (.unsupportedOperator "$inc") :=
  ⟨Sample.rename_fails, leaves_of_run Sample.rename_fails⟩

/-- It is not so that a write that fails changes nothing. -/
theorem exists_failed_write_changes :
    ¬ ∀ (s : Store) (write : StoreWrite) (e : StoreError), (write.run s).1 = some e →
      s.SameRecords (write.run s).2 := by
  intro h
  have hsame := h Sample.store Sample.rename _ Sample.rename_fails
  have hnames :=
    congrArg (List.map fun doc => (Fields.get? doc "name").bind Value.asString?) (hsame.1 "User")
  exact absurd hnames (by decide +kernel)

end StoreWrite

end ClassApi
