import ClassApi.Proofs.Listing
import ClassApi.Proofs.PartialWrites

/-!
# The document that is selected first

Finding documents, finding one, updating one and updating one that is given back each look through
the documents of a class on their own, and all but the first stop at a match. When the whole list
can be searched without a failure they agree: the one document that is found or changed is the first
of those that are found, and a new one is written only when none is found.
-/

namespace ClassApi

namespace Update

/-- Whether an update can be applied: none of its operators has a fault. -/
def Applicable (update : Document) : Prop :=
  ∀ operator ∈ update, fault operator = none

instance (update : Document) : Decidable (Applicable update) :=
  inferInstanceAs (Decidable (∀ operator ∈ update, fault operator = none))

/-- An update that can be applied is applied to every document without a failure. -/
theorem apply_snd_eq_none_iff (doc update : Document) :
    (apply doc update).2 = none ↔ Applicable update := by
  induction update generalizing doc with
  | nil => exact ⟨fun _ operator hmem => absurd hmem List.not_mem_nil, fun _ => rfl⟩
  | cons operator rest ih =>
    rw [Applicable, List.forall_mem_cons, apply_cons]
    cases fault operator with
    | none => exact (ih _).trans (and_iff_right rfl).symm
    | some e => exact ⟨(nomatch ·), fun h => nomatch h.1⟩

end Update

namespace Store

/-- A document after an update at some time. -/
def updated (update : Document) (clock : Timestamp) (doc : Document) : Document :=
  Fields.insert (Update.apply doc update).1 "updatedAt" (.date clock)

section Search

variable {query update : Document} {clock : Timestamp} {docs found : List Document}

theorem selects_eq_chosen (h : selectAll query docs = .ok found) :
    ∀ doc ∈ docs, Query.selects doc query = .ok (chosen query doc) := by
  intro doc hdoc
  obtain ⟨b, hb⟩ := selects_of_selectAll h doc hdoc
  rw [chosen, hb]

theorem passed_of_selectAll (h : selectAll query docs = .ok []) :
    ∀ doc ∈ docs, Query.selects doc query = .ok false := by
  intro doc hdoc
  have hnone : docs.filter (chosen query) = [] := (selectAll_eq_ok h).symm
  rw [selects_eq_chosen h doc hdoc,
    Bool.eq_false_iff.mpr (List.filter_eq_nil_iff.mp hnone doc hdoc)]

theorem selectedAt_of_selectAll {doc : Document} {others : List Document}
    (h : selectAll query docs = .ok (doc :: others)) :
    ∃ front back, SelectedAt query docs front doc back := by
  have hsome : docs.filter (chosen query) = doc :: others := (selectAll_eq_ok h).symm
  -- no document in front of the first one that is kept was chosen
  obtain ⟨front, back, hsplit, hfront, hdoc, -⟩ := List.filter_eq_cons_iff.mp hsome
  refine ⟨front, back, hsplit, fun other hother => ?_, chosen_eq_true.mp hdoc⟩
  rw [selects_eq_chosen h other (hsplit ▸ List.mem_append_left _ hother),
    Bool.eq_false_iff.mpr (hfront other hother)]

theorem selectFirst_of_selectAll (h : selectAll query docs = .ok found) :
    selectFirst query docs = .ok found.head? := by
  rw [selectFirst_eq_ok (selects_eq_chosen h), selectAll_eq_ok h, List.head?_filter]

/-- The first document that is selected is updated where it stands. -/
theorem updateFirst_of_selectedAt (hu : Update.Applicable update) (clock : Timestamp)
    {front back : List Document} {doc : Document} (h : SelectedAt query docs front doc back) :
    updateFirst query update clock docs =
      (front ++ updated update clock doc :: back, .ok (some (doc, updated update clock doc))) := by
  have happly : Update.apply doc update = ((Update.apply doc update).1, none) :=
    Prod.ext rfl ((Update.apply_snd_eq_none_iff doc update).mpr hu)
  rw [h.split, updateFirst_append h.passed, updateFirst, h.selected, happly]
  rfl

theorem updateFirst_of_passed (update : Document) (clock : Timestamp)
    (h : ∀ doc ∈ docs, Query.selects doc query = .ok false) :
    updateFirst query update clock docs = (docs, .ok none) := by
  have happend : updateFirst query update clock (docs ++ []) =
      (docs ++ (updateFirst query update clock []).1, (updateFirst query update clock []).2) :=
    updateFirst_append h []
  rw [List.append_nil] at happend
  rw [happend, updateFirst, List.append_nil]

end Search

section Store

variable {s t : Store} {className : String} {query update : Document} {found : List Document}

theorem selectAll_of_find (h : s.find className query none none = .ok found) :
    selectAll query (s.documents className) = .ok found := by
  obtain ⟨selected, hselected, h⟩ := bind_eq_ok h
  cases h
  exact hselected

/-- A new document stands behind those of its class, and nothing else changes. -/
theorem wrote_create (s : Store) (className : String) (doc : Document) :
    s.Wrote (s.create className doc).2 className (s.documents className ++
      [(s.create className doc).1]) := by
  have hcomplete : s.SameRecords (s.complete doc).2 := ⟨documents_complete doc, files_complete doc⟩
  refine ⟨fun other => ?_, hcomplete.2⟩
  rw [create, documents_withDocuments, hcomplete.1, hcomplete.1]

theorem Wrote.documents {docs : List Document} (h : s.Wrote t className docs) :
    t.documents className = docs := by
  rw [h.1, if_pos rfl]

theorem update_of_selectedAt (hu : Update.Applicable update) {front back : List Document}
    {doc : Document} (h : SelectedAt query (s.documents className) front doc back) :
    s.update className query update = (.ok 1,
      s.withDocuments className (front ++ updated update s.clock doc :: back)) := by
  rw [Store.update, updateFirst_of_selectedAt hu s.clock h]
  rfl

theorem findOneAndUpdate_of_selectedAt (hu : Update.Applicable update) {front back : List Document}
    {doc : Document} (h : SelectedAt query (s.documents className) front doc back)
    (new upsert : Bool) :
    s.findOneAndUpdate className query update new upsert =
      (.ok (some (if new then updated update s.clock doc else doc)),
        s.withDocuments className (front ++ updated update s.clock doc :: back)) := by
  rw [findOneAndUpdate, updateFirst_of_selectedAt hu s.clock h]

theorem update_of_passed (update : Document)
    (h : ∀ doc ∈ s.documents className, Query.selects doc query = .ok false) :
    s.update className query update = (.ok 0,
      s.withDocuments className (s.documents className)) := by
  rw [Store.update, updateFirst_of_passed update s.clock h]
  rfl

theorem findOneAndUpdate_of_passed (update : Document)
    (h : ∀ doc ∈ s.documents className, Query.selects doc query = .ok false) (new : Bool) :
    s.findOneAndUpdate className query update new false = (.ok none, s) := by
  rw [findOneAndUpdate, updateFirst_of_passed update s.clock h]
  exact if_neg Bool.false_ne_true

/-- When every document is passed over, a new one can be written instead. -/
theorem exists_inserted_of_passed (hu : Update.Applicable update)
    (h : ∀ doc ∈ s.documents className, Query.selects doc query = .ok false) (new : Bool) :
    ∃ doc, (s.findOneAndUpdate className query update new true).1 =
      .ok (if new then some doc else none) ∧
      s.Wrote (s.findOneAndUpdate className query update new true).2 className
        (s.documents className ++ [doc]) := by
  have happly := (Update.apply_snd_eq_none_iff (Query.equalities query) update).mpr hu
  rw [findOneAndUpdate, updateFirst_of_passed update s.clock h]
  simp only [if_true, insertNew]
  cases ha : Update.apply (Query.equalities query) update with
  | mk doc failure =>
    rw [ha] at happly
    obtain rfl : failure = none := happly
    exact ⟨(s.create className doc).1, rfl, wrote_create s className doc⟩

/-- Whether the operations on single documents of a class agree with a search that finds some
documents there. -/
structure AgreesOn (s : Store) (className : String) (query update : Document)
    (found : List Document) : Prop where
  /-- Finding one document gives the first of those that are found, if there is one. -/
  findOne : s.findOne className query = .ok found.head?
  /-- An update counts one document when some are found, and else none. -/
  count : (s.update className query update).1 = .ok (if found = [] then 0 else 1)
  /-- When some are found, both updates change the first of them where it stands, and nothing
  else. -/
  changed : ∀ doc, found.head? = some doc →
    ∃ front back, SelectedAt query (s.documents className) front doc back ∧
    s.Wrote (s.update className query update).2 className
      (front ++ updated update s.clock doc :: back) ∧
    ∀ new upsert,
      (s.findOneAndUpdate className query update new upsert).1 =
        .ok (some (if new then updated update s.clock doc else doc)) ∧
      s.Wrote (s.findOneAndUpdate className query update new upsert).2 className
        (front ++ updated update s.clock doc :: back)
  /-- When none is found, nothing is changed, unless a new document is to be written. -/
  unchanged : found = [] → s.SameRecords (s.update className query update).2 ∧
    ∀ new, (s.findOneAndUpdate className query update new false).1 = .ok none ∧
      s.SameRecords (s.findOneAndUpdate className query update new false).2
  /-- A document is appended just when none is found and a new one is to be written. -/
  appended : ∀ new upsert,
    (∃ doc, s.Wrote (s.findOneAndUpdate className query update new upsert).2 className
      (s.documents className ++ [doc])) ↔ found = [] ∧ upsert = true
  /-- The document that is appended is given back when the new one is asked for. -/
  inserted : found = [] → ∀ new,
    ∃ doc, (s.findOneAndUpdate className query update new true).1 =
      .ok (if new then some doc else none) ∧
      s.Wrote (s.findOneAndUpdate className query update new true).2 className
        (s.documents className ++ [doc])

theorem agreesOn_of_passed (hu : Update.Applicable update)
    (hone : s.findOne className query = .ok none)
    (h : ∀ doc ∈ s.documents className, Query.selects doc query = .ok false) :
    s.AgreesOn className query update [] where
  findOne := hone
  count := by
    rw [update_of_passed update h]
    rfl
  changed doc hdoc := nomatch hdoc
  unchanged _ := by
    rw [update_of_passed update h]
    refine ⟨sameRecords_withDocuments rfl, fun new => ?_⟩
    rw [findOneAndUpdate_of_passed update h]
    exact ⟨rfl, Mutation.sameRecords_refl s⟩
  appended new upsert := by
    cases upsert with
    | true =>
      obtain ⟨doc, -, hwrote⟩ := exists_inserted_of_passed hu h new
      exact ⟨fun _ => ⟨rfl, rfl⟩, fun _ => ⟨doc, hwrote⟩⟩
    | false =>
      refine ⟨fun ⟨doc, hwrote⟩ => ?_, fun hupsert => nomatch hupsert.2⟩
      rw [findOneAndUpdate_of_passed update h] at hwrote
      exact absurd (List.append_right_eq_self.mp hwrote.documents.symm) (List.cons_ne_nil doc [])
  inserted _ := exists_inserted_of_passed hu h

theorem agreesOn_of_selectedAt (hu : Update.Applicable update) {doc : Document}
    {others : List Document} (hone : s.findOne className query = .ok (some doc))
    {front back : List Document} (h : SelectedAt query (s.documents className) front doc back) :
    s.AgreesOn className query update (doc :: others) where
  findOne := hone
  count := by
    rw [update_of_selectedAt hu h]
    rfl
  changed first hfirst := by
    obtain rfl : doc = first := Option.some.inj hfirst
    refine ⟨front, back, h, ?_, fun new upsert => ?_⟩
    · rw [update_of_selectedAt hu h]
      exact wrote_withDocuments s className _
    · rw [findOneAndUpdate_of_selectedAt hu h]
      exact ⟨rfl, wrote_withDocuments s className _⟩
  unchanged hnone := nomatch hnone
  appended new upsert := by
    refine ⟨fun ⟨added, hwrote⟩ => ?_, fun hnone => nomatch hnone.1⟩
    rw [findOneAndUpdate_of_selectedAt hu h] at hwrote
    -- the document is changed where it stands, so there are as many as before
    have hdocs := hwrote.documents
    rw [(wrote_withDocuments s className _).documents, h.split] at hdocs
    have hlength := congrArg List.length hdocs
    simp at hlength
  inserted hnone := nomatch hnone

/-- When documents are found without sorting and projection, finding one gives the first of them;
every update that can be applied, whether it counts what it updates or gives it back, changes that
document and no other; and a new document is written just when none is found and one is asked
for. -/
theorem single_operations_agree (h : s.find className query none none = .ok found)
    (hu : Update.Applicable update) : s.AgreesOn className query update found := by
  have hselect := selectAll_of_find h
  have hone : s.findOne className query = .ok found.head? := selectFirst_of_selectAll hselect
  cases found with
  | nil => exact agreesOn_of_passed hu hone (passed_of_selectAll hselect)
  | cons doc others =>
    obtain ⟨front, back, hat⟩ := selectedAt_of_selectAll hselect
    exact agreesOn_of_selectedAt hu hone hat

end Store

namespace Sample

/-- Documents of which two have the same name. -/
def people : Store :=
  (Store.empty 0 ⟨0⟩).withDocuments "User"
    [[("name", .string "b")], [("name", .string "a"), ("age", .int32 1)],
      [("name", .string "a"), ("age", .int32 2)]]

/-- The documents with that name. -/
def homonyms : List Document :=
  [[("name", .string "a"), ("age", .int32 1)], [("name", .string "a"), ("age", .int32 2)]]

/-- Gives a document another name. -/
def newName : Document :=
  [("$set", .document [("name", .string "c")])]

end Sample

/-- Of two documents with one name, the first one is given another. -/
theorem single_operations_agree_namesakes :
    (Sample.people.find "User" [("name", .string "a")] none none = .ok Sample.homonyms ∧
      Update.Applicable Sample.newName) ∧
    Sample.people.AgreesOn "User" [("name", .string "a")] Sample.newName Sample.homonyms := by
  have hother : Query.selects [("name", .string "b")] [("name", .string "a")] = .ok false := by
    decide +kernel
  have hsame : ∀ doc ∈ Sample.homonyms, Query.selects doc [("name", .string "a")] = .ok true := by
    decide +kernel
  have hrest : selectAll [("name", .string "a")] Sample.homonyms = .ok Sample.homonyms := by
    rw [Sample.homonyms, selectAll, hsame _ List.mem_cons_self, selectAll,
      hsame _ (List.mem_cons_of_mem _ List.mem_cons_self)]
    rfl
  have hselected : selectAll [("name", .string "a")] (Sample.people.documents "User") =
      .ok Sample.homonyms := by
    show selectAll [("name", .string "a")] ([("name", .string "b")] :: Sample.homonyms) = _
    rw [selectAll, hother]
    exact hrest
  have hfound : Sample.people.find "User" [("name", .string "a")] none none =
      .ok Sample.homonyms := by
    rw [find, hselected]
    rfl
  have happlicable : Update.Applicable Sample.newName := by
    decide +kernel
  exact ⟨⟨hfound, happlicable⟩, single_operations_agree hfound happlicable⟩

end Store

end ClassApi
