import ClassApi.Language.Input
import ClassApi.Proofs.Ids

/-!
# Ids that clients give

Where an id may be given, a text and an integer may: an integer stands for its decimal digits. A
text is decoded, and what is read or replaced then is the record under that id and no other; a text
that is no id is refused. An integer is treated as if no id were given, so another record may be
read, and a record is written under an id that nobody asked for.
-/

namespace ClassApi

/-- The text that a value stands for as an id. -/
def Datum.idText? : Datum → Option String
  | .string raw => some raw
  | value => value.asInt?.map toString

/-- The values that may be given for an id are those that stand for one. -/
theorem Schema.scalarAccepts_id (value : Datum) :
    scalarAccepts "ID" value = value.idText?.isSome := by
  cases value with
  | number n =>
    show n.toInt?.isSome = (n.toInt?.map toString).isSome
    rw [Option.isSome_map]
  | _ => rfl

namespace Store

/-- Whether a document is stored under an id. -/
def isUnder (id : ObjectId) (doc : Document) : Bool :=
  idOf doc = some id

/-- The documents of a class that are stored under an id. -/
def under (s : Store) (className : String) (id : ObjectId) : List Document :=
  (s.documents className).filter (isUnder id)

theorem answersTo_of_isUnder {doc : Document} {id : ObjectId} (h : isUnder id doc = true) :
    answersTo id doc = true := by
  rw [answersTo_eq_decide (of_decide_eq_true h), decide_eq_true rfl]

theorem filter_changeFirst_other {p q : Document → Bool} {f : Document → Document}
    {docs : List Document} (hq : ∀ doc ∈ docs, p doc = true → q doc = false ∧ q (f doc) = false) :
    (changeFirst p f docs).filter q = docs.filter q := by
  induction docs with
  | nil => rfl
  | cons doc rest ih =>
    by_cases hp : p doc = true
    · obtain ⟨hbefore, hafter⟩ := hq doc List.mem_cons_self hp
      rw [changeFirst, if_pos hp,
        List.filter_cons_of_neg (by rw [hafter]; exact Bool.false_ne_true),
        List.filter_cons_of_neg (by rw [hbefore]; exact Bool.false_ne_true)]
    · rw [changeFirst, if_neg hp, List.filter_cons, List.filter_cons,
        ih fun d hd => hq d (List.mem_cons_of_mem _ hd)]

/-- The first document that answers to an id is found under it, provided that it is stored under
it. -/
theorem get?_of_find? {s : Store} {className : String} {id : ObjectId} {doc : Document}
    (hf : (s.documents className).find? (answersTo id) = some doc) (hid : idOf doc = some id) :
    s.get? className id = some doc := by
  have hfind : ∀ docs : List Document, docs.find? (answersTo id) = some doc →
      docs.find? (isUnder id) = some doc := by
    intro docs
    induction docs with
    | nil => exact fun h => by cases h
    | cons first rest ih =>
      intro h
      by_cases ha : answersTo id first = true
      · rw [List.find?_cons_of_pos ha] at h
        cases h
        exact List.find?_cons_of_pos (decide_eq_true hid)
      · rw [List.find?_cons_of_neg ha] at h
        have hother : ¬ isUnder id first = true := fun h => ha (answersTo_of_isUnder h)
        rw [List.find?_cons_of_neg hother]
        exact ih h
  exact hfind _ hf

end Store

namespace Intent

open Store

/-- A write leaves the documents under other ids alone. -/
theorem filter_writes_other {i : Intent} {version : Int} {clock : Timestamp} {docs : List Document}
    (hfresh : i.Fresh docs) {other : ObjectId} (hne : other ≠ i.id) :
    (i.writes version clock docs).filter (isUnder other) = docs.filter (isUnder other) := by
  rcases writes_cases version clock hfresh with
    ⟨old, -, hwrites, -⟩ | ⟨-, hwrites, -⟩ | ⟨-, doc, hid, hwrites, -⟩
  · rw [hwrites]
    refine filter_changeFirst_other fun doc _ hanswers => ?_
    have hdoc : idOf doc ≠ some other := by
      intro ho
      rw [answersTo_eq_decide ho] at hanswers
      exact hne (of_decide_eq_true hanswers)
    rw [isUnder, isUnder, idOf_stamped, decide_eq_false hdoc]
    exact ⟨rfl, rfl⟩
  · rw [hwrites]
  · have hdoc : ¬ isUnder other doc = true := by
      rw [isUnder, hid, decide_eq_true_iff, Option.some.injEq]
      exact Ne.symm hne
    rw [hwrites, List.filter_append, List.filter_cons_of_neg hdoc, List.filter_nil, List.append_nil]

end Intent

namespace Access

open Store

/-- What is read from the first document that answers to an id is the record under the id. -/
theorem id_of_parse {s : Store} {className : String} {id : ObjectId} {doc : Document}
    {r : ClassRecord} (hf : (s.documents className).find? (answersTo id) = some doc)
    (h : parse className (some doc) = .ok r) : r.id = id ∧ s.get? className id = some doc := by
  obtain ⟨stored, hstored, -, rfl⟩ := parse_ok h
  obtain ⟨hid, hstoredId⟩ := idOf_of_answersTo (List.find?_some hf) hstored
  exact ⟨hstoredId, get?_of_find? hf hid⟩

end Access

namespace Listing

open Store Access

/-- Whether a lookup reads the record under an id, if there is an id, and nothing else. -/
structure ReadsId (s : Store) (c : ClassInfo) (args : Fields Datum)
    (id? : Option ObjectId) : Prop where
  /-- Without an id the lookup fails. -/
  invalid : id? = none → ∃ e, single s c args = .error e
  /-- The record that is given is the one under the id. -/
  found : ∀ id r, id? = some id → single s c args = .ok r →
    r.id = id ∧ ∃ doc, s.get? c.name id = some doc ∧ parse c.name (some doc) = .ok r

/-- A lookup that reads a record by an id was given the id of the record. -/
theorem ReadsId.eq_id {s : Store} {c : ClassInfo} {args : Fields Datum} {id? : Option ObjectId}
    (h : ReadsId s c args id?) {r : ClassRecord} (hr : single s c args = .ok r) :
    id? = some r.id := by
  cases id? with
  | none =>
    obtain ⟨e, he⟩ := h.invalid rfl
    rw [hr] at he
    cases he
  | some id => rw [(h.found id r rfl hr).1]

theorem readsId_of_text (s : Store) (c : ClassInfo) {args : Fields Datum} {raw : String}
    (h : Fields.get? args "id" = some (.string raw)) :
    ReadsId s c args (ObjectId.ofClient? raw) := by
  have hsingle : single s c args = clientId raw >>= classById s c.name := by
    rw [single, h]
  refine ⟨fun hnone => ?_, fun id r hsome hr => ?_⟩
  · rw [hsingle, clientId, hnone]
    exact ⟨_, rfl⟩
  · rw [hsingle, clientId, hsome] at hr
    have hread : parse c.name ((s.documents c.name).find? (answersTo id)) = .ok r := by
      rw [← classById_eq]
      exact hr
    cases hf : (s.documents c.name).find? (answersTo id) with
    | none =>
      rw [hf] at hread
      cases hread
    | some doc =>
      rw [hf] at hread
      obtain ⟨hid, hget⟩ := id_of_parse hf hread
      exact ⟨hid, doc, hget, hread⟩

end Listing

namespace Mutation

open Store Access

/-- Whether replacing writes the record under an id, if there is an id, and nothing else. -/
structure WritesId (s : Store) (c : ClassInfo) (version : Int) (input : Fields Datum)
    (id? : Option ObjectId) : Prop where
  /-- Without an id nothing is written. -/
  invalid : id? = none → (∃ e, (replace s c version input).1 = .error e) ∧
    s.SameRecords (replace s c version input).2
  /-- The record under the id holds what the input gives. -/
  written : ∀ id payload, id? = some id → (replace s c version input).1 = .ok payload →
    ∃ r doc data, payload.record = some r ∧ r.id = id ∧
      (replace s c version input).2.get? c.name id = some doc ∧
      parse c.name (some doc) = .ok r ∧ resolveInput s c input = .ok data ∧
      Fields.get? doc "data" = some (.document data) ∧
      Fields.get? doc "_classVersion" = some (.int64 version)
  /-- Files, other classes and what is stored under other ids are left alone. -/
  others : ∀ id, id? = some id → (replace s c version input).2.files = s.files ∧
    ∀ className other, (lowerText className = lowerText c.name → other ≠ id) →
      (replace s c version input).2.under className other = s.under className other

section Text

variable {s : Store} {c : ClassInfo} {version : Int} {input : Fields Datum} {raw : String}

theorem inputId_of_text (h : Fields.get? input "id" = some (.string raw)) :
    inputId input = (clientId raw).map some := by
  rw [inputId, h]

theorem intent_replace_of_none (h : Fields.get? input "id" = some (.string raw))
    (hraw : ObjectId.ofClient? raw = none) :
    intent .replace s c input = .error (.invalidId raw) := by
  unfold intent
  rw [inputId_of_text h, clientId, hraw]
  rfl

theorem intent_replace_of_some (h : Fields.get? input "id" = some (.string raw)) {id : ObjectId}
    (hraw : ObjectId.ofClient? raw = some id) :
    intent .replace s c input = (resolveInput s c input).map (Intent.replace id) := by
  unfold intent
  rw [inputId_of_text h, clientId, hraw]
  cases resolveInput s c input with
  | error e => rfl
  | ok data => rfl

/-- What is written in place of a record holds the data and the version. -/
theorem get?_written_replace {docs : List Document} {clock : Timestamp} {id : ObjectId}
    {data doc : Document} (h : Intent.written version clock docs (.replace id data) = some doc) :
    Fields.get? doc "data" = some (.document data) ∧
    Fields.get? doc "_classVersion" = some (.int64 version) := by
  have hid : Intent.id (.replace id data) = id := rfl
  rw [Intent.written, hid] at h
  cases hf : docs.find? (answersTo id) with
  | none =>
    rw [hf] at h
    cases h
    exact ⟨rfl, rfl⟩
  | some old =>
    rw [hf] at h
    cases h
    refine ⟨?_, ?_⟩
    · exact get?_stamped_recordMembers data version clock old (by decide)
    · exact get?_stamped_recordMembers data version clock old (by decide)

theorem writesId_of_text (s : Store) (c : ClassInfo) (version : Int)
    (h : Fields.get? input "id" = some (.string raw)) :
    WritesId s c version input (ObjectId.ofClient? raw) := by
  cases hraw : ObjectId.ofClient? raw with
  | none =>
    obtain ⟨herror, hsame⟩ : (replace s c version input).1 = .error _ ∧
      s.SameRecords (replace s c version input).2 :=
      @run_refused s c version input .replace _ (intent_replace_of_none h hraw)
    exact ⟨fun _ => ⟨⟨_, herror⟩, hsame⟩, fun _ _ hsome => (by cases hsome), fun _ hsome =>
      (by cases hsome)⟩
  | some id =>
    have hintent := intent_replace_of_some (s := s) (c := c) h hraw
    cases hdata : resolveInput s c input with
    | error e =>
      rw [hdata] at hintent
      obtain ⟨herror, hdocs, hfiles⟩ : (replace s c version input).1 = .error e ∧
          s.SameRecords (replace s c version input).2 :=
        @run_refused s c version input .replace e hintent
      refine ⟨fun hnone => (by cases hnone), fun _ payload _ hok => ?_, fun _ _ =>
        ⟨hfiles, fun className other _ => ?_⟩⟩
      · rw [herror] at hok
        cases hok
      · rw [under, under, hdocs className]
    | ok data =>
      rw [hdata] at hintent
      obtain ⟨hanswer, hdocs, hfiles⟩ :
        (replace s c version input).1 = answer .replace c.name input id _ ∧
        s.Wrote (replace s c version input).2 c.name
          (Intent.writes version s.clock (s.documents c.name) (.replace id data)) :=
        @run_accepted s c version input .replace _ hintent
      have hfresh : (Intent.replace id data).Fresh (s.documents c.name) := trivial
      refine ⟨fun hnone => (by cases hnone), fun given payload hgiven hok => ?_,
        fun given hgiven => ⟨hfiles, ?_⟩⟩
      · cases hgiven
        rw [hanswer] at hok
        obtain ⟨r, hparse, rfl⟩ := map_eq_ok hok
        cases hw : Intent.written version s.clock (s.documents c.name) (.replace id data) with
        | none =>
          rw [hw] at hparse
          cases hparse
        | some doc =>
          rw [hw] at hparse
          have hfind : ((replace s c version input).2.documents c.name).find? (answersTo id) =
              some doc := by
            rw [hdocs c.name, if_pos rfl]
            exact (Intent.find?_writes_self hfresh).trans hw
          obtain ⟨hid, hget⟩ := id_of_parse hfind hparse
          obtain ⟨hdataMember, hversion⟩ := get?_written_replace hw
          exact ⟨r, doc, data, rfl, hid, hget, hparse, hdata, hdataMember, hversion⟩
      · cases hgiven
        intro className other hother
        rw [under, under, hdocs className]
        split
        · rename_i hclass
          rw [Intent.filter_writes_other hfresh (hother hclass), documents_congr s hclass]
        · rfl

end Text

end Mutation

/-- Whether a value that is given for an id is never treated as absent: what is read or replaced is
the record under the id that its text stands for. -/
def HonoursId (value : Datum) : Prop :=
  ∀ text, value.idText? = some text →
    (∀ s c args, Fields.get? args "id" = some value →
      Listing.ReadsId s c args (ObjectId.ofClient? text)) ∧
    ∀ s c version input, Fields.get? input "id" = some value →
      Mutation.WritesId s c version input (ObjectId.ofClient? text)

theorem honoursId_text (raw : String) : HonoursId (.string raw) := by
  intro text htext
  cases htext
  exact ⟨fun s c args h => Listing.readsId_of_text s c h, fun s c version input h =>
    Mutation.writesId_of_text s c version h⟩

namespace Sample

/-- A store with one user, whose id begins with a seed. -/
def seeded (seed : Nat) : Store :=
  (Store.empty seed ⟨0⟩).after [call .create [("name", .string "a")]]

end Sample

/-- A number is treated as absent: whichever user comes first is given. -/
theorem not_honoursId_number {n : Numeral} {text : String}
    (htext : (Datum.number n).idText? = some text) : ¬ HonoursId (.number n) := by
  intro h
  obtain ⟨hreads, -⟩ := h text htext
  have hgiven : ∀ seed id,
      (Access.findOne (Sample.seeded seed) "User" []).toOption.map ClassRecord.id = some id →
      ObjectId.ofClient? text = some id := by
    intro seed id hid
    have hsingle : Listing.single (Sample.seeded seed) Sample.user [("id", .number n)] =
        Access.findOne (Sample.seeded seed) "User" [] := rfl
    cases hf : Access.findOne (Sample.seeded seed) "User" [] with
    | error e =>
      rw [hf] at hid
      cases hid
    | ok r =>
      rw [hf] at hid
      cases hid
      exact (hreads _ _ _ rfl).eq_id (hsingle.trans hf)
  have hfirst := hgiven 0 (.ofCounter 0 1) (by decide +kernel)
  have hsecond := hgiven 1 (.ofCounter 1 1) (by decide +kernel)
  have hne : ObjectId.ofCounter 0 1 ≠ ObjectId.ofCounter 1 1 := by decide +kernel
  exact hne (Option.some.inj (hfirst.symm.trans hsecond))

/-- The values that are never treated as absent are the texts. -/
theorem honoursId_iff {value : Datum} (h : Schema.scalarAccepts "ID" value = true) :
    HonoursId value ↔ ∃ raw, value = .string raw := by
  constructor
  · intro hhonours
    rw [Schema.scalarAccepts_id] at h
    obtain ⟨text, htext⟩ := Option.isSome_iff_exists.mp h
    cases value with
    | string raw => exact ⟨raw, rfl⟩
    | number n => exact absurd hhonours (not_honoursId_number htext)
    | _ => cases htext
  · rintro ⟨raw, rfl⟩
    exact honoursId_text raw

/-- The id of a user as a text. -/
theorem honoursId_iff_firstId :
    Schema.scalarAccepts "ID" (.string Sample.firstId) = true ∧
    HonoursId (.string Sample.firstId) := by
  have haccepts : Schema.scalarAccepts "ID" (.string Sample.firstId) = true := rfl
  exact ⟨haccepts, (honoursId_iff haccepts).mpr ⟨Sample.firstId, rfl⟩⟩

/-- The number 123 stands for no id. Asked for by it, a user is given, and in place of it, a user is
written. -/
theorem exists_number_ignored :
    Schema.scalarAccepts "ID" (.number (.integer 123)) = true ∧
    (Datum.number (.integer 123)).idText? = some "123" ∧ ObjectId.ofClient? "123" = none ∧
    (∃ r, Listing.single Sample.single Sample.user [("id", .number (.integer 123))] = .ok r) ∧
    ∃ payload, (Mutation.replace Sample.single Sample.user 1 [("id", .number (.integer 123))]).1 =
      .ok payload := by
  have hsingle :
      (Listing.single Sample.single Sample.user [("id", .number (.integer 123))]).toOption.isSome =
          true := by
    decide +kernel
  have hreplace :
      (Mutation.replace Sample.single Sample.user 1 [("id",
        .number (.integer 123))]).1.toOption.isSome =
      true := by
    decide +kernel
  refine ⟨by decide +kernel, by decide +kernel, by decide +kernel, ?_, ?_⟩
  · cases h : Listing.single Sample.single Sample.user [("id", .number (.integer 123))] with
    | error e =>
      rw [h] at hsingle
      cases hsingle
    | ok r => exact ⟨r, rfl⟩
  · cases h : (Mutation.replace Sample.single Sample.user 1 [("id", .number (.integer 123))]).1 with
    | error e =>
      rw [h] at hreplace
      cases hreplace
    | ok payload => exact ⟨payload, rfl⟩

end ClassApi
