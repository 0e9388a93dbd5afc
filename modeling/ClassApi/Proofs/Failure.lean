import ClassApi.Proofs.Calls
import ClassApi.Proofs.Parse

/-!
# What a failed mutation leaves behind

There is no transaction around a mutation. The input is checked before anything is written, so a
mutation that fails on its input, or because there is no record with the id, leaves everything as it
was. The record is read back after the write, though, and when that fails the write stays. This
happens when the record does not decode, and when a record that is marked as removed is updated or
replaced.
-/

namespace ClassApi.Mutation

open Store

/-- Whether a mutation failed with `e` on reading back the record it had written. Nothing but that
record differs then. -/
structure ReadBackFailed (kind : MutationKind) (s t : Store) (c : ClassInfo) (version : Int)
    (input : Fields Datum) (e : ResolveError) : Prop where
  /-- The input was accepted, and the record was written: at the end, or in the place of one
  document. -/
  written : ∃ i front old back doc, intent kind s c input = .ok i ∧
    s.documents c.name = front ++ old ++ back ∧ old.length ≤ 1 ∧
    i.written version s.clock (s.documents c.name) = some doc ∧
    t.documents c.name = front ++ doc :: back ∧
    Access.parse c.name (some doc) = .error e
  /-- The documents of other classes are as they were. -/
  others : ∀ other, lowerText other ≠ lowerText c.name → t.documents other = s.documents other
  /-- The files are as they were. -/
  files : t.files = s.files
  /-- The record does not decode, or a removed record was updated or replaced. -/
  cause : e = .storage .invalidRecord ∨ (e = .removed c.name ∧ (kind = .update ∨ kind = .replace))
  /-- Removing does not read anything back. -/
  kind_ne_remove : kind ≠ .remove

/-- A mutation other than `remove` fails when what it has written is refused. -/
theorem answer_error {kind : MutationKind} {className : String} {input : Fields Datum}
    {id : ObjectId} {doc : Document} {e : ResolveError}
    (h : answer kind className input id (some doc) = .error e) :
    kind ≠ .remove ∧ Access.parse className (some doc) = .error e := by
  cases kind with
  | remove => cases h
  | create => exact ⟨by decide, map_eq_error h⟩
  | update => exact ⟨by decide, map_eq_error h⟩
  | replace => exact ⟨by decide, map_eq_error h⟩
  | recover => exact ⟨by decide, map_eq_error h⟩

/-- The mark of a record that was just recovered is not set. -/
theorem get?_deleted_recovered (clock : Timestamp) (version : Int) (id : ObjectId)
    (doc : Document) :
    Fields.get? (stamped (Intent.members version (.mark id false)) clock doc) "_deleted" =
      some (.bool false) := by
  rw [get?_stamped_mark id false version clock doc (by decide)]
  rfl

/-- Only updating and replacing can meet a record that is marked as removed. -/
theorem update_or_replace_of_removed {kind : MutationKind} {s : Store} {c : ClassInfo}
    {version : Int} {input : Fields Datum} {i : Intent} {doc : Document} {stored : StoredRecord}
    (hi : intent kind s c input = .ok i) (hkind : kind ≠ .remove)
    (hdoc : i.written version s.clock (s.documents c.name) = some doc)
    (hstored : StoredRecord.ofDocument? doc = some stored) (hremoved : stored.deleted = true) :
    kind = .update ∨ kind = .replace := by
  have hmark : Fields.get? doc "_deleted" ≠ some (.bool false) := by
    intro hfalse
    obtain ⟨-, -, -, hread⟩ := StoredRecord.ofDocument?_eq_some hstored
    rw [hfalse, hremoved] at hread
    cases hread
  rcases intent_cases hi with
    ⟨rfl, data, -, rfl⟩ | ⟨rfl, -⟩ | ⟨rfl, -⟩ | ⟨rfl, -⟩ | ⟨rfl, id, -, rfl⟩
  · cases hdoc
    exact absurd rfl hmark
  · exact Or.inl rfl
  · exact Or.inr rfl
  · exact absurd rfl hkind
  · obtain ⟨old, -, rfl⟩ := Option.map_eq_some_iff.mp hdoc
    exact absurd (get?_deleted_recovered s.clock version id old) hmark

/-- A mutation that fails changes nothing, unless it fails on reading back the one record it has
written. -/
theorem failed_run_changes {kind : MutationKind} {s : Store} {c : ClassInfo} {version : Int}
    {input : Fields Datum} {e : ResolveError} (h : (run kind s c version input).1 = .error e) :
    s.SameRecords (run kind s c version input).2 ∨
      ReadBackFailed kind s (run kind s c version input).2 c version input e := by
  cases hi : intent kind s c input with
  | error e' => exact Or.inl (run_refused hi).2
  | ok i =>
    obtain ⟨hanswer, hdocs, hfiles⟩ :
      (run kind s c version input).1 = answer kind c.name input i.id _ ∧
      s.Wrote (run kind s c version input).2 c.name
        (i.writes version s.clock (s.documents c.name)) := run_accepted hi
    rcases written_cases i version s.clock (s.documents c.name) with
      ⟨-, hsame⟩ | ⟨front, old, back, doc, hsplit, hlen, hdoc, hwrites⟩
    · refine Or.inl ⟨fun other => ?_, hfiles⟩
      rw [hdocs other, hsame]
      by_cases ho : lowerText other = lowerText c.name
      · rw [if_pos ho, documents_congr s ho]
      · rw [if_neg ho]
    · rw [hanswer, hdoc] at h
      obtain ⟨hkind, hparse⟩ := answer_error h
      have hcause : e = .storage .invalidRecord ∨
          (e = .removed c.name ∧ (kind = .update ∨ kind = .replace)) := by
        rcases Access.parse_error hparse with ⟨he, -⟩ | ⟨he, stored, hstored, hremoved⟩
        · exact Or.inl he
        · exact Or.inr ⟨he, update_or_replace_of_removed hi hkind hdoc hstored hremoved⟩
      refine Or.inr ⟨⟨i, front, old, back, doc, hi, hsplit, hlen, hdoc, ?_, hparse⟩,
        fun other ho => ?_, hfiles, hcause, hkind⟩
      · rw [hdocs c.name, if_pos rfl, hwrites]
      · rw [hdocs other, if_neg ho]

/-- Updating the name of a record that was removed fails, and the name is written. -/
theorem failed_run_changes_of_removed :
    (Sample.rename.run (Sample.empty.after Sample.removal)).1 = .error (.removed "User") ∧
    ((Sample.empty.after Sample.removal).SameRecords
      (Sample.rename.run (Sample.empty.after Sample.removal)).2 ∨
      ReadBackFailed Sample.rename.kind (Sample.empty.after Sample.removal)
        (Sample.rename.run (Sample.empty.after Sample.removal)).2 Sample.rename.cls
          Sample.rename.version
        Sample.rename.input (.removed "User")) :=
  ⟨Sample.rename_fails,
    @failed_run_changes Sample.rename.kind (Sample.empty.after Sample.removal) Sample.rename.cls
      Sample.rename.version Sample.rename.input _ Sample.rename_fails⟩

/-- It is not so that a mutation that fails never changes anything, however the store was
reached. -/
theorem exists_failed_run_writes :
    ¬ ∀ (definitions : List ClassDefinition) (r : Registry) (seed : Nat) (clock : Timestamp)
      (calls : List MutationCall) (call : MutationCall) (e : ResolveError),
      Registry.ofDefinitions definitions = .ok r → (∀ made ∈ call :: calls, made.cls ∈ r.classes) →
      (call.run ((Store.empty seed clock).after calls)).1 = .error e →
      ((Store.empty seed clock).after calls).SameRecords
        (call.run ((Store.empty seed clock).after calls)).2 := by
  intro h
  have hsame :=
    h Sample.definitions _ 0 ⟨0⟩ Sample.removal Sample.rename _ Sample.definitions_accepted
    (by simp [Sample.removal, Sample.rename, Sample.call]) Sample.rename_fails
  have hnames :=
    congrArg (List.map fun doc => (Path.lookup doc "data.name").bind Value.asString?)
      (hsame.1 "User")
  exact absurd hnames (by decide +kernel)

end ClassApi.Mutation
