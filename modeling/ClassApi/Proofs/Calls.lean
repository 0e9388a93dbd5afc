import ClassApi.Proofs.Intent
import ClassApi.Proofs.Naming

/-!
# Sequences of mutations

The calls that clients make one after another, and the store they leave. A small catalogue of one
class, whose records may refer to one another, serves as an example.
-/

namespace ClassApi

/-- What is given for the id of a record. -/
inductive GivenId where
  /-- No text is given. -/
  | absent
  /-- A text that stands for an id. -/
  | known (id : ObjectId)
  /-- A text that stands for none. -/
  | unknown
deriving DecidableEq

/-- A mutation that a client asks for. -/
structure MutationCall where
  /-- The kind. -/
  kind : MutationKind
  /-- The class. -/
  cls : ClassInfo
  /-- The version of the class definitions. -/
  version : Int
  /-- The input. -/
  input : Fields Datum

namespace MutationCall

/-- Runs a call. -/
def run (call : MutationCall) (s : Store) : Except ResolveError MutationPayload × Store :=
  Mutation.run call.kind s call.cls call.version call.input

/-- What a call is going to write, or why its input is refused. -/
def intent (call : MutationCall) (s : Store) : Except ResolveError Intent :=
  Mutation.intent call.kind s call.cls call.input

/-- Why a call fails, if it does. -/
def failure (call : MutationCall) (s : Store) : Option ResolveError :=
  match (call.run s).1 with
  | .error e => some e
  | .ok _ => none

theorem failure_eq_some {call : MutationCall} {s : Store} {e : ResolveError} :
    call.failure s = some e ↔ (call.run s).1 = .error e := by
  rw [failure]
  cases (call.run s).1 with
  | error e' => simp
  | ok payload => simp

/-- What a call gives for the id of a record. Only a text counts. -/
def givenId (call : MutationCall) : GivenId :=
  match Fields.get? call.input "id" with
  | some (.string raw) => (ObjectId.ofClient? raw).elim .unknown .known
  | _ => .absent

/-- Whether a call gives out an id: creating does, and replacing without an id in the input. -/
def draws (call : MutationCall) : Bool :=
  match call.kind, call.givenId with
  | .create, _ => true
  | .replace, .absent => true
  | _, _ => false

section GivenId

variable {call : MutationCall} {id : ObjectId}

/-- An id is read from the input as it is given. -/
theorem inputId_cases (call : MutationCall) :
    (call.givenId = .absent ∧ Mutation.inputId call.input = .ok none) ∨
    (∃ id, call.givenId = .known id ∧ Mutation.inputId call.input = .ok (some id)) ∨
    (call.givenId = .unknown ∧ ∃ e, Mutation.inputId call.input = .error e) := by
  cases hget : Fields.get? call.input "id" with
  | none =>
    refine Or.inl ⟨?_, ?_⟩
    · rw [givenId, hget]
    · rw [Mutation.inputId, hget]
  | some value =>
    cases value with
    | string raw =>
      cases hclient : ObjectId.ofClient? raw with
      | none =>
        refine Or.inr (Or.inr ⟨?_, .invalidId raw, ?_⟩)
        · rw [givenId, hget]
          exact congrArg (Option.elim · GivenId.unknown .known) hclient
        · rw [Mutation.inputId, hget]
          show (clientId raw).map some = _
          rw [clientId, hclient]
          rfl
      | some id =>
        refine Or.inr (Or.inl ⟨id, ?_, ?_⟩)
        · rw [givenId, hget]
          exact congrArg (Option.elim · GivenId.unknown .known) hclient
        · rw [Mutation.inputId, hget]
          show (clientId raw).map some = _
          rw [clientId, hclient]
          rfl
    | _ =>
      refine Or.inl ⟨?_, ?_⟩
      · rw [givenId, hget]
      · rw [Mutation.inputId, hget]

theorem inputId_of_absent (h : call.givenId = .absent) :
    Mutation.inputId call.input = .ok none := by
  rcases inputId_cases call with ⟨-, hread⟩ | ⟨id, hknown, -⟩ | ⟨hunknown, -⟩
  · exact hread
  · cases h.symm.trans hknown
  · cases h.symm.trans hunknown

theorem inputId_of_known (h : call.givenId = .known id) :
    Mutation.inputId call.input = .ok (some id) := by
  rcases inputId_cases call with ⟨habsent, -⟩ | ⟨other, hknown, hread⟩ | ⟨hunknown, -⟩
  · cases h.symm.trans habsent
  · cases h.symm.trans hknown
    exact hread
  · cases h.symm.trans hunknown

theorem exists_inputId_of_unknown (h : call.givenId = .unknown) :
    ∃ e, Mutation.inputId call.input = .error e := by
  rcases inputId_cases call with ⟨habsent, -⟩ | ⟨id, hknown, -⟩ | ⟨-, hread⟩
  · cases h.symm.trans habsent
  · cases h.symm.trans hknown
  · exact hread

theorem requiredId_of_known (h : call.givenId = .known id) :
    Mutation.requiredId call.input = .ok id := by
  rw [Mutation.requiredId, inputId_of_known h]
  rfl

/-- Without an id in the input there is none where it has to be. -/
theorem exists_requiredId_error (h : ∀ id, call.givenId ≠ .known id) :
    ∃ e, Mutation.requiredId call.input = .error e := by
  rw [Mutation.requiredId]
  cases hgiven : call.givenId with
  | absent =>
    rw [inputId_of_absent hgiven]
    exact ⟨_, rfl⟩
  | known id => exact absurd hgiven (h id)
  | unknown =>
    obtain ⟨e, he⟩ := exists_inputId_of_unknown hgiven
    rw [he]
    exact ⟨e, rfl⟩

end GivenId

end MutationCall

/-- Whether the id that a call gives out, if it does, is not in use. -/
def Store.DrawsNew (s : Store) (call : MutationCall) : Prop :=
  call.draws = true → s.get? call.cls.name s.drawId.1 = none

instance (s : Store) (call : MutationCall) : Decidable (s.DrawsNew call) :=
  inferInstanceAs (Decidable (call.draws = true → s.get? call.cls.name s.drawId.1 = none))

/-- The store after some calls. -/
def Store.after (s : Store) (calls : List MutationCall) : Store :=
  calls.foldl (fun s call => (call.run s).2) s

namespace Sample

/-- The definition of a class with a name, a friend and friends. -/
def definitions : List ClassDefinition :=
  let friend : FieldSpec :=
    .detailed
      { typeName := some "relation", reference := some "user"
        required := false, description := none }
  [{ name := "user", plural := none, fields := [("name", .token "string"), ("friend", friend),
      ("friends", .list [friend])] }]

/-- The class. -/
def user : ClassInfo where
  name := "User"
  plural := none
  fields := [
    { name := "name", kind := .scalar .string, required := false, description := none },
    { name := "friend", kind := .relation "User", required := false, description := none },
    { name := "friends", kind := .relationList "User", required := false, description := none }]

theorem definitions_accepted : Registry.ofDefinitions definitions = .ok ⟨[user]⟩ := by
  have hclasses : (Registry.ofDefinitions definitions).toOption.map Registry.classes =
      some [user] := by
    decide +kernel
  exact Registry.eq_ok_of_classes hclasses

/-- A store without records. -/
def empty : Store :=
  .empty 0 ⟨0⟩

/-- The id of the first record that is created. -/
def firstId : String := "000000000000000000000001"

/-- A mutation of the class. -/
def call (kind : MutationKind) (input : Fields Datum) : MutationCall where
  kind := kind
  cls := user
  version := 1
  input := input

/-- A store with one user. -/
def single : Store :=
  empty.after [call .create [("name", .string "a")]]

/-- Input that names the user as a friend, alone and in a list. -/
def friends : Fields Datum :=
  [("friend", .string firstId), ("friends", .list [.string firstId, .null])]

/-- A user is created and removed. -/
def removal : List MutationCall :=
  [call .create [("name", .string "a")], call .remove [("id", .string firstId)]]

/-- The user is given another name. -/
def rename : MutationCall :=
  call .update [("id", .string firstId), ("name", .string "b")]

theorem rename_fails : (rename.run (empty.after removal)).1 = .error (.removed "User") := by
  have hfailure : MutationCall.failure rename (empty.after removal) = some (.removed "User") := by
    decide +kernel
  exact MutationCall.failure_eq_some.mp hfailure

end Sample

end ClassApi
