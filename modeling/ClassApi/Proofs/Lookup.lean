import ClassApi.Access.Listing
import ClassApi.Proofs.Matching
import ClassApi.Proofs.Path

/-!
# Lookups by equality

A lookup asks whether the stored values equal its arguments. The query it is turned into has the
arguments where a query may have operators as well, and only the names of members tell the two
apart. So a lookup is what it ought to be as long as no argument is an object whose members all have
names that begin with a dollar sign; such an argument is taken for operators.
-/

namespace ClassApi

/-- Whether a value, once stored, cannot be told from operators: an object with members, all of
whose names begin with a dollar sign. -/
def Datum.isOperators : Datum → Bool
  | .object members => !members.isEmpty && members.all fun m => m.1.startsWith "$"
  | _ => false

namespace Listing

open Query

theorem isOperators_toStored (value : Datum) :
    Query.isOperators value.toStored = value.isOperators := by
  cases value with
  | object members =>
    have hnames : ∀ ms : List (String × Datum), (Datum.toStoredMembers ms).isEmpty = ms.isEmpty ∧
        (Datum.toStoredMembers ms).all (fun m => m.1.startsWith "$") = ms.all fun m =>
          m.1.startsWith "$" := by
      intro ms
      induction ms with
      | nil => exact ⟨rfl, rfl⟩
      | cons m rest ih =>
        rw [Datum.toStoredMembers, List.all_cons, List.all_cons, ih.2]
        exact ⟨rfl, rfl⟩
    rw [Datum.toStored, Query.isOperators, Datum.isOperators, (hnames members).1,
      (hnames members).2]
  | number n =>
    rw [Datum.toStored]
    cases n.toInt? with
    | none => rfl
    | some i => rfl
  | _ => rfl

theorem toStored_ne_regex (value : Datum) (pattern options : String) :
    value.toStored ≠ .regex pattern options := by
  cases value with
  | number n =>
    rw [Datum.toStored]
    cases n.toInt? with
    | none => exact fun h => by cases h
    | some i => exact fun h => by cases h
  | _ => exact fun h => by cases h

/-- A lookup text is an id or stays a text. -/
theorem decodeIdLike_cases (raw : String) :
    (∃ id, decodeIdLike raw = .objectId id) ∨ decodeIdLike raw = .string raw := by
  rw [decodeIdLike]
  split
  · exact Or.inl ⟨_, rfl⟩
  · split
    · split
      · exact Or.inr rfl
      · split
        · exact Or.inl ⟨_, rfl⟩
        · exact Or.inr rfl
    · exact Or.inr rfl

/-- A lookup argument is an id or a text, a list, or what is stored for it. -/
theorem lookupValue_cases (value : Datum) :
    (∃ raw, value = .string raw ∧
      ((∃ id, lookupValue value = .objectId id) ∨ lookupValue value = .string raw)) ∨
    (∃ items, value = .list items ∧ lookupValue value = .array (lookupItems items)) ∨
    lookupValue value = value.toStored := by
  cases value with
  | string raw =>
    have hlookup : lookupValue (.string raw) = decodeIdLike raw := by rw [lookupValue]
    rw [hlookup]
    exact Or.inl ⟨raw, rfl, decodeIdLike_cases raw⟩
  | list items => exact Or.inr (Or.inl ⟨items, rfl, by rw [lookupValue]⟩)
  | _ => exact Or.inr (Or.inr (by simp [lookupValue]))

theorem isOperators_lookupValue (value : Datum) :
    Query.isOperators (lookupValue value) = value.isOperators := by
  rcases lookupValue_cases value with ⟨raw, rfl, ⟨id, hid⟩ | hraw⟩ | ⟨items, rfl, hlist⟩ | hstored
  · rw [hid]
    rfl
  · rw [hraw]
    rfl
  · rw [hlist]
    rfl
  · rw [hstored]
    exact isOperators_toStored value

theorem lookupValue_ne_regex (value : Datum) (pattern options : String) :
    lookupValue value ≠ .regex pattern options := by
  rcases lookupValue_cases value with ⟨raw, rfl, ⟨id, hid⟩ | hraw⟩ | ⟨items, rfl, hlist⟩ | hstored
  · rw [hid]
    exact fun h => by cases h
  · rw [hraw]
    exact fun h => by cases h
  · rw [hlist]
    exact fun h => by cases h
  · rw [hstored]
    exact toStored_ne_regex value pattern options

/-- The conditions of a lookup: one for each argument but the id, provided that the names of the
arguments do not repeat. -/
theorem lookupQuery_eq {args : Fields Datum} (hn : (Fields.names args).Nodup) :
    lookupQuery args = args.filterMap fun (name, value) =>
      if name = "id" then none else some ("data." ++ name, lookupValue value) := by
  refine (Fields.ofEntries_filterMap hn Path.data_injective fun member entry hentry => ?_).1
  obtain ⟨name, value⟩ := member
  by_cases h : name = "id"
  · simp [h] at hentry
  · simp only [if_neg h, Option.some.injEq] at hentry
    rw [← hentry]

theorem mem_lookupQuery {args : Fields Datum} (hn : (Fields.names args).Nodup)
    {condition : String × Value} :
    condition ∈ lookupQuery args ↔
      ∃ name value, (name, value) ∈ args ∧ name ≠ "id" ∧
        condition = ("data." ++ name, lookupValue value) := by
  rw [lookupQuery_eq hn, List.mem_filterMap]
  constructor
  · rintro ⟨⟨name, value⟩, harg, hcondition⟩
    by_cases h : name = "id"
    · simp [h] at hcondition
    · simp only [if_neg h, Option.some.injEq] at hcondition
      exact ⟨name, value, harg, h, hcondition.symm⟩
  · rintro ⟨name, value, harg, h, rfl⟩
    exact ⟨(name, value), harg, if_neg h⟩

/-- When no argument can be taken for operators, each condition of a lookup is compared as it
stands. -/
theorem decides_lookupQuery {args : Fields Datum} (hn : (Fields.names args).Nodup)
    (hplain : ∀ name value, (name, value) ∈ args → name ≠ "id" → value.isOperators = false)
    (doc : Document) :
    Decides (selects doc (lookupQuery args)) (∀ c ∈ lookupQuery args,
      Agrees (Path.lookup doc c.1) c.2) := by
  refine decides_selects fun c hc => ?_
  obtain ⟨name, value, harg, hid, rfl⟩ := (mem_lookupQuery hn).mp hc
  rw [satisfies_plain ((isOperators_lookupValue value).trans (hplain name value harg hid))]
  exact decides_equals (lookupValue_ne_regex value) _

/-- A lookup does not fail to evaluate, and a document is found by it when every argument but the id
agrees with what is stored in the field, provided that no argument can be taken for operators. -/
theorem selects_lookupQuery {args : Fields Datum} (hn : (Fields.names args).Nodup)
    (hplain : ∀ name value, (name, value) ∈ args → name ≠ "id" → value.isOperators = false)
    (doc : Document) :
    Decides (selects doc (lookupQuery args))
      (∀ name value, (name, value) ∈ args → name ≠ "id" →
        Agrees (Path.lookup doc ("data." ++ name)) (lookupValue value)) := by
  refine (decides_lookupQuery hn hplain doc).congr ⟨fun h name value harg hid => ?_,
    fun h c hc => ?_⟩
  · exact h ("data." ++ name,
      lookupValue value) ((mem_lookupQuery hn).mpr ⟨name, value, harg, hid, rfl⟩)
  · obtain ⟨name, value, harg, hid, rfl⟩ := (mem_lookupQuery hn).mp hc
    exact h name value harg hid

end Listing

namespace Sample

/-- A document with a name and notes. -/
def noted : Document :=
  [("data", .document [("name", .string "a"),
    ("notes", .document [("$ne", .string "b"), ("by", .string "c")])])]

/-- Arguments that ask for the name and the notes. -/
def notes : Fields Datum :=
  [("id", .null), ("name", .string "a"),
    ("notes", .object [("$ne", .string "b"), ("by", .string "c")])]

end Sample

namespace Listing

open Query

/-- Notes in which only some names begin with a dollar sign are compared as they stand. -/
theorem selects_lookupQuery_notes :
    ((Fields.names Sample.notes).Nodup ∧
      ∀ name value, (name, value) ∈ Sample.notes → name ≠ "id" → value.isOperators = false) ∧
    Decides (selects Sample.noted (lookupQuery Sample.notes))
      (∀ name value, (name, value) ∈ Sample.notes → name ≠ "id" →
        Agrees (Path.lookup Sample.noted ("data." ++ name)) (lookupValue value)) := by
  have hn : (Fields.names Sample.notes).Nodup := by decide
  have hall : ∀ arg ∈ Sample.notes, arg.2.isOperators = false := by
    have hlist : Sample.notes.all (fun arg => !arg.2.isOperators) = true := by decide +kernel
    simpa using hlist
  exact ⟨⟨hn, fun name value harg _ => hall _ harg⟩,
    selects_lookupQuery hn (fun name value harg _ => hall _ harg) Sample.noted⟩

/-- Notes in which all names begin with a dollar sign are taken for operators: one that is not known
makes the lookup fail, and one that is known finds a document whose notes are others. -/
theorem exists_operators_applied :
    selects Sample.noted (lookupQuery [("notes", .object [("$where", .string "b")])]) =
      .error (.unsupportedOperator "$where") ∧
    selects Sample.noted (lookupQuery [("notes", .object [("$ne", .string "b")])]) = .ok true ∧
    ¬ Agrees (Path.lookup Sample.noted "data.notes")
      (lookupValue (.object [("$ne", .string "b")])) := by
  refine ⟨by decide +kernel, by decide +kernel, by decide +kernel⟩

end Listing

end ClassApi
