import ClassApi.Proofs.Calls
import ClassApi.Service.Basic
import Mathlib.Data.List.Sort

/-!
# Compiled schemas

What a schema is compiled from: the definitions, which the hash covers, and the version, which it
does not. The types of a schema are in the order of their names, however they are sorted.
-/

namespace ClassApi

namespace Schema

/-- Sorting by merging gives what inserting gives, if what is compared can be ordered. -/
theorem mergeSort_eq_insertionSort {α : Type} {le : α → α → Bool}
    (trans : ∀ a b c, le a b = true → le b c = true → le a c = true)
    (total : ∀ a b, (le a b || le b a) = true) (l : List α) :
    l.mergeSort le = l.insertionSort fun a b => le a b = true := by
  induction l with
  | nil => exact List.mergeSort_nil
  | cons a l ih =>
    obtain ⟨front, back, hcons, hrest, hfront⟩ := List.mergeSort_cons trans total a l
    have hsorted := List.pairwise_mergeSort trans total (a :: l)
    rw [hcons] at hsorted
    rw [List.insertionSort_cons, ← ih, hrest, hcons]
    clear hcons hrest ih
    induction front with
    | nil =>
      cases back with
      | nil => rfl
      | cons b rest =>
        have hle : le a b = true := (List.pairwise_cons.mp hsorted).1 b List.mem_cons_self
        rw [List.nil_append, List.nil_append, List.orderedInsert, if_pos hle]
    | cons b rest ih =>
      have hnot : ¬ le a b = true := by
        rw [Bool.not_eq_true, ← Bool.not_eq_true']
        exact hfront b List.mem_cons_self
      rw [List.cons_append, List.cons_append, List.orderedInsert, if_neg hnot,
        ih (fun c hc => hfront c (List.mem_cons_of_mem _ hc)) (List.pairwise_cons.mp hsorted).2]

theorem sortByName_eq_insertionSort {α : Type} (types : Fields α) :
    sortByName types = types.insertionSort fun a b => a.1 ≤ b.1 := by
  rw [sortByName, mergeSort_eq_insertionSort]
  · simp only [decide_eq_true_eq]
  · intro a b c hab hbc
    exact decide_eq_true (String.le_trans (of_decide_eq_true hab) (of_decide_eq_true hbc))
  · intro a b
    rw [Bool.or_eq_true, decide_eq_true_iff, decide_eq_true_iff]
    exact String.le_total a.1 b.1

end Schema

namespace CompiledSchema

theorem hash_of_ofProject {p : Project} {compiled : CompiledSchema}
    (h : ofProject p = .ok compiled) : compiled.hash = p.schemaHash := by
  obtain ⟨registry, -, h⟩ := bind_eq_ok h
  obtain ⟨schema, -, h⟩ := bind_eq_ok h
  cases h
  rfl

/-- Projects with the same definitions and the same version have the same schema. -/
theorem ofProject_congr {p q : Project} (hdefinitions : p.definitions = q.definitions)
    (hversion : p.version = q.version) (hhash : p.schemaHash = q.schemaHash) :
    ofProject p = ofProject q := by
  rw [ofProject, ofProject, Project.registry, Project.registry, hdefinitions, hversion, hhash]

end CompiledSchema

namespace Service

theorem execute_eq (service : Service) (project : Project) (s : Store) (request : Request) :
    service.execute project s request =
      match (service.schemaFor project).1 with
      | .error e => (.error e, (service.schemaFor project).2, s)
      | .ok build =>
        (.ok (request.execute build.compiled.schema project s).1, (service.schemaFor project).2,
          (request.execute build.compiled.schema project s).2) := by
  rw [execute]
  cases service.schemaFor project with
  | mk result next =>
    cases result with
    | error e => rfl
    | ok build => rfl

end Service

namespace Sample

/-- A project with one class, whose records have a name. -/
def project (version : Int) : Project where
  id := "p"
  name := "P"
  shortName := none
  uniqueName := none
  hash := none
  classes := some ⟨version, .object [("user", .object [("name", .string "string")])]⟩

/-- Asks for a new user. -/
def creation (allowMutation : Bool) : Request where
  text := "mutation \x7b createUser(input: \x7b\x7d) \x7b clientMutationId \x7d \x7d"
  variableValues := []
  operationName := none
  allowMutation := allowMutation

end Sample

end ClassApi
