import ClassApi.Schema.Assembly

/-!
# Compiled schemas

The definitions of a project are compiled into a schema, which remembers the hash of what it was
compiled from.
-/

namespace ClassApi

/-- Why a request fails as a whole. -/
inductive ApiError where
  /-- The class definitions are refused. -/
  | definition (cause : DefinitionError)
  /-- The schema is refused. -/
  | schema (cause : SchemaError)
deriving DecidableEq, Repr

/-- The text shown to callers. -/
def ApiError.message : ApiError → String
  | definition cause => cause.message
  | schema cause => cause.message

/-- A schema with the hash of the definitions it was compiled from. -/
structure CompiledSchema where
  /-- The schema. -/
  schema : Schema
  /-- The hash. -/
  hash : String
  /-- The number of classes. -/
  classCount : Nat

/-- The registry of the classes of a project. -/
def Project.registry (p : Project) : Except ApiError Registry :=
  match Registry.ofJson p.definitions with
  | .ok registry => .ok registry
  | .error e => .error (.definition e)

namespace CompiledSchema

/-- Merges domains into a schema. -/
def assemble (domains : List Domain) : Except ApiError Schema :=
  match Schema.assemble domains with
  | .ok schema => .ok schema
  | .error e => .error (.schema e)

/-- Compiles the schema of a project: its classes, the files, and the project itself. -/
def ofProject (p : Project) : Except ApiError CompiledSchema := do
  let registry ← p.registry
  let schema ← assemble [.classes registry p.version, .files, .project]
  return { schema, hash := p.schemaHash, classCount := registry.classes.length }

end CompiledSchema

end ClassApi
