import ClassApi.Schema.Compiled

/-!
# The schema cache

A cache keeps one compiled schema for every project. It is used as long as the hash of the project
stays the same, and replaced when it does not; a compilation that fails leaves it in place.
Compilations are numbered, so it can be told whether two requests were served by the same one.
-/

namespace ClassApi

/-- The outcome of a compilation. -/
structure Build where
  /-- The number of the compilation. -/
  number : Nat
  /-- The compiled schema. -/
  compiled : CompiledSchema

/-- Compiled schemas by the ids of their projects. -/
structure SchemaCache where
  /-- The compiled schemas. -/
  slots : Fields Build
  /-- How many compilations succeeded. -/
  builds : Nat

namespace SchemaCache

/-- A cache without schemas. -/
def empty : SchemaCache where
  slots := []
  builds := 0

/-- The schema of a project, whatever its hash. -/
def get? (cache : SchemaCache) (tenant : String) : Option Build :=
  Fields.get? cache.slots tenant

/-- The schema of a project, if it has the hash. -/
def current? (cache : SchemaCache) (tenant hash : String) : Option Build :=
  match cache.get? tenant with
  | some build => if build.compiled.hash = hash then some build else none
  | none => none

/-- Compiles without looking for a schema or keeping it. -/
def buildOnce (cache : SchemaCache) (compile : Unit → Except ApiError CompiledSchema) :
    Except ApiError Build × SchemaCache :=
  match compile () with
  | .error e => (.error e, cache)
  | .ok compiled => (.ok ⟨cache.builds + 1, compiled⟩, { cache with builds := cache.builds + 1 })

/-- Keeps a schema for a project, unless there is one with its hash already; that one is given back
then. -/
def publish (cache : SchemaCache) (tenant : String) (build : Build) : Build × SchemaCache :=
  match cache.current? tenant build.compiled.hash with
  | some kept => (kept, cache)
  | none => (build, { cache with slots := Fields.insert cache.slots tenant build })

/-- The schema of a project with the hash, or else one that is compiled now and kept. -/
def getOrBuild (cache : SchemaCache) (tenant hash : String)
    (compile : Unit → Except ApiError CompiledSchema) : Except ApiError Build × SchemaCache :=
  match cache.current? tenant hash with
  | some build => (.ok build, cache)
  | none =>
    match cache.buildOnce compile with
    | (.error e, cache) => (.error e, cache)
    | (.ok build, cache) =>
      let (build, cache) := cache.publish tenant build
      (.ok build, cache)

/-- Drops the schema of a project, and tells whether there was one. -/
def invalidate (cache : SchemaCache) (tenant : String) : Bool × SchemaCache :=
  ((cache.get? tenant).isSome, { cache with slots := Fields.remove cache.slots tenant })

end SchemaCache

end ClassApi
