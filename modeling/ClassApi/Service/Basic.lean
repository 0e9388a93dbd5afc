import ClassApi.Execution.Run
import ClassApi.Service.Cache

/-!
# The service

A service executes the requests of many projects. It compiles the schema of a project when it is
first asked for and whenever the definitions have changed, or, without a cache, for every request.
-/

namespace ClassApi

/-- A service. -/
structure Service where
  /-- Whether compiled schemas are kept. -/
  caching : Bool
  /-- The compiled schemas. -/
  cache : SchemaCache

namespace Service

/-- A service that has not compiled anything yet. -/
def start (caching : Bool) : Service where
  caching := caching
  cache := .empty

/-- The compiled schema of a project. -/
def schemaFor (service : Service) (project : Project) : Except ApiError Build × Service :=
  let compile := fun _ => CompiledSchema.ofProject project
  let (build, cache) :=
    if service.caching then service.cache.getOrBuild project.id project.schemaHash compile
    else service.cache.buildOnce compile
  (build, { service with cache })

/-- Executes a request of a project. If the schema cannot be compiled the request fails as a
whole. -/
def execute (service : Service) (project : Project) (s : Store) (request : Request) :
    Except ApiError Response × Service × Store :=
  match service.schemaFor project with
  | (.error e, service) => (.error e, service, s)
  | (.ok build, service) =>
    let (response, s) := request.execute build.compiled.schema project s
    (.ok response, service, s)

/-- Drops the schema kept for a project, and tells whether there was one. -/
def invalidate (service : Service) (tenant : String) : Bool × Service :=
  let (found, cache) := service.cache.invalidate tenant
  (found, { service with cache })

end Service

end ClassApi
