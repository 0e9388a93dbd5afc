import ClassApi.Directory.FilePath
import ClassApi.Project
import ClassApi.Toml.Text

/-!
# Settings

Settings say where the project lies and how its requests are served. They have four sections, and
every setting that is left out has a default.
-/

namespace ClassApi

/-- Settings. -/
structure Settings where
  /-- The path of the project document. -/
  projectPath : String := "project.json"
  /-- The path of the fixture that the store is filled from. -/
  fixturePath : Option String := none
  /-- Whether every request may use mutations. -/
  allowMutation : Bool := false
  /-- Whether responses are written over several lines. -/
  pretty : Bool := true
  /-- Whether compiled schemas are kept. -/
  caching : Bool := true
  /-- What is logged. -/
  logFilter : String := "info"
deriving DecidableEq, Repr

/-- A section of the settings. -/
structure SettingsSection where
  /-- The name of the section. -/
  name : String
  /-- What a value for the section is expected to be. -/
  expected : String
  /-- The names of its settings, in order. -/
  members : List String

namespace SettingsSection

/-- Where the project and its fixture lie. -/
def project : SettingsSection :=
  ⟨"project", "struct ProjectConfig", ["path", "fixture"]⟩

/-- How requests are executed. -/
def api : SettingsSection :=
  ⟨"api", "struct ApiConfig", ["allow_mutation", "pretty"]⟩

/-- How compiled schemas are kept. -/
def cache : SettingsSection :=
  ⟨"cache", "struct CacheConfig", ["enabled"]⟩

/-- What is logged. -/
def logging : SettingsSection :=
  ⟨"logging", "struct LoggingConfig", ["filter"]⟩

/-- The names of all sections, in order. -/
def names : List String :=
  [project.name, api.name, cache.name, logging.name]

/-- The settings of the section among the sections of a JSON value. -/
def ofJson (part : SettingsSection) (sections : Fields Json) : Option (Fields Json) :=
  match Fields.get? sections part.name with
  | none => some []
  | some json => json.recordMembers? part.members

end SettingsSection

namespace Settings

/-- A value that may be missing; one that is there must be readable. -/
def readOr {α : Type} (missing : α) (read : Json → Option α) : Option Json → Option α
  | none => some missing
  | some json => read json

/-- Reads settings from JSON, where every value must be of its own kind. -/
def ofJson (json : Json) : Option Settings := do
  let sections ← json.recordMembers? SettingsSection.names
  let project ← SettingsSection.project.ofJson sections
  let api ← SettingsSection.api.ofJson sections
  let cache ← SettingsSection.cache.ofJson sections
  let logging ← SettingsSection.logging.ofJson sections
  let missing : Settings := {}
  let projectPath ← readOr missing.projectPath Json.asString? (Fields.get? project "path")
  let fixturePath ← Json.optionalText? (Fields.get? project "fixture")
  let allowMutation ← readOr missing.allowMutation Json.asBool? (Fields.get? api "allow_mutation")
  let pretty ← readOr missing.pretty Json.asBool? (Fields.get? api "pretty")
  let caching ← readOr missing.caching Json.asBool? (Fields.get? cache "enabled")
  let logFilter ← readOr missing.logFilter Json.asString? (Fields.get? logging "filter")
  return { projectPath, fixturePath, allowMutation, pretty, caching, logFilter }

/-- A line that gives a setting a value. -/
def line (name value : String) : String :=
  name ++ " = " ++ value ++ "\n"

/-- A truth value as TOML writes it. -/
def truthText (b : Bool) : String :=
  if b then "true" else "false"

/-- The TOML document of settings. -/
def toToml (s : Settings) : String :=
  let fixture :=
    match s.fixturePath with
    | some path => line "fixture" (Toml.quote path)
    | none => ""
  "[project]\n" ++ line "path" (Toml.quote s.projectPath) ++ fixture
    ++ "\n[api]\n" ++ line "allow_mutation" (truthText s.allowMutation)
    ++ line "pretty" (truthText s.pretty)
    ++ "\n[cache]\n" ++ line "enabled" (truthText s.caching)
    ++ "\n[logging]\n" ++ line "filter" (Toml.quote s.logFilter)

/-- Where the project lies, as seen from a directory. -/
def projectLocation (s : Settings) (directory : String) : String :=
  FilePath.resolve directory s.projectPath

/-- Where the fixture lies, as seen from a directory. -/
def fixtureLocation (s : Settings) (directory : String) : Option String :=
  s.fixturePath.map (FilePath.resolve directory)

end Settings

end ClassApi
