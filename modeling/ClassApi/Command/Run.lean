import ClassApi.Command.Arguments
import ClassApi.Command.Outcome
import ClassApi.Schema.Text
import ClassApi.Service.Basic
import ClassApi.Settings.Loading
import ClassApi.Store.Fixture

/-!
# Running commands

A command loads the settings and then does its work: it compiles a project, prints its schema,
executes one request against a store filled from a fixture, or shows the settings. What a request
writes is gone afterwards.
-/

namespace ClassApi

namespace Action

variable {m : Type → Type} [Monad m]

/-- Loads a project from the path that is given, or else from the one in the settings. -/
def loadProject (access : FileAccess m) (settings : Settings) (given : Option String) :
    ExceptT CommandError m Project := do
  let path := given.getD (settings.projectLocation access.directory)
  match ← access.read path with
  | .error .notFound => throw (.missingProject path)
  | .error .notDirectory => throw (.missingProject path)
  | .error cause => throw (.unreadableProject path cause)
  | .ok text =>
    match (Json.read text).bind Project.ofJson with
    | some project => return project
    | none => throw (.malformedProject path)

/-- Reads a file. -/
def readFile (access : FileAccess m) (path : String) : ExceptT CommandError m String := do
  match ← access.read path with
  | .ok text => return text
  | .error cause => throw (.unreadable path cause)

/-- Fills a store from the fixture at a path. -/
def loadFixture (access : FileAccess m) (s : Store) (path : String) :
    ExceptT CommandError m Store := do
  let text ← readFile access path
  match Json.read text with
  | none => throw (.malformed path)
  | some fixture =>
    match s.load fixture with
    | (some cause, _) => throw (.store cause)
    | (none, s) => return s

/-- Whether the text of a request is the path of a file that holds it. -/
def isRequestPath (text : String) : Bool :=
  match FilePath.extension? text with
  | some ending => ending = "graphql" || ending = "gql"
  | none => false

/-- The text of a request that is given as it is or as a path. -/
def requestText (access : FileAccess m) (text : String) : ExceptT CommandError m String :=
  if isRequestPath text then readFile access text else return text

/-- The values of variables in a text. -/
def readVariables : Option String → ExceptT CommandError m (Fields Datum)
  | none => return []
  | some text =>
    match Json.read text with
    | some json => return Request.variablesOfJson json
    | none => throw .malformedVariables

/-- The schema of a project. -/
def compile (project : Project) : ExceptT CommandError m CompiledSchema :=
  match CompiledSchema.ofProject project with
  | .ok compiled => return compiled
  | .error cause => throw (.api cause)

/-- The line that tells that a file was written. -/
def wroteText (path : String) : String :=
  "📝 Wrote " ++ path ++ "\n"

/-- Compiles a project and reports its classes. -/
def runCheck (access : FileAccess m) (settings : Settings) (path : Option String) :
    ExceptT CommandError m Outcome := do
  let project ← loadProject access settings path
  let compiled ← compile project
  return .printed ("✅ " ++ project.name ++ " - " ++ toString compiled.classCount ++
    " classes\n   hash: " ++ compiled.hash ++ "\n")

/-- Prints the schema of a project, or writes it to a file. -/
def runSdl (access : FileAccess m) (settings : Settings) (path output : Option String) :
    ExceptT CommandError m Outcome := do
  let project ← loadProject access settings path
  let compiled ← compile project
  match output with
  | none => return .printed compiled.schema.text
  | some target =>
    match ← access.write target compiled.schema.text with
    | .ok () => return .printed (wroteText target)
    | .error cause => throw (.unwritable target cause)

/-- Executes a request against a store that is filled from a fixture. -/
def runQuery (access : FileAccess m) (s : Store) (settings : Settings)
    (path fixture : Option String) (text : String) (variableText : Option String)
    (allowMutation : Bool) : ExceptT CommandError m Outcome := do
  let project ← loadProject access settings path
  let s ←
    match fixture.or (settings.fixtureLocation access.directory) with
    | some fixture => loadFixture access s fixture
    | none => pure s
  let text ← requestText access text
  let variableValues ← readVariables variableText
  let request : Request :=
    { text, variableValues, operationName := none
      allowMutation := allowMutation || settings.allowMutation }
  match (Service.start settings.caching).execute project s request with
  | (.ok response, _, _) => return .responded response settings.pretty
  | (.error cause, _, _) => throw (.api cause)

/-- Shows the settings, or writes them to a file. -/
def runConfig (access : FileAccess m) (settings : Settings) (target : Option String) :
    ExceptT CommandError m Outcome := do
  match target with
  | none => return .printed settings.toToml
  | some target =>
    match ← access.write target settings.toToml with
    | .ok () => return .printed (wroteText target)
    | .error cause => throw (.unsaved cause)

/-- Does what an action asks for. -/
def run (access : FileAccess m) (s : Store) (settings : Settings) :
    Action → ExceptT CommandError m Outcome
  | check project => runCheck access settings project
  | sdl project output => runSdl access settings project output
  | query project fixture text variableText allowMutation =>
    runQuery access s settings project fixture text variableText allowMutation
  | config target => runConfig access settings target

end Action

namespace Invocation

variable {m : Type → Type} [Monad m]

/-- Loads the settings and does what a call asks for. -/
def run (access : FileAccess m) (environment : List (String × String)) (s : Store)
    (call : Invocation) :
    ExceptT CommandError m Outcome := do
  let settings : Except SettingsError Settings ←
    liftM (Settings.load access environment call.settingsFile).run
  match settings with
  | .error cause => throw (.settings cause)
  | .ok settings => call.action.run access s settings

end Invocation

/-- The outcome of a call of the program with some arguments, given the variables of the environment
and a store that nothing has been written to. -/
def Outcome.ofCall {m : Type → Type} [Monad m] (access : FileAccess m)
    (environment : List (String × String)) (s : Store) (arguments : List String) : m Outcome := do
  match Invocation.read arguments with
  | .error (.help text) => return .printed text
  | .error .misuse => return .misused
  | .ok call =>
    match ← (call.run access environment s).run with
    | .ok outcome => return outcome
    | .error cause => return .failed cause

end ClassApi
