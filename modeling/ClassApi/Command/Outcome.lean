import ClassApi.Directory.Access
import ClassApi.Execution.Response
import ClassApi.Json.Writer
import ClassApi.Schema.Compiled
import ClassApi.Settings.Failure
import ClassApi.Store.Failure

/-!
# Outcomes of commands

What a call of the program ends with: a text, a response, a failure, or nothing at all when its
arguments do not fit. The exit code tells failures of the program from failures inside a response.
-/

namespace ClassApi

/-- Why a command fails. -/
inductive CommandError where
  /-- The settings cannot be loaded. -/
  | settings (cause : SettingsError)
  /-- There is no project document. -/
  | missingProject (path : String)
  /-- The project document cannot be read. -/
  | unreadableProject (path : String) (cause : FileError)
  /-- The project document is none. -/
  | malformedProject (path : String)
  /-- A file cannot be read. -/
  | unreadable (path : String) (cause : FileError)
  /-- A file is no JSON. -/
  | malformed (path : String)
  /-- The variables are no JSON. -/
  | malformedVariables
  /-- The schema cannot be written. -/
  | unwritable (path : String) (cause : FileError)
  /-- The settings cannot be written. -/
  | unsaved (cause : FileError)
  /-- The store refuses the fixture. -/
  | store (cause : StoreError)
  /-- The schema cannot be compiled. -/
  | api (cause : ApiError)

/-- The text shown to callers. -/
def CommandError.message : CommandError → String
  | settings cause => cause.message
  | missingProject path => "project document " ++ path ++ " does not exist"
  | unreadableProject path cause =>
    "loading " ++ path ++ ": IO error: " ++ cause.message ++ ": " ++ cause.message
  | malformedProject path => "loading " ++ path ++ ": JSON error"
  | unreadable path cause => "reading " ++ path ++ ": " ++ cause.message
  | malformed path => "parsing " ++ path
  | malformedVariables => "parsing variables"
  | unwritable path cause => "writing " ++ path ++ ": " ++ cause.message
  | unsaved cause => cause.message
  | store cause => cause.message
  | api cause => cause.message

/-- What a call of the program ends with. -/
inductive Outcome where
  /-- A text is printed. -/
  | printed (text : String)
  /-- A response is printed, over several lines or on one. -/
  | responded (response : Response) (pretty : Bool)
  /-- The command failed. -/
  | failed (cause : CommandError)
  /-- The arguments do not fit. -/
  | misused

namespace Outcome

/-- The exit code. -/
def exitCode : Outcome → Nat
  | printed _ => 0
  | responded response _ => if response.isFailure then 2 else 0
  | failed _ => 1
  | misused => 2

/-- What is written to the standard output. -/
def output : Outcome → String
  | printed text => text
  | responded response pretty =>
    (if pretty then response.toJson.pretty else response.toJson.compact) ++ "\n"
  | failed _ => ""
  | misused => ""

/-- What is written to the standard error output. -/
def errorOutput : Outcome → String
  | printed _ => ""
  | responded _ _ => ""
  | failed cause => "❌ Error: " ++ cause.message ++ "\n"
  | misused => "error: the arguments do not fit\n\nFor more information, try '--help'.\n"

end Outcome

end ClassApi
