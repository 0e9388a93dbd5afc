import ClassApi.Command.Run
import Std.Time.DateTime

/-!
# The program

Runs one command against the files of the computer.
-/

namespace ClassApi

/-- The cause of a failure of the file system. -/
def FileError.ofSystem : IO.Error → FileError
  | .noFileOrDirectory _ _ _ => .notFound
  | .inappropriateType _ code _ => if code = 20 then .notDirectory else .isDirectory
  | failure => .other (toString failure)

/-- What an action of the file system gives, or why it fails. -/
def FileError.catching {α : Type} (action : IO α) : IO (Except FileError α) := do
  match ← action.toBaseIO with
  | .ok value => return .ok value
  | .error failure => return .error (.ofSystem failure)

/-- Access to the files of the computer. -/
def FileAccess.system (directory : String) : FileAccess IO where
  directory := directory
  read path := FileError.catching (IO.FS.readFile path)
  write path text := FileError.catching (IO.FS.writeFile path text)

/-- The names of the variables of the environment that are looked at. -/
def Settings.variableNames : List String :=
  ["HOME", "XDG_CONFIG_HOME", "FAMILIAR_GRAPHQL__PROJECT__PATH",
    "FAMILIAR_GRAPHQL__PROJECT__FIXTURE", "FAMILIAR_GRAPHQL__API__ALLOW_MUTATION",
    "FAMILIAR_GRAPHQL__API__PRETTY", "FAMILIAR_GRAPHQL__CACHE__ENABLED",
    "FAMILIAR_GRAPHQL__LOGGING__FILTER"]

/-- The variables of the environment that are set. -/
def Settings.systemVariables : IO (List (String × String)) :=
  Settings.variableNames.filterMapM fun name => do
    match ← IO.getEnv name with
    | some value => return some (name, value)
    | none => return none

/-- An empty store whose ids are drawn from the present second and a random number. -/
def Store.fresh : IO Store := do
  let now ← Std.Time.Timestamp.now
  let millis := now.toMillisecondsSinceUnixEpoch.val
  let random ← IO.rand 0 (Nat.pow 2 40 - 1)
  return .empty ((millis / 1000).toNat * Nat.pow 2 40 + random) ⟨millis⟩

end ClassApi

/-- Runs the program. -/
def main (arguments : List String) : IO UInt32 := do
  let directory ← IO.currentDir
  let environment ← ClassApi.Settings.systemVariables
  let store ← ClassApi.Store.fresh
  let outcome ← ClassApi.Outcome.ofCall (ClassApi.FileAccess.system (toString directory))
    environment store arguments
  IO.print outcome.output
  IO.eprint outcome.errorOutput
  return outcome.exitCode.toUInt32
