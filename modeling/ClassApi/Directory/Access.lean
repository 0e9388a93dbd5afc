import ClassApi.Directory.FilePath

/-!
# Access to files

What a program needs of the world to read and write files. The actions live in any monad, so that
the same program runs against the files of a computer and against a folder held in memory.
-/

namespace ClassApi

/-- Why a file cannot be read or written. -/
inductive FileError where
  /-- There is nothing at the path. -/
  | notFound
  /-- There is a directory at the path. -/
  | isDirectory
  /-- The path leads through a file. -/
  | notDirectory
  /-- The contents are no text. -/
  | notText
  /-- Anything else. -/
  | other (reason : String)
deriving DecidableEq, Repr

/-- The text shown to callers. -/
def FileError.message : FileError → String
  | notFound => "No such file or directory (os error 2)"
  | isDirectory => "Is a directory (os error 21)"
  | notDirectory => "Not a directory (os error 20)"
  | notText => "stream did not contain valid UTF-8"
  | other reason => reason

/-- Access to files. -/
structure FileAccess (m : Type → Type) where
  /-- The directory from which paths are seen. -/
  directory : String
  /-- Reads a file. -/
  read : String → m (Except FileError String)
  /-- Writes a file, whose directory must exist. -/
  write : String → String → m (Except FileError Unit)

namespace FileAccess

variable {m : Type → Type} [Monad m]

/-- Whether there is anything at a path. -/
def isPresent (access : FileAccess m) (path : String) : m Bool := do
  match ← access.read path with
  | .error .notFound => return false
  | .error .notDirectory => return false
  | _ => return true

/-- The contents of the file at a path, if there is a file. -/
def contents? (access : FileAccess m) (path : String) : m (Option String) := do
  match ← access.read path with
  | .ok text => return some text
  | .error _ => return none

end FileAccess

end ClassApi
