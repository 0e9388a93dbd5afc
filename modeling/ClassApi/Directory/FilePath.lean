/-!
# File paths

A file path is a text whose parts are divided by slashes. Empty parts and single dots lead nowhere,
so the parts that count are the others.
-/

namespace ClassApi

namespace FilePath

/-- Whether a part of a path leads somewhere. -/
def leads (part : String) : Bool :=
  part != "" && part != "."

/-- The parts of a path that lead somewhere. -/
def parts (path : String) : List String :=
  (path.splitOn "/").filter leads

/-- Whether a path begins at the root. -/
def isAbsolute (path : String) : Bool :=
  path.toList.head? = some '/'

/-- A path as seen from a directory; an absolute path stays as it is. -/
def resolve (directory path : String) : String :=
  if isAbsolute path then path else directory ++ "/" ++ path

/-- What follows a directory in a path, if the path lies in it. -/
def inside? (directory path : String) : Option String :=
  let stem := directory.toList ++ ['/']
  let chars := path.toList
  if stem.isPrefixOf chars then some (String.ofList (chars.drop stem.length)) else none

/-- A path as it is written relative to a directory; a path that does not lie in the directory stays
as it is. -/
def relativeTo (directory path : String) : String :=
  match inside? directory path with
  | some rest => "/".intercalate (parts rest)
  | none => if isAbsolute path then path else "/".intercalate (parts path)

/-- The name of the file or directory that a path leads to. -/
def fileName? (path : String) : Option String :=
  match (parts path).getLast? with
  | some ".." => none
  | name => name

/-- What follows the last dot of a file name, unless the dot is its first character. -/
def extension? (path : String) : Option String :=
  match fileName? path with
  | none => none
  | some name =>
    let (ending, rest) := name.toList.reverse.span (· != '.')
    match rest with
    | _ :: _ :: _ => some (String.ofList ending.reverse)
    | _ => none

end FilePath

end ClassApi
