import ClassApi.Directory.Access
import ClassApi.Fields

/-!
# Folders

A folder held in memory: texts by the paths at which they lie. A directory is there if a file lies
in it.
-/

namespace ClassApi

/-- A folder. -/
structure Folder where
  /-- Where the folder lies. -/
  place : String
  /-- The texts of its files by their paths inside the folder, parts divided by single slashes. -/
  files : Fields String

namespace Folder

/-- Follows parts of a path from a directory of the folder; `none` is anywhere outside of it. -/
def follow : List String → List String → Option (List String)
  | directory, [] => some directory
  | directory, part :: rest =>
    if part = ".." then (if directory.isEmpty then none else follow directory.dropLast rest)
    else follow (directory ++ [part]) rest

/-- The parts that lead to a path from the top of the folder. -/
def locate (folder : Folder) (path : String) : Option (List String) :=
  match FilePath.inside? folder.place path with
  | some rest => follow [] (FilePath.parts rest)
  | none => if FilePath.isAbsolute path then none else follow [] (FilePath.parts path)

/-- The text of the file at a place in the folder. -/
def file? (folder : Folder) (parts : List String) : Option String :=
  Fields.get? folder.files ("/".intercalate parts)

/-- Whether there is a directory at a place in the folder. -/
def isDirectory (folder : Folder) (parts : List String) : Bool :=
  parts.isEmpty || folder.files.any fun file =>
    let names := FilePath.parts file.1
    parts.isPrefixOf names && parts.length < names.length

/-- Whether a path can only mean a directory. -/
def meansDirectory (path : String) : Bool :=
  match path.toList.reverse with
  | '/' :: _ => true
  | '.' :: '/' :: _ => true
  | _ => false

/-- Why nothing lies at a place that is neither a file nor a directory. -/
def absence (folder : Folder) (parts : List String) : FileError :=
  let above := (List.range parts.length).map parts.take
  if above.any fun directory => (folder.file? directory).isSome then .notDirectory else .notFound

/-- Reads a file. -/
def read (folder : Folder) (path : String) : Except FileError String :=
  match folder.locate path with
  | none => .error .notFound
  | some parts =>
    match folder.file? parts with
    | some text => if meansDirectory path then .error .notDirectory else .ok text
    | none =>
      if path.isEmpty then .error .notFound
      else if folder.isDirectory parts then .error .isDirectory
      else .error (folder.absence parts)

/-- Writes a file. -/
def write (folder : Folder) (path text : String) : Except FileError Unit × Folder :=
  match folder.locate path with
  | none => (.error .notFound, folder)
  | some parts =>
    if path.isEmpty then (.error .notFound, folder)
    else if folder.isDirectory parts then (.error .isDirectory, folder)
    else if (folder.file? parts).isSome && meansDirectory path then (.error .notDirectory, folder)
    else if !folder.isDirectory parts.dropLast then (.error (folder.absence parts), folder)
    else if meansDirectory path then (.error .isDirectory, folder)
    else (.ok (), { folder with files := Fields.insert folder.files ("/".intercalate parts) text })

/-- Access to the files of a folder. -/
def access (place : String) : FileAccess (StateM Folder) where
  directory := place
  read path := fun folder => (folder.read path, folder)
  write path text := fun folder => folder.write path text

end Folder

end ClassApi
