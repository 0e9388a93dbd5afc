import ClassApi.Text.Letter

/-!
# Generated names

Field, query and enum names are derived from class and field names. A name is split into words at
separators, where a lower-case letter meets an upper-case one, where a letter meets a digit, and
before the last capital of an acronym (`URLPath` has the words `URL` and `Path`); the words are then
joined in one of two styles.
-/

namespace ClassApi.Naming

/-- Whether a new word begins with `c`, given the character before it and the one after it. -/
def startsWord (prev c : Char) (next : Option Char) : Bool :=
  (prev.isLower && c.isUpper)
    || (prev.isDigit != c.isDigit)
    || (prev.isUpper && c.isUpper && (next.map Char.isLower).getD false)

/-- Splits characters into words; `current` is the word being read, last character first. -/
def splitWords (current : List Char) : List Char → List (List Char)
  | [] => if current.isEmpty then [] else [current.reverse]
  | c :: rest =>
    if !c.isAlphanum then
      if current.isEmpty then splitWords [] rest else current.reverse :: splitWords [] rest
    else
      match current with
      | [] => splitWords [c] rest
      | prev :: _ =>
        if startsWord prev c rest.head? then current.reverse :: splitWords [c] rest
        else splitWords (c :: current) rest

/-- The words of a name. -/
def words (name : String) : List String :=
  (splitWords [] name.toList).map String.ofList

/-- The name with its first character in upper case. -/
def upperFirst (name : String) : String :=
  match name.toList with
  | [] => ""
  | c :: rest => String.ofList (upperChar c ++ rest)

/-- `first_name` becomes `firstName`, `NewsItem` becomes `newsItem`. -/
def camelCase (name : String) : String :=
  match (words name).map String.toLower with
  | [] => ""
  | first :: rest => String.join (first :: rest.map upperFirst)

/-- `createdAtAsc` becomes `CREATED_AT_ASC`. -/
def screamingSnakeCase (name : String) : String :=
  "_".intercalate ((words name).map String.toUpper)

end ClassApi.Naming
