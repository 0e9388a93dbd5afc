/-!
# Type references

How fields and arguments name their types: a name, a list of a type, or a type that excludes `null`.
-/

namespace ClassApi

/-- A reference to a type. -/
inductive TypeRef where
  /-- The type with a name. -/
  | named (name : String)
  /-- Lists of a type. -/
  | list (item : TypeRef)
  /-- A type without `null`. -/
  | nonNull (inner : TypeRef)
deriving DecidableEq, Repr, Inhabited

namespace TypeRef

/-- The text of a reference, `[String!]!`. -/
def text : TypeRef → String
  | named name => name
  | list item => "[" ++ item.text ++ "]"
  | nonNull inner => inner.text ++ "!"

/-- The name at the bottom of a reference. -/
def baseName : TypeRef → String
  | named name => name
  | list item => item.baseName
  | nonNull inner => inner.baseName

/-- Whether `null` is excluded. -/
def isNonNull : TypeRef → Bool
  | nonNull _ => true
  | _ => false

/-- The type of the items, when the type is one of lists. -/
def item? : TypeRef → Option TypeRef
  | named _ => none
  | list item => some item
  | nonNull inner => inner.item?

/-- Whether a position of a type takes every value of another one. A position that takes lists does
not take lists that exclude `null`. -/
def takes : TypeRef → TypeRef → Bool
  | nonNull position, nonNull given => takes position given
  | named position, nonNull given => takes (named position) given
  | named position, named given => position == given
  | list position, list given => takes position given
  | _, _ => false

end TypeRef

end ClassApi
