import ClassApi.Schema.Assembly

/-!
# The text of a schema

A schema is written with its types in the order of their names, each followed by an empty line, then
the directives and the names of the roots. Descriptions stand in blocks before what they describe.
Arguments stand on one line, unless one of them has a description.
-/

namespace ClassApi.Schema

/-- As many tabulators as asked for. -/
def tabs (level : Nat) : String :=
  String.ofList (List.replicate level '\t')

/-- A description in its block; every line of it is indented. -/
def descriptionText (level : Nat) (description : String) : String :=
  let indent := tabs level
  let inner := ("\n" ++ indent).intercalate (description.splitOn "\n")
  indent ++ "\"\"\"\n" ++ indent ++ inner ++ "\n" ++ indent ++ "\"\"\"\n"

/-- A description in its block, if there is one. -/
def optionalDescription (level : Nat) : Option String → String
  | some description => descriptionText level description
  | none => ""

/-- A member with its type. -/
def memberText (m : InputMember) : String :=
  m.name ++ ": " ++ m.type.text

/-- Arguments on one line. -/
def inlineArguments (arguments : List InputMember) : String :=
  ", ".intercalate (arguments.map memberText)

/-- An argument among arguments of which one has a description; a line begins only before a
description. -/
def blockArgument (m : InputMember) : String :=
  match m.description with
  | some description => "\n" ++ descriptionText 2 description ++ tabs 2 ++ memberText m
  | none => tabs 2 ++ memberText m

/-- The arguments of a field in parentheses, if it has any. -/
def argumentsText (arguments : List InputMember) : String :=
  if arguments.isEmpty then ""
  else if arguments.any fun m => m.description.isSome then
    "(" ++ ",".intercalate (arguments.map blockArgument) ++ "\n" ++ tabs 1 ++ ")"
  else "(" ++ inlineArguments arguments ++ ")"

/-- A field on lines of its own. -/
def fieldText (f : FieldDefinition) : String :=
  optionalDescription 1 f.description ++ tabs 1 ++ f.name ++ argumentsText f.arguments ++ ": " ++
    f.type.text ++ "\n"

/-- The interfaces of an object type. -/
def interfacesText (interfaces : List String) : String :=
  if interfaces.isEmpty then "" else " implements " ++ " & ".intercalate interfaces

/-- A type with its name, members in braces. -/
def bracedText (head : String) (members : List String) : String :=
  head ++ " \x7b\n" ++ String.join members ++ "\x7d\n"

/-- A type with its name. -/
def typeText (name : String) : TypeDefinition → String
  | .scalar description => optionalDescription 0 description ++ "scalar " ++ name ++ "\n"
  | .object type =>
    optionalDescription 0 type.description
      ++ bracedText ("type " ++ name ++ interfacesText type.interfaces) (type.fields.map fieldText)
  | .interface description fields =>
    optionalDescription 0 description
      ++ bracedText ("interface " ++ name) (fields.map fun f =>
        tabs 1 ++ f.name ++ ": " ++ f.type.text ++ "\n")
  | .input members =>
    bracedText ("input " ++ name)
      (members.map fun m => optionalDescription 1 m.description ++ tabs 1 ++ memberText m ++ "\n")
  | .enum items => bracedText ("enum " ++ name) (items.map fun item => tabs 1 ++ item ++ "\n")

/-- The directives of every schema. -/
def directivesText : String :=
  descriptionText 0
      "Directs the executor to include this field or fragment only when the \x60if\x60 argument is true."
    ++ "directive @include(if: Boolean!) on FIELD | FRAGMENT_SPREAD | INLINE_FRAGMENT\n"
    ++ descriptionText 0
      "Directs the executor to skip this field or fragment when the \x60if\x60 argument is true."
    ++ "directive @skip(if: Boolean!) on FIELD | FRAGMENT_SPREAD | INLINE_FRAGMENT\n"

/-- The names of the roots. -/
def rootsText (schema : Schema) : String :=
  bracedText "schema" <|
    ("\tquery: " ++ queryRoot ++ "\n")
      :: if schema.hasMutation then ["\tmutation: " ++ mutationRoot ++ "\n"] else []

/-- The text of a schema. -/
def text (schema : Schema) : String :=
  String.join ((sortByName schema.types).map fun (name, type) => typeText name type ++ "\n")
    ++ directivesText ++ rootsText schema

end ClassApi.Schema
