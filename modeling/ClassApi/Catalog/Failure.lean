/-!
# Failures of class definitions

Why the class definitions of a project cannot be compiled. Any one of them refuses the whole
project.
-/

namespace ClassApi

/-- Why class definitions are refused. -/
inductive DefinitionError where
  /-- A class name begins with a reserved prefix. -/
  | reservedClassPrefix (startsWith className : String)
  /-- A class name is reserved. -/
  | reservedClassName (className : String)
  /-- A field name is reserved. -/
  | reservedField (field className : String)
  /-- A field name begins with a reserved prefix. -/
  | reservedFieldPrefix (startsWith field className : String)
  /-- A list declaration does not hold exactly one declaration. -/
  | arrayLength
  /-- A relation names no target. -/
  | missingRef
  /-- A relation names a target that is not declared. -/
  | missingClass (reference : String)
  /-- A field declaration has none of the accepted forms. -/
  | unparsableField (field className : String)
  /-- The queries for one and for many objects of a class have the same name. -/
  | nameCollision (className : String)
  /-- The definitions have the wrong shape. -/
  | invalidFormat (reason : String)
deriving DecidableEq, Repr

/-- The text shown to callers. -/
def DefinitionError.message : DefinitionError → String
  | reservedClassPrefix startsWith className =>
    s!"Parse error: Cannot use reserved prefix \"{startsWith}\" in class \"{className}\""
  | reservedClassName className => s!"Parse error: Cannot use reserved class name \"{className}\""
  | reservedField field className =>
    s!"Parse error: Cannot use reserved field \"{field}\" in class \"{className}\""
  | reservedFieldPrefix startsWith field className =>
    s!"Parse error: Cannot use reserved prefix \"{startsWith}\" in field \"{field}\" of class \"{className}\""
  | arrayLength => "Parse error: Array must have a length of 1"
  | missingRef => "Parse error: \"relation\" needs a \"ref\""
  | missingClass reference => s!"Parse error: Found a reference to missing class \"{reference}\""
  | unparsableField field className =>
    s!"Parse error: Cannot parse field \"{field}\" of class \"{className}\""
  | nameCollision className =>
    s!"Cannot create fields for {className}, queries for one and multiple have the same name !"
  | invalidFormat reason => s!"Invalid class definition: {reason}"

end ClassApi
