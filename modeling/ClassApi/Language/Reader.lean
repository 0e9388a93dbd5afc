import ClassApi.Json.Reader
import ClassApi.Language.Tree

/-!
# Reading requests

The reader works on characters. White space, commas and comments may stand between any two tokens
but not inside a name, number, text or type. Keywords are recognised by their letters alone. Every
nested construct takes one unit of fuel; a request text never needs more than its length.
-/

namespace ClassApi.Language

/-- Drops a comment up to its line end, which is left in place. -/
def skipComment : List Char → List Char
  | [] => []
  | c :: rest => if c = '\n' ∨ c = '\r' then c :: rest else skipComment rest

theorem skipComment_length (input : List Char) : (skipComment input).length ≤ input.length := by
  induction input with
  | nil => simp [skipComment]
  | cons c rest ih =>
    simp only [skipComment]
    split
    · simp
    · simp only [List.length_cons]; omega

/-- Drops white space, commas, byte order marks and comments from the front. -/
def skip : List Char → List Char
  | [] => []
  | c :: rest =>
    if c = ' ' ∨ c = ',' ∨ c = '\t' ∨ c = '\n' ∨ c = '\r' ∨ c = '\ufeff' then skip rest
    else if c = '#' then skip (skipComment rest)
    else c :: rest
termination_by input => input.length
decreasing_by
  · simp
  · have := skipComment_length rest
    simp only [List.length_cons]; omega

/-- Whether a name may begin with a character. -/
def startsName (c : Char) : Bool :=
  c.isAlpha || c == '_'

/-- Whether a name may go on with a character. -/
def continuesName (c : Char) : Bool :=
  c.isAlphanum || c == '_'

/-- Takes a name that stands at the very front. -/
def takeNameHere : List Char → Option (String × List Char)
  | [] => none
  | c :: rest =>
    if startsName c then
      let (more, rest) := rest.span continuesName
      some (String.ofList (c :: more), rest)
    else none

/-- Takes a name. -/
def takeName (input : List Char) : Option (String × List Char) :=
  takeNameHere (skip input)

/-- Takes fixed characters that stand at the very front. -/
def takeHere (word : String) (input : List Char) : Option (List Char) :=
  Json.takeWord word.toList input

/-- Takes fixed characters. -/
def take (word : String) (input : List Char) : Option (List Char) :=
  takeHere word (skip input)

/-- Takes the digits before the point of a number: a zero alone, or digits that begin with another
one. -/
def takeWhole (input : List Char) : Option (List Nat × List Char) :=
  match input with
  | '0' :: rest => some ([0], rest)
  | input =>
    match takeDigits input with
    | ([], _) => none
    | found => some found

/-- Takes a point with digits behind it, if they stand at the front. -/
def takeFraction (input : List Char) : Option (List Nat) × List Char :=
  match NumberLiteral.takeFraction input with
  | some found => found
  | none => (none, input)

/-- Takes an exponent, if one stands at the front. -/
def takeExponent (input : List Char) : Option (Bool × List Nat) × List Char :=
  match NumberLiteral.takeExponent input with
  | some found => found
  | none => (none, input)

/-- Takes a number that stands at the very front; it must be within the range of floats. -/
def takeNumberHere (input : List Char) : Option (Numeral × List Char) := do
  let (negative, input) :=
    match input with
    | '-' :: rest => (true, rest)
    | rest => (false, rest)
  let (whole, input) ← takeWhole input
  let (fraction, input) := takeFraction input
  let (exponent, input) := takeExponent input
  let n ← (NumberLiteral.mk negative whole fraction exponent).value
  return (n, input)

/-- Takes the character that follows a backslash. Surrogates stand for nothing. -/
def takeEscape : List Char → Option (Char × List Char)
  | 'u' :: rest => do
    let (n, rest) ← Json.takeHex4 rest
    if n.isValidChar then some (Char.ofNat n, rest) else none
  | rest => Json.takeEscape rest

/-- Takes the rest of a text up to its closing quote; `acc` holds what was read, last character
first. -/
def takeText (fuel : Nat) (acc : List Char) (input : List Char) : Option (String × List Char) :=
  match fuel, input with
  | 0, _ => none
  | _, [] => none
  | _ + 1, '"' :: rest => some (String.ofList acc.reverse, rest)
  | fuel + 1, '\\' :: rest =>
    match takeEscape rest with
    | some (c, rest) => takeText fuel (c :: acc) rest
    | none => none
  | fuel + 1, c :: rest => if c = '\n' ∨ c = '\r' then none else takeText fuel (c :: acc) rest

/-- Takes the rest of a block text up to its three closing quotes. -/
def takeBlock (fuel : Nat) (acc : List Char) (input : List Char) : Option (List Char × List Char) :=
  match fuel, input with
  | 0, _ => none
  | _, [] => none
  | _ + 1, '"' :: '"' :: '"' :: rest => some (acc.reverse, rest)
  | fuel + 1, '\\' :: '"' :: '"' :: '"' :: rest => takeBlock fuel ('"' :: '"' :: '"' :: acc) rest
  | fuel + 1, c :: rest => takeBlock fuel (c :: acc) rest

/-- Splits a text into lines; `current` is the line being read, last character first. -/
def splitLines (current : List Char) : List Char → List (List Char)
  | [] => [current.reverse]
  | '\r' :: '\n' :: rest => current.reverse :: splitLines [] rest
  | '\r' :: rest => current.reverse :: splitLines [] rest
  | '\n' :: rest => current.reverse :: splitLines [] rest
  | c :: rest => splitLines (c :: current) rest

/-- Whether a character is a tabulator or a space. -/
def isIndent (c : Char) : Bool :=
  c == '\t' || c == ' '

/-- The common indentation of all lines but the first. -/
def commonIndent (lines : List (List Char)) : Nat :=
  let indents := (lines.drop 1).filterMap fun line => line.findIdx? fun c => !isIndent c
  (indents.min?).getD 0

/-- The value of a block text: the common indentation is dropped, and so are empty lines at both
ends. -/
def blockValue (raw : List Char) : String :=
  let lines := splitLines [] raw
  let indent := commonIndent lines
  let blank := fun (line : List Char) => line.all isIndent
  let dedented := lines.take 1 ++ (lines.drop 1).map fun line =>
    if indent ≤ line.length then line.drop indent else line
  let kept := ((dedented.dropWhile blank).reverse.dropWhile blank).reverse
  "\n".intercalate (kept.map String.ofList)

/-- Takes a text in either form, of which the first quote stands at the very front. -/
def takeStringHere (input : List Char) : Option (String × List Char) :=
  match input with
  | '"' :: '"' :: '"' :: rest =>
    match takeBlock (rest.length + 1) [] rest with
    | some (raw, rest) => some (blockValue raw, rest)
    | none => some ("", '"' :: rest)
  | '"' :: rest => takeText (rest.length + 1) [] rest
  | _ => none

/-- Takes a value word, a number or a text that stands at the very front. -/
def takeScalarHere (input : List Char) : Option (Literal × List Char) :=
  match takeNumberHere input with
  | some (n, rest) => some (.number n, rest)
  | none =>
    match takeStringHere input with
    | some (s, rest) => some (.string s, rest)
    | none =>
      match takeHere "true" input, takeHere "false" input, takeHere "null" input with
      | some rest, _, _ => some (.bool true, rest)
      | _, some rest, _ => some (.bool false, rest)
      | _, _, some rest => some (.null, rest)
      | none, none, none => (takeNameHere input).map fun (name, rest) => (.enum name, rest)

mutual

/-- Takes a value. -/
def takeLiteral (fuel : Nat) (input : List Char) : Option (Literal × List Char) :=
  match fuel with
  | 0 => none
  | fuel + 1 =>
    match skip input with
    | '$' :: rest => (takeName rest).map fun (name, rest) => (.ofVariable name, rest)
    | '[' :: rest => (takeItems fuel rest).map fun (items, rest) => (.list items, rest)
    | '{' :: rest =>
      (takeMembers fuel rest).map fun (members, rest) => (.object (Fields.ofEntries members), rest)
    | rest => takeScalarHere rest

/-- Takes list items up to the closing bracket. -/
def takeItems (fuel : Nat) (input : List Char) : Option (List Literal × List Char) :=
  match fuel with
  | 0 => none
  | fuel + 1 =>
    match skip input with
    | ']' :: rest => some ([], rest)
    | rest => do
      let (item, rest) ← takeLiteral fuel rest
      let (items, rest) ← takeItems fuel rest
      return (item :: items, rest)

/-- Takes members up to the closing brace. -/
def takeMembers (fuel : Nat) (input : List Char) : Option (List (String × Literal) × List Char) :=
  match fuel with
  | 0 => none
  | fuel + 1 =>
    match skip input with
    | '}' :: rest => some ([], rest)
    | rest => do
      let (name, rest) ← takeNameHere rest
      let rest ← take ":" rest
      let (value, rest) ← takeLiteral fuel rest
      let (members, rest) ← takeMembers fuel rest
      return ((name, value) :: members, rest)

end

/-- Takes arguments up to the closing parenthesis. -/
def takeArgumentItems (fuel : Nat) (input : List Char) :
    Option (List (String × Literal) × List Char) :=
  match fuel with
  | 0 => none
  | fuel + 1 =>
    match skip input with
    | ')' :: rest => some ([], rest)
    | rest => do
      let (name, rest) ← takeNameHere rest
      let rest ← take ":" rest
      let (value, rest) ← takeLiteral (rest.length + 1) rest
      let (arguments, rest) ← takeArgumentItems fuel rest
      return ((name, value) :: arguments, rest)

/-- Takes arguments in parentheses, if they follow. -/
def takeArguments (input : List Char) : Option (List (String × Literal) × List Char) :=
  match take "(" input with
  | some rest => takeArgumentItems (rest.length + 1) rest
  | none => some ([], input)

/-- Takes directives, as many as follow. -/
def takeDirectives (fuel : Nat) (input : List Char) : Option (List Directive × List Char) :=
  match fuel with
  | 0 => none
  | fuel + 1 =>
    match take "@" input with
    | none => some ([], input)
    | some rest => do
      let (name, rest) ← takeName rest
      let (arguments, rest) ← takeArguments rest
      let (directives, rest) ← takeDirectives fuel rest
      return (⟨name, arguments⟩ :: directives, rest)

/-- Takes a type that stands at the very front. -/
def takeTypeHere (fuel : Nat) (input : List Char) : Option (TypeRef × List Char) :=
  match fuel with
  | 0 => none
  | fuel + 1 => do
    let (type, rest) ←
      match input with
      | '[' :: rest => do
        let (item, rest) ← takeTypeHere fuel rest
        let rest ← takeHere "]" rest
        some (TypeRef.list item, rest)
      | rest => (takeNameHere rest).map fun (name, rest) => (.named name, rest)
    match rest with
    | '!' :: rest => return (.nonNull type, rest)
    | rest => return (type, rest)

/-- Takes a default value, if one follows; it refers to no variables. -/
def takeDefault (input : List Char) : Option (Option Datum × List Char) :=
  match take "=" input with
  | none => some (none, input)
  | some rest => do
    let (literal, rest) ← takeLiteral (rest.length + 1) rest
    let value ← literal.value? fun _ => none
    return (some value, rest)

/-- Takes variable definitions up to the closing parenthesis. -/
def takeVariableItems (fuel : Nat) (input : List Char) :
    Option (List VariableDefinition × List Char) :=
  match fuel with
  | 0 => none
  | fuel + 1 =>
    match skip input with
    | ')' :: rest => some ([], rest)
    | '$' :: rest => do
      let (name, rest) ← takeName rest
      let rest ← take ":" rest
      let (type, rest) ← takeTypeHere (rest.length + 1) (skip rest)
      let (before, rest) ← takeDirectives (rest.length + 1) rest
      let (default, rest) ← takeDefault rest
      let (after, rest) ← takeDirectives (rest.length + 1) rest
      let (definitions, rest) ← takeVariableItems fuel rest
      return ({ name, type, default, directives := before ++ after } :: definitions, rest)
    | _ => none

/-- Takes variable definitions in parentheses, if they follow. -/
def takeVariables (input : List Char) : Option (List VariableDefinition × List Char) :=
  match take "(" input with
  | some rest => takeVariableItems (rest.length + 1) rest
  | none => some ([], input)

/-- Takes a type condition, if one follows. -/
def takeCondition (input : List Char) : Option (String × List Char) := do
  takeName (← take "on" input)

/-- Takes an alias with its colon, if one follows, and then a name. -/
def takeAliased (input : List Char) : Option ((Option String × String) × List Char) := do
  let (first, rest) ← takeName input
  match take ":" rest with
  | none => return ((none, first), rest)
  | some rest =>
    let (name, rest) ← takeName rest
    return ((some first, name), rest)

mutual

/-- Takes selections in braces, at least one. -/
def takeSelectionSet (fuel : Nat) (input : List Char) : Option (List Selection × List Char) :=
  match fuel with
  | 0 => none
  | fuel + 1 => do
    let rest ← take "\x7b" input
    let (first, rest) ← takeSelection fuel rest
    let (more, rest) ← takeSelections fuel rest
    return (first :: more, rest)

/-- Takes selections up to the closing brace. -/
def takeSelections (fuel : Nat) (input : List Char) : Option (List Selection × List Char) :=
  match fuel with
  | 0 => none
  | fuel + 1 =>
    match take "\x7d" input with
    | some rest => some ([], rest)
    | none => do
      let (first, rest) ← takeSelection fuel input
      let (more, rest) ← takeSelections fuel rest
      return (first :: more, rest)

/-- Takes one selection. -/
def takeSelection (fuel : Nat) (input : List Char) : Option (Selection × List Char) :=
  match fuel with
  | 0 => none
  | fuel + 1 => do
    match take "..." input with
    | none =>
      let ((label, name), rest) ← takeAliased input
      let (arguments, rest) ← takeArguments rest
      let (directives, rest) ← takeDirectives (rest.length + 1) rest
      match takeSelectionSet fuel rest with
      | some (selections, rest) => return (.field label name arguments directives selections, rest)
      | none => return (.field label name arguments directives [], rest)
    | some rest =>
      match takeCondition rest with
      | some (condition, rest) =>
        let (directives, rest) ← takeDirectives (rest.length + 1) rest
        let (selections, rest) ← takeSelectionSet fuel rest
        return (.inline (some condition) directives selections, rest)
      | none =>
        match takeName rest with
        | some (name, rest) =>
          let (directives, rest) ← takeDirectives (rest.length + 1) rest
          return (.spread name directives, rest)
        | none =>
          let (directives, rest) ← takeDirectives (rest.length + 1) rest
          let (selections, rest) ← takeSelectionSet fuel rest
          return (.inline none directives selections, rest)

end

/-- Takes the kind of an operation that stands at the very front. -/
def takeKindHere (input : List Char) : Option (OperationKind × List Char) :=
  match takeHere "query" input, takeHere "mutation" input, takeHere "subscription" input with
  | some rest, _, _ => some (.query, rest)
  | _, some rest, _ => some (.mutation, rest)
  | _, _, some rest => some (.subscription, rest)
  | none, none, none => none

/-- Takes a name, if one follows. -/
def takeOptionalName (input : List Char) : Option String × List Char :=
  match takeName input with
  | some (name, rest) => (some name, rest)
  | none => (none, input)

/-- Takes an operation: with its kind spelled out, or a bare set of selections, which is a query. -/
def takeOperation (input : List Char) : Option (Operation × List Char) :=
  match takeKindHere (skip input) with
  | some (kind, rest) => do
    let (name, rest) := takeOptionalName rest
    let (variableDefinitions, rest) ← takeVariables rest
    let (directives, rest) ← takeDirectives (rest.length + 1) rest
    let (selections, rest) ← takeSelectionSet (rest.length + 1) rest
    return ({ kind, name, variableDefinitions, directives, selections }, rest)
  | none => do
    let (selections, rest) ← takeSelectionSet (input.length + 1) input
    return ({ kind := .query, name := none, variableDefinitions := []
              directives := [], selections }, rest)

/-- Takes a fragment. -/
def takeFragment (input : List Char) : Option (Fragment × List Char) := do
  let rest ← take "fragment" input
  let (name, rest) ← takeName rest
  let (condition, rest) ← takeCondition rest
  let (directives, rest) ← takeDirectives (rest.length + 1) rest
  let (selections, rest) ← takeSelectionSet (rest.length + 1) rest
  return ({ name, condition, directives, selections }, rest)

/-- Takes operations and fragments up to the end. -/
def takeDefinitions (fuel : Nat) (input : List Char) : Option RequestTree :=
  match fuel with
  | 0 => none
  | fuel + 1 =>
    match skip input with
    | [] => some ⟨[], []⟩
    | input =>
      match takeOperation input with
      | some (operation, rest) => do
        let tree ← takeDefinitions fuel rest
        return { tree with operations := operation :: tree.operations }
      | none => do
        let (fragment, rest) ← takeFragment input
        let tree ← takeDefinitions fuel rest
        return { tree with fragments := fragment :: tree.fragments }

/-- Whether the operations and fragments of a request have names that tell them apart: an operation
without a name stands alone, and there is at least one. -/
def wellNamed (tree : RequestTree) : Bool :=
  let names := tree.operations.filterMap Operation.name
  !tree.operations.isEmpty
    && (tree.operations.length == 1 || names.length == tree.operations.length)
    && (Fields.firstRepeated names).isNone
    && (Fields.firstRepeated (tree.fragments.map Fragment.name)).isNone

/-- The tree of a request text; `none` when the text is malformed. -/
def read (text : String) : Option RequestTree :=
  let input := text.toList
  match takeDefinitions (input.length + 1) input with
  | some tree => if wellNamed tree then some tree else none
  | none => none

end ClassApi.Language
