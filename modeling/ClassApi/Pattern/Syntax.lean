import ClassApi.Codec.Hex
import ClassApi.Pattern.Basic

/-!
# Pattern syntax

The usual notation of regular expressions: alternation, groups with option letters, counted and
uncounted repetition, bracketed classes with set operations, escapes. Look-around and back
references are refused, as are patterns whose automaton would be too large. Reading takes one unit
of fuel for every construct.
-/

namespace ClassApi.Pattern

/-- The options a pattern is read with. -/
structure Options where
  /-- Letters stand for both cases. -/
  ignoreCase : Bool := false
  /-- Line ends delimit `^` and `$`. -/
  multiLine : Bool := false
  /-- The dot matches line ends. -/
  dotAll : Bool := false
  /-- White space and comments are skipped. -/
  extended : Bool := false
deriving DecidableEq, Repr

/-- The options named by letters; other letters mean nothing. -/
def Options.ofLetters (letters : String) : Options where
  ignoreCase := letters.toList.contains 'i'
  multiLine := letters.toList.contains 'm'
  dotAll := letters.toList.contains 's'
  extended := letters.toList.contains 'x'

/-- Drops a comment up to its line end. -/
def skipComment : List Char → List Char
  | [] => []
  | c :: rest => if c = '\n' then rest else skipComment rest

/-- Drops white space and comments, when the options ask for it; the fuel is the length of the
input. -/
def skipFiller (o : Options) : Nat → List Char → List Char
  | 0, input => input
  | _ + 1, [] => []
  | fuel + 1, c :: rest =>
    if !o.extended then c :: rest
    else if isWhiteSpace c then skipFiller o fuel rest
    else if c = '#' then skipFiller o fuel (skipComment rest)
    else c :: rest

/-- Drops the filler at the front. -/
def skip (o : Options) (input : List Char) : List Char :=
  skipFiller o (input.length + 1) input

/-- What an escape stands for. -/
inductive Escape where
  /-- A literal character. -/
  | literal (c : Char)
  /-- A class of characters. -/
  | ofClass (cls : CharClass)
  /-- A condition on the place. -/
  | boundary (kind : Boundary)

/-- The character with a code point, when there is one. -/
def scalar? (n : Nat) : Option Char :=
  if n.isValidChar then some (Char.ofNat n) else none

/-- The value of some hexadecimal digits; there must be at least one. -/
def hexValue? (digits : List Char) : Option Nat :=
  if digits.isEmpty then none
  else digits.foldlM (fun n c => (Hex.digitValue? c).map fun d => n * 16 + d) 0

/-- Takes characters up to a closing brace. -/
def takeBraced : List Char → Option (List Char × List Char)
  | [] => none
  | '}' :: rest => some ([], rest)
  | c :: rest => (takeBraced rest).map fun (inner, rest) => (c :: inner, rest)

/-- Reads a character given by `width` hexadecimal digits or by any number of them in braces. -/
def takeHexChar (width : Nat) (input : List Char) : Option (Char × List Char) := do
  match input with
  | '{' :: rest =>
    let (digits, rest) ← takeBraced rest
    let n ← hexValue? digits
    return (← scalar? n, rest)
  | input =>
    if input.length < width then none
    else
      let n ← hexValue? (input.take width)
      return (← scalar? n, input.drop width)

/-- The name of a set of characters, without case, blanks, hyphens and underscores. -/
def canonicalName (name : List Char) : String :=
  String.ofList ((name.filter fun c => c != ' ' && c != '-' && c != '_').map Char.toLower)

/-- The sets of the character database that patterns may name. -/
def namedSet (name : String) : Option CharClass :=
  match name with
  | "any" => some .any
  | "ascii" => some (.range '\x00' '\x7f')
  | "l" | "letter" => some (.members .letter)
  | "lu" | "uppercaseletter" | "uppercase" | "upper" => some (.members .uppercaseLetter)
  | "ll" | "lowercaseletter" | "lowercase" | "lower" => some (.members .lowercaseLetter)
  | "m" | "mark" => some (.members .mark)
  | "n" | "number" => some (.members .numeric)
  | "nd" | "decimalnumber" | "digit" => some (.members .decimalDigit)
  | "p" | "punctuation" | "punct" => some (.members .punctuation)
  | "pc" | "connectorpunctuation" => some (.members .connector)
  | "s" | "symbol" => some (.members .symbolCharacter)
  | "z" | "separator" => some (.members .separator)
  | "cc" | "control" | "cntrl" => some (.members .control)
  | "alphabetic" | "alpha" => some (.members .alphabetic)
  | "whitespace" | "wspace" | "space" => some (.members .whiteSpace)
  | "cased" => some (.members .cased)
  | "caseignorable" | "ci" => some (.members .caseIgnorable)
  | "latin" | "latn" => some (.members .latin)
  | "greek" | "grek" => some (.members .greek)
  | "cyrillic" | "cyrl" => some (.members .cyrillic)
  | _ => none

/-- The set a property expression names: a name alone, or the value of a category or script. -/
def propertySet (text : List Char) : Option CharClass :=
  let (wanted, text) :=
    match text with
    | '^' :: rest => (false, rest)
    | rest => (true, rest)
  let signed := fun (positive : Bool) (name : List Char) =>
    (namedSet (canonicalName name)).map fun cls => if positive then cls else .negated cls
  let parts := text.span fun c => c != '=' && c != ':'
  match parts with
  | (name, []) => signed wanted name
  | (name, _ :: value) =>
    let (wanted, name) :=
      if name.getLast? = some '!' then (!wanted, name.dropLast) else (wanted, name)
    match canonicalName name with
    | "gc" | "generalcategory" | "sc" | "script" | "scx" | "scriptextensions" => signed wanted value
    | _ => none

/-- Reads the property after `p`: one letter, or an expression in braces. -/
def takeProperty (o : Options) (input : List Char) : Option (CharClass × List Char) := do
  let (name, rest) ←
    match input with
    | '{' :: rest => takeBraced rest
    | c :: rest => some ([c], rest)
    | [] => none
  let cls ← propertySet name
  return (if o.ignoreCase then .ignoringCase cls else cls, rest)

/-- The condition that a word in braces after `b` names. -/
def namedEdge (name : String) : Option Boundary :=
  match name with
  | "start" => some .wordStart
  | "end" => some .wordEnd
  | "start-half" => some .noWordBefore
  | "end-half" => some .noWordAfter
  | _ => none

/-- Reads what follows `b`: nothing, or a word in braces. -/
def takeEdge (input : List Char) : Option (Boundary × List Char) :=
  match input with
  | '{' :: c :: rest =>
    if c.isAlpha ∨ c = '-' then do
      let (name, rest) ← takeBraced (c :: rest)
      return (← namedEdge (String.ofList name), rest)
    else some (.wordEdge, input)
  | ['{'] => none
  | _ => some (.wordEdge, input)

/-- Reads an escape, the backslash being gone. -/
def takeEscape (o : Options) : List Char → Option (Escape × List Char)
  | [] => none
  | c :: rest =>
    match c with
    | 'x' => (takeHexChar 2 rest).map fun (c, rest) => (.literal c, rest)
    | 'u' => (takeHexChar 4 rest).map fun (c, rest) => (.literal c, rest)
    | 'U' => (takeHexChar 8 rest).map fun (c, rest) => (.literal c, rest)
    | 'p' => (takeProperty o rest).map fun (cls, rest) => (.ofClass cls, rest)
    | 'P' => (takeProperty o rest).map fun (cls, rest) => (.ofClass (.negated cls), rest)
    | 'd' => some (.ofClass .digit, rest)
    | 'D' => some (.ofClass (.negated .digit), rest)
    | 's' => some (.ofClass .space, rest)
    | 'S' => some (.ofClass (.negated .space), rest)
    | 'w' => some (.ofClass .word, rest)
    | 'W' => some (.ofClass (.negated .word), rest)
    | 'a' => some (.literal '\x07', rest)
    | 'f' => some (.literal '\x0c', rest)
    | 't' => some (.literal '\t', rest)
    | 'n' => some (.literal '\n', rest)
    | 'r' => some (.literal '\r', rest)
    | 'v' => some (.literal '\x0b', rest)
    | 'A' => some (.boundary .textStart, rest)
    | 'z' => some (.boundary .textEnd, rest)
    | 'b' => (takeEdge rest).map fun (kind, rest) => (.boundary kind, rest)
    | 'B' => some (.boundary .notWordEdge, rest)
    | '<' => some (.boundary .wordStart, rest)
    | '>' => some (.boundary .wordEnd, rest)
    | c => if c.toNat < 128 ∧ !c.isAlphanum then some (.literal c, rest) else none

/-- The class of a literal character under the options. -/
def literalClass (o : Options) (c : Char) : CharClass :=
  if o.ignoreCase then .ignoringCase (.single c) else .single c

/-- The classes that may be named between `[:` and `:]`. -/
def asciiClass (name : String) : Option CharClass :=
  let letters := CharClass.union (.range 'a' 'z') (.range 'A' 'Z')
  match name with
  | "alnum" => some (.union letters (.range '0' '9'))
  | "alpha" => some letters
  | "ascii" => some (.range '\x00' '\x7f')
  | "blank" => some (.union (.single ' ') (.single '\t'))
  | "cntrl" => some (.union (.range '\x00' '\x1f') (.single '\x7f'))
  | "digit" => some (.range '0' '9')
  | "graph" => some (.range '!' '~')
  | "lower" => some (.range 'a' 'z')
  | "print" => some (.range ' ' '~')
  | "punct" =>
    some (.unionOf [.range '!' '/', .range ':' '@', .range '[' (Char.ofNat 96), .range '{' '~'])
  | "space" => some (.union (.range '\t' '\r') (.single ' '))
  | "upper" => some (.range 'A' 'Z')
  | "word" => some (.unionOf [letters, .range '0' '9', .single '_'])
  | "xdigit" => some (.unionOf [.range '0' '9', .range 'a' 'f', .range 'A' 'F'])
  | _ => none

/-- Reads a class such as `[:alpha:]`, the bracket being gone; `none` when this is none. -/
def takeAscii (input : List Char) : Option (CharClass × List Char) := do
  match input with
  | ':' :: rest =>
    let (negated, rest) :=
      match rest with
      | '^' :: rest => (true, rest)
      | rest => (false, rest)
    let (name, rest) := rest.span fun c => c != ':'
    match rest with
    | ':' :: ']' :: rest =>
      let cls ← asciiClass (String.ofList name)
      return (if negated then .negated cls else cls, rest)
    | _ => none
  | _ => none

/-- The ways bracketed classes are combined. -/
inductive SetOperator where
  /-- Characters of both. -/
  | both
  /-- Characters of the left one only. -/
  | minus
  /-- Characters of exactly one. -/
  | either
deriving DecidableEq

/-- Applies a set operator. -/
def SetOperator.apply : SetOperator → CharClass → CharClass → CharClass
  | both, left, right => .intersection left right
  | minus, left, right => .difference left right
  | either, left, right => .symmetricDifference left right

/-- Lets letters stand for both cases, when the options ask for it. -/
def withCase (o : Options) (cls : CharClass) : CharClass :=
  if o.ignoreCase then .ignoringCase cls else cls

/-- What was read of a bracketed class: the operand before the last operator, and the union since
then. -/
structure ClassSoFar where
  /-- The operand so far and the operator that waits for its right side. -/
  pending : Option (CharClass × SetOperator)
  /-- The items since the last operator. -/
  items : List CharClass

/-- The class of everything read. -/
def ClassSoFar.close (o : Options) (s : ClassSoFar) : CharClass :=
  let right := withCase o (.unionOf s.items)
  match s.pending with
  | none => right
  | some (left, op) => op.apply left right

/-- A class item: a literal that may begin a range, or a class. -/
def takeClassItem (o : Options) : List Char → Option (Escape × List Char)
  | [] => none
  | '\\' :: rest => takeEscape o rest
  | c :: rest => some (.literal c, rest)

/-- Reads one item or range of a bracketed class. -/
def takeRange (o : Options) (input : List Char) : Option (CharClass × List Char) := do
  let (first, rest) ← takeClassItem o input
  let rest := skip o rest
  let isRange :=
    match rest with
    | '-' :: after =>
      match (skip o after).head? with
      | some c => c != ']' && c != '-'
      | none => true
    | _ => false
  if isRange then
    let (second, rest) ← takeClassItem o (skip o (rest.drop 1))
    match first, second with
    | .literal low, .literal high => if low ≤ high then some (.range low high, rest) else none
    | _, _ => none
  else
    match first with
    | .literal c => some (.single c, rest)
    | .ofClass cls => some (cls, rest)
    | .boundary _ => none

/-- Takes the hyphens that stand for themselves at the start of a bracketed class. -/
def takeHyphens (o : Options) : Nat → List CharClass → List Char → List CharClass × List Char
  | 0, items, input => (items, input)
  | fuel + 1, items, input =>
    match input with
    | '-' :: rest => takeHyphens o fuel (.single '-' :: items) (skip o rest)
    | _ => (items, input)

mutual

/-- Reads a bracketed class, the opening bracket being gone. -/
def takeClass (o : Options) (fuel : Nat) (input : List Char) : Option (CharClass × List Char) :=
  match fuel with
  | 0 => none
  | fuel + 1 => do
    let input := skip o input
    let (negated, input) :=
      match input with
      | '^' :: rest => (true, skip o rest)
      | rest => (false, rest)
    let (items, input) := takeHyphens o (input.length + 1) [] input
    let (items, input) :=
      match items, input with
      | [], ']' :: rest => ([CharClass.single ']'], rest)
      | items, rest => (items, rest)
    let (cls, rest) ← takeClassBody o fuel ⟨none, items⟩ input
    return (if negated then .negated cls else cls, rest)

/-- Reads the items of a bracketed class up to its closing bracket. -/
def takeClassBody (o : Options) (fuel : Nat) (s : ClassSoFar) (input : List Char) :
    Option (CharClass × List Char) :=
  match fuel with
  | 0 => none
  | fuel + 1 =>
    match skip o input with
    | [] => none
    | ']' :: rest => some (s.close o, rest)
    | '[' :: rest =>
      match takeAscii rest with
      | some (cls, rest) => takeClassBody o fuel { s with items := cls :: s.items } rest
      | none =>
        match takeClass o fuel rest with
        | some (cls, rest) => takeClassBody o fuel { s with items := cls :: s.items } rest
        | none => none
    | '&' :: '&' :: rest => takeClassBody o fuel ⟨some (s.close o, .both), []⟩ rest
    | '-' :: '-' :: rest => takeClassBody o fuel ⟨some (s.close o, .minus), []⟩ rest
    | '~' :: '~' :: rest => takeClassBody o fuel ⟨some (s.close o, .either), []⟩ rest
    | input =>
      match takeRange o input with
      | some (cls, rest) => takeClassBody o fuel { s with items := cls :: s.items } rest
      | none => none

end

/-- Takes a decimal number of 32 bits, white space around it being skipped. -/
def takeCount (input : List Char) : Option Nat × List Char :=
  let input := input.dropWhile isWhiteSpace
  let (digits, rest) := input.span Char.isDigit
  let rest := rest.dropWhile isWhiteSpace
  let n := digits.foldl (fun n c => n * 10 + (c.toNat - 48)) 0
  (if digits.isEmpty ∨ 4294967295 < n then none else some n, rest)

/-- Reads the bounds of a counted repetition, the opening brace being gone. -/
def takeBounds (o : Options) (input : List Char) : Option ((Nat × Option Nat) × List Char) := do
  let (least, rest) := takeCount (skip o input)
  match rest with
  | ',' :: rest =>
    match skip o rest with
    | '}' :: rest => return ((← least, none), rest)
    | rest =>
      let low ← least
      let (most, rest) := takeCount rest
      let high ← most
      match rest with
      | '}' :: rest => if low ≤ high then some ((low, some high), rest) else none
      | _ => none
  | '}' :: rest => return ((← least, some (← least)), rest)
  | _ => none

/-- Drops the mark of a lazy repetition; it does not change what is found. -/
def dropLazy : List Char → List Char
  | '?' :: rest => rest
  | rest => rest

/-- Sets or clears an option by its letter. -/
def Options.assign (o : Options) (value : Bool) : Char → Option Options
  | 'i' => some { o with ignoreCase := value }
  | 'm' => some { o with multiLine := value }
  | 's' => some { o with dotAll := value }
  | 'x' => some { o with extended := value }
  | 'U' => some o
  | 'u' => if value then some o else none
  | _ => none

/-- Reads option letters up to a colon or a closing parenthesis, which is left in place. `seen`
holds the letters so far, `value` is false after a minus sign. -/
def takeLetters (o : Options) (seen : List Char) (value : Bool) :
    List Char → Option (Options × List Char)
  | [] => none
  | c :: rest =>
    if c = ':' ∨ c = ')' then
      if seen.head? = some '-' then none else some (o, c :: rest)
    else if c = '-' then
      if value then takeLetters o ('-' :: seen) false rest else none
    else if seen.contains c then none
    else
      match o.assign value c with
      | some o => takeLetters o (c :: seen) value rest
      | none => none

/-- Takes the name of a group up to its closing angle bracket. -/
def takeGroupName (input : List Char) : Option (String × List Char) :=
  let (name, rest) := input.span fun c => c != '>'
  match name, rest with
  | first :: others, '>' :: rest =>
    if (first = '_' ∨ isAlphanumeric first ∧ !first.isDigit)
        ∧ others.all (fun c => c = '_' || c = '.' || c = '[' || c = ']' || isAlphanumeric c) then
      some (String.ofList name, rest)
    else none
  | _, _ => none

/-- What was read of a sequence: everything before its last item, and the last item, if it may be
repeated. -/
structure SequenceSoFar where
  /-- The pattern of everything before the last item. -/
  done : Pattern
  /-- The last item. -/
  last : Option Pattern

/-- The pattern of everything read. -/
def SequenceSoFar.close (s : SequenceSoFar) : Pattern :=
  match s.last with
  | none => s.done
  | some last => .seq s.done last

/-- Adds an item. -/
def SequenceSoFar.push (s : SequenceSoFar) (item : Pattern) : SequenceSoFar :=
  ⟨s.close, some item⟩

/-- The pattern of an escape. -/
def Escape.pattern (o : Options) : Escape → Pattern
  | literal c => .char (literalClass o c)
  | ofClass cls => .char cls
  | boundary kind => .boundary kind

/-- The options in force, and the names given to groups so far. -/
structure Context where
  /-- The options in force. -/
  options : Options
  /-- The names of groups. -/
  groups : List String

mutual

/-- Reads alternatives up to a closing parenthesis or the end, which is left in place. -/
def takeAlternatives (fuel : Nat) (context : Context) (input : List Char) :
    Option (Pattern × Context × List Char) :=
  match fuel with
  | 0 => none
  | fuel + 1 => do
    let (first, context, rest) ← takeSequence fuel context ⟨.empty, none⟩ input
    match rest with
    | '|' :: rest =>
      let (others, context, rest) ← takeAlternatives fuel context rest
      return (.alt first others, context, rest)
    | rest => return (first, context, rest)

/-- Reads the items of a sequence up to a bar, a closing parenthesis or the end, which is left in
place. -/
def takeSequence (fuel : Nat) (context : Context) (s : SequenceSoFar) (input : List Char) :
    Option (Pattern × Context × List Char) :=
  match fuel with
  | 0 => none
  | fuel + 1 =>
    let o := context.options
    match skip o input with
    | [] => some (s.close, context, [])
    | '|' :: rest => some (s.close, context, '|' :: rest)
    | ')' :: rest => some (s.close, context, ')' :: rest)
    | '(' :: rest => do
      let (item, context, rest) ← takeGroup fuel context rest
      match item with
      | some item => takeSequence fuel context (s.push item) rest
      | none => takeSequence fuel context ⟨s.close, none⟩ rest
    | '[' :: rest => do
      let (cls, rest) ← takeClass o fuel rest
      takeSequence fuel context (s.push (.char cls)) rest
    | '*' :: rest => takeRepeated fuel context s 0 none rest
    | '+' :: rest => takeRepeated fuel context s 1 none rest
    | '?' :: rest => takeRepeated fuel context s 0 (some 1) rest
    | '{' :: rest => do
      let ((least, most), rest) ← takeBounds o rest
      takeRepeated fuel context s least most (skip o rest)
    | '.' :: rest =>
      let cls := if o.dotAll then CharClass.any else .negated (.single '\n')
      takeSequence fuel context (s.push (.char cls)) rest
    | '^' :: rest =>
      takeSequence fuel context
        (s.push (.boundary (if o.multiLine then .lineStart else .textStart))) rest
    | '$' :: rest =>
      takeSequence fuel context
        (s.push (.boundary (if o.multiLine then .lineEnd else .textEnd))) rest
    | '\\' :: rest => do
      let (escape, rest) ← takeEscape o rest
      takeSequence fuel context (s.push (escape.pattern o)) rest
    | c :: rest => takeSequence fuel context (s.push (.char (literalClass o c))) rest

/-- Repeats the last item of a sequence and goes on. -/
def takeRepeated (fuel : Nat) (context : Context) (s : SequenceSoFar) (least : Nat)
    (most : Option Nat) (input : List Char) : Option (Pattern × Context × List Char) :=
  match fuel with
  | 0 => none
  | fuel + 1 =>
    match s.last with
    | none => none
    | some last =>
      takeSequence fuel context ⟨s.done, some (.repeated last least most)⟩ (dropLazy input)

/-- Reads what follows an opening parenthesis: a group, or option letters for the rest of the group
around. -/
def takeGroup (fuel : Nat) (context : Context) (input : List Char) :
    Option (Option Pattern × Context × List Char) :=
  match fuel with
  | 0 => none
  | fuel + 1 => do
    match input with
    | '?' :: 'P' :: '<' :: rest =>
      let (name, rest) ← takeGroupName rest
      if context.groups.contains name then none
      else takeGroupBody fuel { context with groups := name :: context.groups } context.options rest
    | '?' :: '<' :: rest =>
      let (name, rest) ← takeGroupName rest
      if context.groups.contains name then none
      else takeGroupBody fuel { context with groups := name :: context.groups } context.options rest
    | '?' :: rest =>
      let (options, after) ← takeLetters context.options [] true rest
      match after with
      | ':' :: inner => takeGroupBody fuel { context with options } context.options inner
      | _ :: outer =>
        if rest.length = after.length then none
        else some (none, { context with options }, outer)
      | [] => none
    | rest => takeGroupBody fuel context context.options rest

/-- Reads a group up to its closing parenthesis; `outer` are the options that hold again after
it. -/
def takeGroupBody (fuel : Nat) (context : Context) (outer : Options) (input : List Char) :
    Option (Option Pattern × Context × List Char) :=
  match fuel with
  | 0 => none
  | fuel + 1 => do
    let (inner, context, rest) ← takeAlternatives fuel context input
    match rest with
    | ')' :: rest => return (some inner, { context with options := outer }, rest)
    | _ => none

end

/-- The greatest weight of a pattern that is accepted. -/
def weightLimit : Nat := 300000

/-- The pattern a text stands for under some options; `none` when it is none. -/
def read (options : Options) (text : String) : Option Pattern :=
  let input := text.toList
  match takeAlternatives (4 * input.length + 8) ⟨options, []⟩ input with
  | some (pattern, _, []) => if pattern.weight ≤ weightLimit then some pattern else none
  | _ => none

end ClassApi.Pattern
