import ClassApi.Calendar
import ClassApi.Json.Reader
import ClassApi.Toml.Basic

/-!
# Reading TOML

A document is read line by line: headers open tables, and every other line that is not blank writes
a value. Every nested value takes one unit of fuel; the length of the text is always enough.
-/

namespace ClassApi.Toml

/-- Drops spaces and tabulators from the front. -/
def skipBlank (input : List Char) : List Char :=
  input.dropWhile fun c => c == ' ' || c == '\t'

/-- Takes a line break. -/
def takeNewline : List Char → Option (List Char)
  | '\n' :: rest => some rest
  | '\r' :: '\n' :: rest => some rest
  | _ => none

/-- Whether a character may stand in a comment or between quotes as it is. -/
def isPlain (c : Char) : Bool :=
  c == '\t' || (32 ≤ c.toNat && c.toNat != 127)

/-- Drops a comment, if one stands at the front. -/
def skipComment : List Char → List Char
  | '#' :: rest => rest.dropWhile isPlain
  | rest => rest

/-- Takes what may end a line: blanks, a comment, and the line break, which the last line need not
have. -/
def takeLineEnd (input : List Char) : Option (List Char) :=
  match skipComment (skipBlank input) with
  | [] => some []
  | rest => takeNewline rest

/-- Drops blanks, line breaks and comments from the front. -/
def skipLines (fuel : Nat) (input : List Char) : List Char :=
  match fuel with
  | 0 => input
  | fuel + 1 =>
    let rest := skipComment (skipBlank input)
    match takeNewline rest with
    | some rest => skipLines fuel rest
    | none => rest

/-- The character with a code given in hexadecimal digits. -/
def charOfHex (digits : List Char) : Option Char := do
  let code ← digits.foldlM (fun n d => (Hex.digitValue? d).map (n * 16 + ·)) 0
  if code.isValidChar then some (Char.ofNat code) else none

/-- Takes the character with a code of as many hexadecimal digits as are asked for. -/
def takeCode (width : Nat) (input : List Char) : Option (Char × List Char) :=
  if input.length < width then none
  else (charOfHex (input.take width)).map fun c => (c, input.drop width)

/-- Takes the character that follows a backslash. -/
def takeEscape : List Char → Option (Char × List Char)
  | 'b' :: rest => some ('\x08', rest)
  | 't' :: rest => some ('\t', rest)
  | 'n' :: rest => some ('\n', rest)
  | 'f' :: rest => some ('\x0c', rest)
  | 'r' :: rest => some ('\r', rest)
  | '"' :: rest => some ('"', rest)
  | '\\' :: rest => some ('\\', rest)
  | 'u' :: rest => takeCode 4 rest
  | 'U' :: rest => takeCode 8 rest
  | _ => none

/-- Takes the rest of a text on one line up to its closing quote; `acc` holds what was read, last
character first. -/
def takeQuoted (fuel : Nat) (acc : List Char) (input : List Char) : Option (String × List Char) :=
  match fuel, input with
  | 0, _ => none
  | _, [] => none
  | _ + 1, '"' :: rest => some (String.ofList acc.reverse, rest)
  | fuel + 1, '\\' :: rest =>
    match takeEscape rest with
    | some (c, rest) => takeQuoted fuel (c :: acc) rest
    | none => none
  | fuel + 1, c :: rest => if isPlain c then takeQuoted fuel (c :: acc) rest else none

/-- Takes the rest of a literal text on one line up to its closing quote. -/
def takeLiteral (input : List Char) : Option (String × List Char) :=
  let (text, rest) := input.span fun c => isPlain c && c != '\''
  match rest with
  | '\'' :: rest => some (String.ofList text, rest)
  | _ => none

/-- The end of a text over several lines, when three quotes stand at the front: up to two more
belong to the text. -/
def takeClosing (quote : Char) (input : List Char) : Option (List Char × List Char) :=
  let count := (input.takeWhile (· == quote)).length
  if count < 3 then none
  else
    let inner := min (count - 3) 2
    some (List.replicate inner quote, input.drop (inner + 3))

/-- Drops white space that follows a backslash at the end of a line; there must be a line break. -/
def takeContinuation (input : List Char) : Option (List Char) :=
  (takeNewline (skipBlank input)).map fun rest =>
    rest.dropWhile fun c => c == ' ' || c == '\t' || c == '\n' || c == '\r'

/-- Takes the rest of a text over several lines up to its three closing quotes. -/
def takeBlock (quote : Char) (escapes : Bool) (fuel : Nat) (acc : List Char) (input : List Char) :
    Option (String × List Char) :=
  match fuel, input with
  | 0, _ => none
  | _, [] => none
  | fuel + 1, c :: rest =>
    match takeClosing quote (c :: rest), takeNewline (c :: rest) with
    | some (inner, rest), _ => some (String.ofList (acc.reverse ++ inner), rest)
    | none, some rest => takeBlock quote escapes fuel ('\n' :: acc) rest
    | none, none =>
      if escapes && c == '\\' then
        match takeContinuation rest, takeEscape rest with
        | some rest, _ => takeBlock quote escapes fuel acc rest
        | none, some (c, rest) => takeBlock quote escapes fuel (c :: acc) rest
        | none, none => none
      else if isPlain c then takeBlock quote escapes fuel (c :: acc) rest
      else none

/-- Drops a line break directly behind the opening quotes. -/
def skipFirstNewline (input : List Char) : List Char :=
  (takeNewline input).getD input

/-- Takes a text in any of its four forms. -/
def takeText (input : List Char) : Option (String × List Char) :=
  match input with
  | '"' :: '"' :: '"' :: rest => takeBlock '"' true (rest.length + 1) [] (skipFirstNewline rest)
  | '\'' :: '\'' :: '\'' :: rest =>
    takeBlock '\'' false (rest.length + 1) [] (skipFirstNewline rest)
  | '"' :: rest => takeQuoted (rest.length + 1) [] rest
  | '\'' :: rest => takeLiteral rest
  | _ => none

/-- Whether a character may stand in a key without quotes. -/
def isBare (c : Char) : Bool :=
  c.isAlphanum || c == '_' || c == '-'

/-- Takes one name of a key. -/
def takeName (input : List Char) : Option (String × List Char) :=
  match input with
  | '"' :: rest => takeQuoted (rest.length + 1) [] rest
  | '\'' :: rest => takeLiteral rest
  | input =>
    match input.span isBare with
    | ([], _) => none
    | (name, rest) => some (String.ofList name, rest)

/-- Takes a key: names with dots between them. -/
def takeKey (fuel : Nat) (input : List Char) : Option (List String × List Char) :=
  match fuel with
  | 0 => none
  | fuel + 1 => do
    let (name, rest) ← takeName (skipBlank input)
    match skipBlank rest with
    | '.' :: rest =>
      let (names, rest) ← takeKey fuel rest
      return (name :: names, rest)
    | rest => return ([name], rest)

/-- Digits of which underscores may stand between two; there is at least one. -/
def digitsOf (isDigit : Char → Bool) (text : List Char) : Option (List Char) :=
  let parts := (String.ofList text).splitOn "_"
  if parts.all fun part => !part.isEmpty && part.toList.all isDigit then
    some (text.filter (· != '_'))
  else none

/-- The digits of a decimal integer, which begin with zero only if it is the only one. -/
def wholeOf (text : List Char) : Option (List Char) :=
  match digitsOf Char.isDigit text with
  | some ('0' :: _ :: _) => none
  | found => found

/-- The value of digits to a base. -/
def valueOf (base : Nat) (digits : List Char) : Option Nat :=
  digits.foldlM (fun n d => (Hex.digitValue? d).bind fun v =>
    if v < base then some (n * base + v) else none) 0

/-- Splits a sign off. -/
def splitSign : List Char → List Char × List Char
  | '+' :: rest => (['+'], rest)
  | '-' :: rest => (['-'], rest)
  | rest => ([], rest)

/-- An integer within sixty-four bits. -/
def limited (n : Int) : Option Toml :=
  if fitsInt64 n then some (.integer n) else none

/-- The integer a word stands for. -/
def readInteger (word : List Char) : Option Toml :=
  let based := fun base digits =>
    ((digitsOf (fun c => (Hex.digitValue? c).isSome) digits).bind (valueOf base)).bind fun n =>
      limited n
  match word with
  | '0' :: 'x' :: digits => based 16 digits
  | '0' :: 'o' :: digits => based 8 digits
  | '0' :: 'b' :: digits => based 2 digits
  | word => do
    let (sign, digits) := splitSign word
    let n ← (wholeOf digits).bind (valueOf 10)
    limited (if sign = ['-'] then -(n : Int) else n)

/-- The digits of an optional part of a float that begins with one of some marks. -/
def readPart (isMark : Char → Bool) (text : List Char) : Option (List Char) :=
  match text with
  | [] => some []
  | c :: rest =>
    if isMark c then
      let (sign, digits) := if c == '.' then ([], rest) else splitSign rest
      (digitsOf Char.isDigit digits).map fun digits => c :: sign ++ digits
    else none

/-- The float a word stands for. -/
def readFloat (word : List Char) : Option Toml := do
  let (sign, rest) := splitSign word
  if rest = "inf".toList ∨ rest = "nan".toList then
    return .float (← FloatText.read (String.ofList word))
  let isExponent := fun (c : Char) => c == 'e' || c == 'E'
  let (whole, rest) := rest.span fun c => c != '.' && !isExponent c
  let (fraction, exponent) := rest.span fun c => !isExponent c
  if rest.isEmpty then none
  let whole ← wholeOf whole
  let fraction ← readPart (· == '.') fraction
  let exponent ← readPart isExponent exponent
  let x ← FloatText.read (String.ofList (sign ++ whole ++ fraction ++ exponent))
  if x.isInf then none else some (.float x)

/-- Takes a number of fixed width that is at most a bound. -/
def takeFixed (width most : Nat) (input : List Char) : Option (Nat × List Char) := do
  let digits := input.take width
  if digits.length < width ∨ digits.any (fun c => !c.isDigit) then none
  let n ← valueOf 10 digits
  if n ≤ most then some (n, input.drop width) else none

/-- Takes a date, and leaves it as text. -/
def takeDate (input : List Char) : Option (List Char × List Char) := do
  let (year, rest) ← takeFixed 4 9999 input
  let rest ← Json.takeWord ['-'] rest
  let (month, rest) ← takeFixed 2 12 rest
  let rest ← Json.takeWord ['-'] rest
  let (day, rest) ← takeFixed 2 31 rest
  if month = 0 ∨ day = 0 ∨ CivilDate.monthLength year month < day then none
  return (input.take 10, rest)

/-- Takes the fraction of a second, if there is one; nine digits count, and zeros at the end do
not. -/
def takeSecondFraction (input : List Char) : Option (List Char × List Char) :=
  match input with
  | '.' :: rest =>
    let (digits, rest) := rest.span Char.isDigit
    let kept := ((digits.take 9).reverse.dropWhile (· == '0')).reverse
    if digits.isEmpty then none else some (if kept.isEmpty then [] else '.' :: kept, rest)
  | rest => some ([], rest)

/-- Takes a time of day, and leaves it as text. -/
def takeTime (input : List Char) : Option (List Char × List Char) := do
  let (_, rest) ← takeFixed 2 23 input
  let rest ← Json.takeWord [':'] rest
  let (_, rest) ← takeFixed 2 59 rest
  let rest ← Json.takeWord [':'] rest
  let (_, rest) ← takeFixed 2 60 rest
  let (fraction, rest) ← takeSecondFraction rest
  return (input.take 8 ++ fraction, rest)

/-- The offset from universal time at the end of a time. -/
def readOffset (input : List Char) : Option (List Char) :=
  match input with
  | [] => some []
  | ['Z'] => some ['Z']
  | ['z'] => some ['Z']
  | sign :: rest => do
    let (hours, rest) ← takeFixed 2 23 rest
    let rest ← Json.takeWord [':'] rest
    let (minutes, rest) ← takeFixed 2 59 rest
    if !rest.isEmpty ∨ (sign ≠ '+' ∧ sign ≠ '-') then none
    else if hours = 0 ∧ minutes = 0 then some "+00:00".toList
    else some input

/-- The date, the time, or both, that a word stands for. -/
def readTime (word : List Char) : Option Toml :=
  match takeDate word with
  | none =>
    match takeTime word with
    | some (clock, []) => some (.time (String.ofList clock))
    | _ => none
  | some (day, []) => some (.time (String.ofList day))
  | some (day, mark :: rest) => do
    if mark ≠ 'T' ∧ mark ≠ 't' ∧ mark ≠ ' ' then none
    let (clock, rest) ← takeTime rest
    let offset ← readOffset rest
    return .time (String.ofList (day ++ 'T' :: clock ++ offset))

/-- Whether a character may stand in a word. -/
def isWordChar (c : Char) : Bool :=
  c.isAlphanum || c == '_' || c == '+' || c == '-' || c == '.' || c == ':'

/-- Takes a word; a date may be parted from its time by a space. -/
def takeWordChars (input : List Char) : List Char × List Char :=
  let (word, rest) := input.span isWordChar
  match takeDate word, rest with
  | some (_, []), ' ' :: d :: more =>
    if d.isDigit then
      let (clock, rest) := (d :: more).span isWordChar
      (word ++ ' ' :: clock, rest)
    else (word, rest)
  | _, _ => (word, rest)

/-- The value a word stands for. -/
def readWord (word : List Char) : Option Toml :=
  if word = "true".toList then some (.bool true)
  else if word = "false".toList then some (.bool false)
  else
    match readInteger word with
    | some v => some v
    | none =>
      match readFloat word with
      | some v => some v
      | none => readTime word

mutual

/-- Takes a value. -/
def takeValue (fuel : Nat) (input : List Char) : Option (Toml × List Char) :=
  match fuel with
  | 0 => none
  | fuel + 1 =>
    match input with
    | '[' :: rest => (takeItems fuel rest).map fun (items, rest) => (.array items, rest)
    | '{' :: rest =>
      match skipBlank rest with
      | '}' :: rest => some (.table [], rest)
      | rest =>
        (takeMembers fuel [] rest).map fun (members, rest) =>
          (.table (Entry.closeMembers members), rest)
    | '"' :: rest => (takeText ('"' :: rest)).map fun (s, rest) => (.string s, rest)
    | '\'' :: rest => (takeText ('\'' :: rest)).map fun (s, rest) => (.string s, rest)
    | rest =>
      let (word, rest) := takeWordChars rest
      (readWord word).map fun v => (v, rest)

/-- Takes list items up to the closing bracket; a comma may follow the last one. -/
def takeItems (fuel : Nat) (input : List Char) : Option (List Toml × List Char) :=
  match fuel with
  | 0 => none
  | fuel + 1 =>
    match skipLines (input.length + 1) input with
    | ']' :: rest => some ([], rest)
    | rest => do
      let (item, rest) ← takeValue fuel rest
      match skipLines (rest.length + 1) rest with
      | ',' :: rest =>
        let (items, rest) ← takeItems fuel rest
        return (item :: items, rest)
      | ']' :: rest => return ([item], rest)
      | _ => none

/-- Takes the members of an inline table up to the closing brace, and adds them to some. -/
def takeMembers (fuel : Nat) (members : Fields Entry)
    (input : List Char) : Option (Fields Entry × List Char) :=
  match fuel with
  | 0 => none
  | fuel + 1 => do
    let (key, rest) ← takeKey (input.length + 1) input
    let rest ← Json.takeWord ['='] rest
    let (value, rest) ← takeValue fuel (skipBlank rest)
    let members ← assign value key members
    match skipBlank rest with
    | ',' :: rest => takeMembers fuel members rest
    | '}' :: rest => return (members, rest)
    | _ => none

end

/-- Takes a header up to its closing brackets, and changes the table that it names. -/
def takeHeader (closing : String) (change : String → Fields Entry → Option (Fields Entry))
    (document : Fields Entry) (input : List Char) :
    Option (List String × Fields Entry × List Char) := do
  let (path, rest) ← takeKey (input.length + 1) input
  let rest ← Json.takeWord closing.toList rest
  let rest ← takeLineEnd rest
  let last ← path.getLast?
  let document ← inside (change last) path.dropLast document
  return (path, document, rest)

/-- Reads the lines of a document, which write into the table that a path leads to until a header
opens another one. -/
def readLines (fuel : Nat) (path : List String) (document : Fields Entry) (input : List Char) :
    Option (Fields Entry) :=
  match fuel with
  | 0 => none
  | fuel + 1 =>
    match skipBlank input with
    | [] => some document
    | '[' :: '[' :: rest => do
      let (path, document, rest) ← takeHeader "]]" append document rest
      readLines fuel path document rest
    | '[' :: rest => do
      let (path, document, rest) ← takeHeader "]" declare document rest
      readLines fuel path document rest
    | rest =>
      match takeLineEnd rest with
      | some rest => readLines fuel path document rest
      | none => do
        let (key, rest) ← takeKey (rest.length + 1) rest
        let rest ← Json.takeWord ['='] rest
        let (value, rest) ← takeValue (rest.length + 1) (skipBlank rest)
        let rest ← takeLineEnd rest
        let document ← inside (assign value key) path document
        readLines fuel path document rest

/-- The members of the document that a text stands for. -/
def read (text : String) : Option (Fields Toml) :=
  let input :=
    match text.toList with
    | '\ufeff' :: rest => rest
    | rest => rest
  (readLines (input.length + 1) [] [] input).map Entry.closeMembers

end ClassApi.Toml
