import ClassApi.Codec.Hex
import ClassApi.Json.Basic
import ClassApi.Number.Reading

/-!
# Reading JSON

A strict reader: nothing but white space may surround the one value, texts hold no raw control
characters and no lone surrogates, nesting is limited to 127 levels, and a repeated member keeps its
first place and takes its last value. Every step takes one unit of fuel; the length of the input is
always enough.
-/

namespace ClassApi.Json

/-- Drops white space from the front. -/
def skipSpace : List Char → List Char
  | [] => []
  | c :: rest =>
    if c = ' ' ∨ c = '\n' ∨ c = '\t' ∨ c = '\r' then skipSpace rest else c :: rest

/-- Takes four hexadecimal digits. -/
def takeHex4 : List Char → Option (Nat × List Char)
  | a :: b :: c :: d :: rest => do
    let n := ((← Hex.digitValue? a) * 16 + (← Hex.digitValue? b)) * 16 + (← Hex.digitValue? c)
    return (n * 16 + (← Hex.digitValue? d), rest)
  | _ => none

/-- Takes the character that an escape of the form `uXXXX` stands for, a surrogate pair counting as
one. -/
def takeUnicode (input : List Char) : Option (Char × List Char) := do
  let (high, rest) ← takeHex4 input
  if 0xD800 ≤ high ∧ high ≤ 0xDBFF then
    match rest with
    | '\\' :: 'u' :: rest =>
      let (low, rest) ← takeHex4 rest
      if 0xDC00 ≤ low ∧ low ≤ 0xDFFF then
        some (Char.ofNat (0x10000 + (high - 0xD800) * 0x400 + (low - 0xDC00)), rest)
      else none
    | _ => none
  else if 0xDC00 ≤ high ∧ high ≤ 0xDFFF then none
  else some (Char.ofNat high, rest)

/-- Takes the character that follows a backslash. -/
def takeEscape : List Char → Option (Char × List Char)
  | '"' :: rest => some ('"', rest)
  | '\\' :: rest => some ('\\', rest)
  | '/' :: rest => some ('/', rest)
  | 'b' :: rest => some ('\x08', rest)
  | 'f' :: rest => some ('\x0c', rest)
  | 'n' :: rest => some ('\n', rest)
  | 'r' :: rest => some ('\r', rest)
  | 't' :: rest => some ('\t', rest)
  | 'u' :: rest => takeUnicode rest
  | _ => none

/-- Takes the rest of a text up to its closing quote; `acc` holds what was read, last character
first. -/
def takeText (fuel : Nat) (acc : List Char) (input : List Char) : Option (String × List Char) :=
  match fuel, input with
  | 0, _ => none
  | _, [] => none
  | _ + 1, '"' :: rest => some (String.ofList acc.reverse, rest)
  | fuel + 1, '\\' :: rest =>
    match takeEscape rest with
    | some (c, rest) => takeText fuel (c :: acc) rest
    | none => none
  | fuel + 1, c :: rest => if c.toNat < 32 then none else takeText fuel (c :: acc) rest

/-- Takes a fixed word. -/
def takeWord : List Char → List Char → Option (List Char)
  | [], input => some input
  | _ :: _, [] => none
  | w :: word, c :: rest => if w = c then takeWord word rest else none

mutual

/-- Takes a value; `depth` is one more than the levels that may still be opened. -/
def takeValue (fuel depth : Nat) (input : List Char) : Option (Json × List Char) :=
  match fuel with
  | 0 => none
  | fuel + 1 =>
    match skipSpace input with
    | 'n' :: rest => (takeWord "ull".toList rest).map fun rest => (null, rest)
    | 't' :: rest => (takeWord "rue".toList rest).map fun rest => (bool true, rest)
    | 'f' :: rest => (takeWord "alse".toList rest).map fun rest => (bool false, rest)
    | '"' :: rest => (takeText (rest.length + 1) [] rest).map fun (s, rest) => (string s, rest)
    | '[' :: rest =>
      if depth ≤ 1 then none
      else
        match skipSpace rest with
        | ']' :: rest => some (array [], rest)
        | rest => (takeItems fuel (depth - 1) rest).map fun (items, rest) => (array items, rest)
    | '{' :: rest =>
      if depth ≤ 1 then none
      else
        match skipSpace rest with
        | '}' :: rest => some (object [], rest)
        | rest =>
          (takeMembers fuel (depth - 1) rest).map fun (members, rest) =>
            (object (Fields.ofEntries members), rest)
    | rest => do
      let (literal, rest) ← NumberLiteral.take rest
      let n ← literal.value
      return (number n, rest)

/-- Takes the items of a list up to its closing bracket. -/
def takeItems (fuel depth : Nat) (input : List Char) : Option (List Json × List Char) :=
  match fuel with
  | 0 => none
  | fuel + 1 => do
    let (item, rest) ← takeValue fuel depth input
    match skipSpace rest with
    | ',' :: rest =>
      let (items, rest) ← takeItems fuel depth rest
      return (item :: items, rest)
    | ']' :: rest => return ([item], rest)
    | _ => none

/-- Takes the members of an object up to its closing brace. -/
def takeMembers (fuel depth : Nat) (input : List Char) :
    Option (List (String × Json) × List Char) :=
  match fuel with
  | 0 => none
  | fuel + 1 => do
    match skipSpace input with
    | '"' :: rest =>
      let (name, rest) ← takeText (rest.length + 1) [] rest
      match skipSpace rest with
      | ':' :: rest =>
        let (value, rest) ← takeValue fuel depth rest
        match skipSpace rest with
        | ',' :: rest =>
          let (members, rest) ← takeMembers fuel depth rest
          return ((name, value) :: members, rest)
        | '}' :: rest => return ([(name, value)], rest)
        | _ => none
      | _ => none
    | _ => none

end

/-- The value a text stands for. -/
def read (text : String) : Option Json :=
  let input := text.toList
  match takeValue (2 * input.length + 2) 128 input with
  | some (value, rest) => if (skipSpace rest).isEmpty then some value else none
  | none => none

end ClassApi.Json
