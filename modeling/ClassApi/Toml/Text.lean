import ClassApi.Codec.Hex

/-!
# Texts in TOML

A text is written between double quotes with escapes, or, if it holds quotes or backslashes and
nothing that cannot stand there as it is, between single quotes. Texts with line breaks are written
over several lines, between three quotes.
-/

namespace ClassApi.Toml

/-- The characters that stand for one character of an escaped text; line breaks of a text over
several lines stand for themselves. -/
def escapeChar (lines : Bool) (c : Char) : List Char :=
  match c with
  | '\x08' => ['\\', 'b']
  | '\t' => ['\\', 't']
  | '\n' => if lines then ['\n'] else ['\\', 'n']
  | '\x0c' => ['\\', 'f']
  | '\r' => ['\\', 'r']
  | '"' => ['\\', '"']
  | '\\' => ['\\', '\\']
  | c =>
    if c.toNat < 32 || c.toNat == 127 then
      ['\\', 'u', '0', '0', (Hex.digit (c.toNat / 16)).toUpper, (Hex.digit (c.toNat % 16)).toUpper]
    else [c]

/-- Whether a character needs an escape wherever it stands. -/
def needsEscape (c : Char) : Bool :=
  (c.toNat < 32 && c != '\t' && c != '\n') || c.toNat == 127

/-- The greatest number of single quotes in a row, given the number of those just passed. -/
def longestQuoteRun (run : Nat) : List Char → Nat
  | [] => run
  | c :: rest =>
    if c = '\'' then longestQuoteRun (run + 1) rest
    else max run (longestQuoteRun 0 rest)

/-- Whether a text is written without escapes. -/
def isLiteral (text : List Char) : Bool :=
  text.any (fun c => c == '"' || c == '\\') && !text.any needsEscape
    && longestQuoteRun 0 text < 3 && text.getLast? != some '\''

/-- A text in the quotes that suit it. -/
def quote (text : String) : String :=
  let chars := text.toList
  let lines := chars.contains '\n'
  if isLiteral chars then
    if lines then "'''\n" ++ text ++ "'''"
    else if chars.contains '\'' then "'''" ++ text ++ "'''"
    else "'" ++ text ++ "'"
  else
    let escaped := String.ofList (chars.flatMap (escapeChar lines))
    if lines then "\"\"\"\n" ++ escaped ++ "\"\"\"" else "\"" ++ escaped ++ "\""

end ClassApi.Toml
