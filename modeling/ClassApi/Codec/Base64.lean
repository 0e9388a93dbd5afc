/-!
# Base64

The standard alphabet with padding. Reading is strict: the length is a multiple of four, padding
stands only at the end, and the bits that padding leaves over are zero. So a text is readable in
exactly one way and every byte sequence is written in exactly one way.
-/

namespace ClassApi.Base64

/-- The digit for a value below sixty-four. -/
def digit (n : Nat) : Char :=
  if n < 26 then Char.ofNat (65 + n)
  else if n < 52 then Char.ofNat (71 + n)
  else if n < 62 then Char.ofNat (n - 4)
  else if n = 62 then '+'
  else '/'

/-- The value of a digit. -/
def digitValue? (c : Char) : Option Nat :=
  if c.isUpper then some (c.toNat - 65)
  else if c.isLower then some (c.toNat - 71)
  else if c.isDigit then some (c.toNat + 4)
  else if c = '+' then some 62
  else if c = '/' then some 63
  else none

/-- Four digits for every three bytes; the last one or two bytes are padded. -/
def encodeChars : List UInt8 → List Char
  | [] => []
  | [a] =>
    let n := a.toNat * 16
    [digit (n / 64), digit (n % 64), '=', '=']
  | [a, b] =>
    let n := (a.toNat * 256 + b.toNat) * 4
    [digit (n / 4096), digit (n / 64 % 64), digit (n % 64), '=']
  | a :: b :: c :: rest =>
    let n := (a.toNat * 256 + b.toNat) * 256 + c.toNat
    digit (n / 262144) :: digit (n / 4096 % 64) :: digit (n / 64 % 64) :: digit (n % 64)
      :: encodeChars rest

/-- The padded text of some bytes. -/
def encodeBytes (bytes : List UInt8) : String :=
  String.ofList (encodeChars bytes)

/-- Reads groups of four digits. -/
def decodeChars : List Char → Option (List UInt8)
  | [] => some []
  | [p, q, '=', '='] => do
    let n := 64 * (← digitValue? p) + (← digitValue? q)
    if n % 16 = 0 then some [UInt8.ofNat (n / 16)] else none
  | [p, q, r, '='] => do
    let n := (64 * (← digitValue? p) + (← digitValue? q)) * 64 + (← digitValue? r)
    if n % 4 = 0 then some [UInt8.ofNat (n / 1024), UInt8.ofNat (n / 4 % 256)] else none
  | p :: q :: r :: s :: rest => do
    let n := ((64 * (← digitValue? p) + (← digitValue? q)) * 64 + (← digitValue? r)) * 64
      + (← digitValue? s)
    let bytes ← decodeChars rest
    return UInt8.ofNat (n / 65536) :: UInt8.ofNat (n / 256 % 256) :: UInt8.ofNat (n % 256) :: bytes
  | _ => none

/-- The bytes a padded text stands for. -/
def decodeBytes (text : String) : Option (List UInt8) :=
  decodeChars text.toList

/-- The padded text of the UTF-8 bytes of a text. -/
def encode (text : String) : String :=
  encodeBytes text.toUTF8.toList

/-- The text whose UTF-8 bytes a padded text stands for. -/
def decode (text : String) : Option String := do
  let bytes ← decodeBytes text
  String.fromUTF8? ⟨bytes.toArray⟩

end ClassApi.Base64
