/-!
# Hexadecimal

Bytes as pairs of hexadecimal digits: written in lower case, read in either case.
-/

namespace ClassApi.Hex

/-- The digit for a value below sixteen. -/
def digit (n : Nat) : Char :=
  if n < 10 then Char.ofNat (48 + n) else Char.ofNat (87 + n)

/-- The value of a digit of either case. -/
def digitValue? (c : Char) : Option Nat :=
  if c.isDigit then some (c.toNat - 48)
  else if 'a' ≤ c && c ≤ 'f' then some (c.toNat - 87)
  else if 'A' ≤ c && c ≤ 'F' then some (c.toNat - 55)
  else none

/-- Two digits for every byte. -/
def encodeChars : List UInt8 → List Char
  | [] => []
  | b :: rest => digit (b.toNat / 16) :: digit (b.toNat % 16) :: encodeChars rest

/-- The text of some bytes, two lower-case digits each. -/
def encode (bytes : List UInt8) : String :=
  String.ofList (encodeChars bytes)

/-- Reads pairs of digits. -/
def decodeChars : List Char → Option (List UInt8)
  | [] => some []
  | [_] => none
  | high :: low :: rest => do
    let h ← digitValue? high
    let l ← digitValue? low
    let bytes ← decodeChars rest
    return UInt8.ofNat (16 * h + l) :: bytes

/-- The bytes a text of digit pairs stands for. -/
def decode (text : String) : Option (List UInt8) :=
  decodeChars text.toList

end ClassApi.Hex
