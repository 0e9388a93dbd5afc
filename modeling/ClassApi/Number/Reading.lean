import ClassApi.Number.Numeral

/-!
# Reading numbers

Number literals are first recognised (`NumberLiteral`) and then valued. A literal without fraction
and exponent that fits in sixty-four bits is an integer. Every other one is a float, computed from
the leading digits that fit in an unsigned sixty-four bit word and a power of ten; the remaining
digits only scale the result.

Stored numbers are also given as text of their own, with a wider grammar; those are rounded
correctly.
-/

namespace ClassApi

/-- A recognised number literal. -/
structure NumberLiteral where
  /-- Whether a minus sign stands in front. -/
  negative : Bool
  /-- The digits before the point, as values. -/
  whole : List Nat
  /-- The digits after the point, when there is one. -/
  fraction : Option (List Nat)
  /-- The exponent: whether it is negative, and its digits. -/
  exponent : Option (Bool × List Nat)
deriving DecidableEq, Repr

/-- Takes the digits at the front, as values. -/
def takeDigits : List Char → List Nat × List Char
  | [] => ([], [])
  | c :: rest =>
    if c.isDigit then
      let (digits, rest') := takeDigits rest
      ((c.toNat - 48) :: digits, rest')
    else ([], c :: rest)

namespace NumberLiteral

/-- Reads the digits before the point: a single zero, or digits that do not begin with zero. -/
def takeWhole (input : List Char) : Option (List Nat × List Char) :=
  match takeDigits input with
  | ([], _) => none
  | (0 :: _ :: _, _) => none
  | found => some found

/-- Reads a point and at least one digit, when a point stands in front. -/
def takeFraction : List Char → Option (Option (List Nat) × List Char)
  | '.' :: rest =>
    match takeDigits rest with
    | ([], _) => none
    | (digits, rest') => some (some digits, rest')
  | input => some (none, input)

/-- Reads an optional sign and at least one digit. -/
def takeSignedDigits (input : List Char) : Option ((Bool × List Nat) × List Char) :=
  let (negative, rest) :=
    match input with
    | '-' :: rest => (true, rest)
    | '+' :: rest => (false, rest)
    | rest => (false, rest)
  match takeDigits rest with
  | ([], _) => none
  | (digits, rest') => some ((negative, digits), rest')

/-- Reads an exponent, when its mark stands in front. -/
def takeExponent : List Char → Option (Option (Bool × List Nat) × List Char)
  | c :: rest =>
    if c = 'e' ∨ c = 'E' then (takeSignedDigits rest).map fun (found, rest') => (some found, rest')
    else some (none, c :: rest)
  | [] => some (none, [])

/-- Recognises a literal at the front of the input. -/
def take (input : List Char) : Option (NumberLiteral × List Char) := do
  let (negative, input) :=
    match input with
    | '-' :: rest => (true, rest)
    | rest => (false, rest)
  let (whole, input) ← takeWhole input
  let (fraction, input) ← takeFraction input
  let (exponent, input) ← takeExponent input
  return (⟨negative, whole, fraction, exponent⟩, input)

/-- The greatest value of a sixty-four bit word. -/
def wordMax : Nat := 18446744073709551615

/-- Appends digits to `word` while the result stays below `limit`; also counts the digits that were
appended. -/
def absorb (limit word : Nat) : List Nat → Nat × Nat
  | [] => (word, 0)
  | d :: rest =>
    if word * 10 + d ≤ limit then
      let (word', count) := absorb limit (word * 10 + d) rest
      (word', count + 1)
    else (word, 0)

/-- Scales a float by a power of ten in steps of at most `10 ^ 308`; `none` when it leaves the
range. -/
def scale : Nat → Float → Int → Option Float
  | 0, x, _ => some x
  | fuel + 1, x, e =>
    if e.natAbs ≤ 308 then
      if 0 ≤ e then
        let y := x * Float.ofScientific 1 false e.toNat
        if y.isInf then none else some y
      else some (x / Float.ofScientific 1 false e.natAbs)
    else if x == 0 then some x
    else if 0 ≤ e then none
    else scale fuel (x / Float.ofScientific 1 false 308) (e + 308)

/-- The exponent written in the literal: its value, or the fact that it is beyond thirty-two
bits. -/
def exponentValue : List Nat → Option Nat
  | digits =>
    let (value, count) := absorb 2147483647 0 digits
    if count = digits.length then some value else none

/-- Limits an exponent to thirty-two bits with a sign. -/
def clampExponent (e : Int) : Int :=
  max (-2147483648) (min 2147483647 e)

/-- The magnitude as a float, from the word `word` with the power of ten `e` already due. -/
def floatMagnitude (word : Nat) (e : Int) (exponent : Option (Bool × List Nat)) : Option Float :=
  match exponent with
  | none => scale 4 (Float.ofNat word) e
  | some (negative, digits) =>
    match exponentValue digits with
    | some n => scale 4 (Float.ofNat word) (clampExponent (if negative then e - n else e + n))
    | none => if word ≠ 0 ∧ !negative then none else some 0

/-- The number a literal stands for; `none` when it is too large for a float. -/
def value (lit : NumberLiteral) : Option Numeral :=
  let (word, taken) := absorb wordMax 0 lit.whole
  let dropped : Int := lit.whole.length - taken
  let sign := fun (x : Float) => Numeral.real (if lit.negative then -x else x)
  match lit.fraction, lit.exponent with
  | none, none =>
    if dropped = 0 then
      if !lit.negative then some (.integer word)
      else if word = 0 ∨ 9223372036854775808 < word then some (sign (Float.ofNat word))
      else some (.integer (-word))
    else (floatMagnitude word dropped none).map sign
  | fraction, exponent =>
    let (word, more) := absorb wordMax word (fraction.getD [])
    (floatMagnitude word (dropped - more) exponent).map sign

end NumberLiteral

namespace FloatText

/-- The value of some digits. -/
def digitsValue (digits : List Nat) : Nat :=
  digits.foldl (fun n d => n * 10 + d) 0

/-- The correctly rounded float `digits * 10 ^ e`; beyond the range of floats it is infinite or
zero. -/
def rounded (digits : Nat) (e : Int) : Float :=
  let length := (Nat.toDigits 10 digits).length
  if digits = 0 then 0
  else if 400 < e + length then Float.ofBits 0x7FF0000000000000
  else if e + length < -400 then 0
  else Float.ofScientific digits (e < 0) e.natAbs

/-- The magnitude of a decimal text: digits with at most one point among or beside them, and an
exponent. -/
def readMagnitude (input : List Char) : Option Float := do
  let (whole, input) := takeDigits input
  let (fraction, input) :=
    match input with
    | '.' :: rest => takeDigits rest
    | rest => ([], rest)
  if whole.isEmpty ∧ fraction.isEmpty then none
  let (exponent, input) ← NumberLiteral.takeExponent input
  if !input.isEmpty then none
  let power : Int :=
    match exponent with
    | none => 0
    | some (negative, digits) => if negative then -(digitsValue digits) else digitsValue digits
  return rounded (digitsValue (whole ++ fraction)) (power - fraction.length)

/-- Names of the special values, without regard to case. -/
def readSpecial (input : List Char) : Option Float :=
  match (String.ofList input).toLower with
  | "inf" | "infinity" => some (Float.ofBits 0x7FF0000000000000)
  | "nan" => some (Float.ofBits 0x7FF8000000000000)
  | _ => none

/-- The float a text stands for: an optional sign and a special name or a decimal. -/
def read (text : String) : Option Float :=
  let (negative, rest) :=
    match text.toList with
    | '-' :: rest => (true, rest)
    | '+' :: rest => (false, rest)
    | rest => (false, rest)
  match readSpecial rest with
  | some x => some (if negative then -x else x)
  | none => (readMagnitude rest).map fun x => if negative then -x else x

end FloatText

end ClassApi
