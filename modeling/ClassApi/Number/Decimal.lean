import ClassApi.Codec.Bytes
import ClassApi.Ident

/-!
# Decimals of 128 bits

A decimal is kept in sixteen bytes. They hold a sign and either an integer of at most 34 digits with
an exponent of ten, or one of two marks: for infinity, and for what is no number. Of two decimals
with the same value the bytes may differ, so the text of a decimal shows its digits and its exponent
as they are kept.
-/

namespace ClassApi

/-- A decimal of 128 bits, as it is stored. -/
structure Decimal128 where
  /-- The bytes, the least significant first. -/
  bytes : List UInt8
  /-- There are sixteen of them. -/
  length_eq : bytes.length = 16
deriving DecidableEq

namespace Decimal128

/-- What a decimal stands for, its sign aside. -/
inductive Magnitude where
  /-- No number, and whether that is to be signalled. -/
  | nan (signalling : Bool)
  /-- More than every number. -/
  | infinity
  /-- A coefficient times a power of ten. -/
  | finite (coefficient : Nat) (exponent : Int)
deriving DecidableEq, Repr

/-- The greatest number of digits in a coefficient. -/
def maxDigits : Nat := 34

/-- The least exponent. -/
def leastExponent : Int := -6176

/-- The greatest exponent. -/
def greatestExponent : Int := 6111

/-- The decimal with the given bytes, when there are sixteen. -/
def ofBytes? (bytes : List UInt8) : Option Decimal128 :=
  if h : bytes.length = 16 then some ⟨bytes, h⟩ else none

/-- The natural that the bytes make up. -/
def word (d : Decimal128) : Nat :=
  d.bytes.foldr (fun b n => n * 256 + b.toNat) 0

/-- The decimal whose bytes make up a natural. -/
def ofWord (n : Nat) : Decimal128 :=
  ⟨(bigEndianBytes 16 n).reverse, by rw [List.length_reverse, bigEndianBytes_length]⟩

/-- Whether a decimal is below zero, or a zero or no number with that sign. -/
def negative (d : Decimal128) : Bool :=
  d.word.testBit 127

/-- The exponent in the fourteen bits of a natural from one on. -/
def exponentAt (n bit : Nat) : Int :=
  ((n >>> bit) % 16384 : Nat) + leastExponent

/-- The magnitude of a decimal. The five bits behind the sign tell the marks from numbers.
Coefficients beyond 34 digits, which a longer form leaves room for, count as zero. -/
def magnitude (d : Decimal128) : Magnitude :=
  let n := d.word
  let tag := (n >>> 122) % 32
  if tag = 31 then .nan (n.testBit 121)
  else if tag = 30 then .infinity
  else if 24 ≤ tag then .finite 0 (exponentAt n 111)
  else
    let coefficient := n % (1 <<< 113)
    .finite (if coefficient < Nat.pow 10 maxDigits then coefficient else 0) (exponentAt n 113)

/-- The bits of a magnitude. -/
def Magnitude.word : Magnitude → Nat
  | nan signalling => (31 <<< 122) + if signalling then 1 <<< 121 else 0
  | infinity => 30 <<< 122
  | finite coefficient exponent => ((exponent - leastExponent).toNat <<< 113) + coefficient

/-- The decimal with a sign and a magnitude. -/
def ofMagnitude (negative : Bool) (m : Magnitude) : Decimal128 :=
  ofWord ((if negative then 1 <<< 127 else 0) + m.word)

/-! ## Reading -/

/-- What stands before the first character of a kind, and what stands behind it, when there is
one. -/
def splitFirst (mark : Char) (cs : List Char) : List Char × Option (List Char) :=
  match cs.span (· ≠ mark) with
  | (front, []) => (front, none)
  | (front, _ :: back) => (front, some back)

/-- Digits without zeros in front; of zeros alone, one is left. -/
def withoutLeadingZeros (digits : List Char) : List Char :=
  match digits.dropWhile (· = '0') with
  | [] => digits.take 1
  | rest => rest

/-- The first digits of some; the others have to be zeros. -/
def roundTo (count : Nat) (digits : List Char) : Option (List Char) :=
  if (digits.drop count).all (· = '0') then some (digits.take count) else none

/-- Brings the number of digits within its bound by taking zeros from the end. -/
def limitDigits (digits : List Char) (exponent : Int) : Option (List Char × Int) :=
  if maxDigits < digits.length then
    (roundTo maxDigits digits).map (·, exponent + (digits.length - maxDigits : Nat))
  else some (digits, exponent)

/-- Brings an exponent that is too small within its bound by taking zeros from the end. Zero may
have any exponent. -/
def raiseExponent (digits : List Char) (exponent : Int) : Option (List Char × Int) :=
  if exponent < leastExponent then
    if digits = ['0'] then some (digits, leastExponent)
    else
      let delta := (leastExponent - exponent).toNat
      if digits.length < delta then none
      else (roundTo (digits.length - delta) digits).map (·, leastExponent)
  else some (digits, exponent)

/-- Brings an exponent that is too great within its bound by adding zeros at the end. Zero may have
any exponent. -/
def lowerExponent (digits : List Char) (exponent : Int) : Option (List Char × Int) :=
  if greatestExponent < exponent then
    if digits = ['0'] then some (digits, greatestExponent)
    else
      let delta := (exponent - greatestExponent).toNat
      if maxDigits < digits.length + delta then none
      else some (digits ++ List.replicate delta '0', greatestExponent)
  else some (digits, exponent)

/-- The magnitude of a number: digits, which may hold a point, and an exponent of 16 bits, from
which the digits behind the point are taken. -/
def readFinite (text : List Char) : Option Magnitude := do
  let (decimal, power) := splitFirst 'e' text
  let exponent ← Cursor.readInt (-32768) 32767 (power.getD ['0'])
  let (whole, fraction) := splitFirst '.' decimal
  let places := (fraction.getD []).length
  if 32767 < places ∨ exponent - places < -32768 then none
  let (digits, exponent) ← limitDigits (withoutLeadingZeros (whole ++ fraction.getD []))
    (exponent - places)
  let (digits, exponent) ← raiseExponent digits exponent
  let (digits, exponent) ← lowerExponent digits exponent
  let coefficient ←
    match digits with
    | '+' :: rest => Cursor.readNat rest
    | digits => Cursor.readNat digits
  return .finite coefficient exponent

/-- The magnitude of a text without a sign, given in small letters. -/
def readMagnitude (text : List Char) : Option Magnitude :=
  match String.ofList text with
  | "nan" => some (.nan false)
  | "snan" => some (.nan true)
  | "infinity" | "inf" => some .infinity
  | _ => readFinite text

/-- The decimal a text stands for: an optional sign and a magnitude, without regard to case. Digits
are never lost. -/
def ofText? (text : String) : Option Decimal128 :=
  let (negative, rest) :=
    match text.toList with
    | '-' :: rest => (true, rest)
    | '+' :: rest => (false, rest)
    | rest => (false, rest)
  (readMagnitude (rest.map Char.toLower)).map (ofMagnitude negative)

/-! ## Writing -/

/-- The text of a number: plain when it has no zeros behind its digits and few in front of them,
else with an exponent. -/
def finiteText (coefficient : Nat) (exponent : Int) : List Char :=
  let digits := Nat.toDigits 10 coefficient
  let adjusted : Int := exponent + digits.length - 1
  if exponent ≤ 0 ∧ -6 ≤ adjusted then
    let places := exponent.natAbs
    if places = 0 then digits
    else if digits.length ≤ places then
      '0' :: '.' :: List.replicate (places - digits.length) '0' ++ digits
    else digits.take (digits.length - places) ++ '.' :: digits.drop (digits.length - places)
  else
    let fraction := digits.drop 1
    digits.take 1 ++ (if fraction.isEmpty then [] else '.' :: fraction) ++
      'E' :: (if 0 < adjusted then ['+'] else []) ++ (toString adjusted).toList

/-- The text of a decimal. What is no number has no sign. -/
def text (d : Decimal128) : String :=
  let sign := if d.negative then ['-'] else []
  match d.magnitude with
  | .nan _ => "NaN"
  | .infinity => String.ofList (sign ++ "Infinity".toList)
  | .finite coefficient exponent => String.ofList (sign ++ finiteText coefficient exponent)

end Decimal128

end ClassApi
