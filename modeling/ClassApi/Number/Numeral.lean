import ClassApi.Number.Shortest

/-!
# Numerals

The numbers of JSON and of GraphQL: integers that fit in sixty-four bits, signed or not, and floats
otherwise. This module also says how floats are written: positionally or, in JSON, with an exponent
when the point would stand far from the digits.
-/

namespace ClassApi

/-- A number as JSON and GraphQL carry it. -/
inductive Numeral where
  /-- An integer from `-2 ^ 63` to `2 ^ 64 - 1`. -/
  | integer (value : Int)
  /-- A finite float. -/
  | real (value : Float)

/-- Whether an integer fits in sixty-four bits with a sign. -/
def fitsInt64 (n : Int) : Bool :=
  -9223372036854775808 ≤ n && n ≤ 9223372036854775807

namespace Numeral

/-- The integer, when it fits in sixty-four bits with a sign. -/
def toInt? : Numeral → Option Int
  | integer n => if fitsInt64 n then some n else none
  | real _ => none

/-- The closest float. -/
def toFloat : Numeral → Float
  | integer n => Float.ofInt n
  | real x => x

/-- The number a float stands for, when it is finite. -/
def ofFloat (x : Float) : Option Numeral :=
  if x.isFinite then some (real x) else none

/-- Integers are compared with integers and floats with floats; neither ever equals the other. -/
def beq : Numeral → Numeral → Bool
  | integer m, integer n => m == n
  | real x, real y => x == y
  | _, _ => false

instance : BEq Numeral := ⟨beq⟩

end Numeral

namespace FloatText

/-- Whether the sign bit of a float is set. -/
def isNegative (x : Float) : Bool :=
  x.toBits.toNat / Nat.pow 2 63 == 1

/-- Digits followed by `zeros` zeros and a decimal point with one zero after it. -/
def whole (digits : List Char) (zeros : Nat) : List Char :=
  digits ++ List.replicate zeros '0' ++ ['.', '0']

/-- Digits with the point after the first `place` of them, or in front with zeros when `place` is
not positive. -/
def pointed (digits : List Char) (place : Int) : List Char :=
  if 0 < place then digits.take place.toNat ++ '.' :: digits.drop place.toNat
  else '0' :: '.' :: List.replicate (-place).toNat '0' ++ digits

/-- One digit, the others behind the point, and an exponent with its sign. -/
def scientific (digits : List Char) (exponent : Int) : List Char :=
  digits.take 1 ++ (if digits.length ≤ 1 then [] else '.' :: digits.drop 1)
    ++ 'e' :: (if exponent < 0 then '-' else '+') :: Nat.toDigits 10 exponent.natAbs

/-- The text of the magnitude of a finite float; `tie` and `layout` are what formats decide. -/
def magnitude (tie : TieRule) (layout : List Char → Int → List Char) (x : Float) : List Char :=
  if x.toBits.toNat % Nat.pow 2 63 = 0 then ['0', '.', '0']
  else
    let (digits, e) := ((Dyadic.ofBits x.toBits).shortest tie).significant
    layout digits e

/-- The layout of JSON: positional while the point is near the digits. -/
def jsonLayout (digits : List Char) (e : Int) : List Char :=
  let place := (digits.length : Int) + e
  if 0 ≤ e ∧ place ≤ 16 then whole digits e.toNat
  else if -5 < place ∧ place ≤ 16 then pointed digits place
  else scientific digits (place - 1)

/-- The layout of stored values: positional always. -/
def plainLayout (digits : List Char) (e : Int) : List Char :=
  if 0 ≤ e then whole digits e.toNat else pointed digits (digits.length + e)

/-- A float with its sign. -/
def signed (x : Float) (text : List Char) : String :=
  String.ofList (if isNegative x then '-' :: text else text)

/-- A finite float as JSON writes it. -/
def json (x : Float) : String :=
  signed x (magnitude .even jsonLayout x)

/-- Any float as stored values write it. -/
def plain (x : Float) : String :=
  if x.isNaN then "NaN"
  else if x.isInf then (if isNegative x then "-Infinity" else "Infinity")
  else signed x (magnitude .up plainLayout x)

/-- Digits followed by zeros, or with the point where it belongs. -/
def briefLayout (digits : List Char) (e : Int) : List Char :=
  if 0 ≤ e then digits ++ List.replicate e.toNat '0' else pointed digits (digits.length + e)

/-- Any float as settings write it: positional, and a whole number without a point. -/
def brief (x : Float) : String :=
  if x.isNaN then "NaN"
  else if x.isInf then (if isNegative x then "-inf" else "inf")
  else if x == 0 then signed x ['0']
  else signed x (magnitude .up briefLayout x)

end FloatText

/-- The text of a number in JSON and in GraphQL literals. -/
def Numeral.text : Numeral → String
  | .integer n => toString n
  | .real x => FloatText.json x

end ClassApi
