/-!
# Shortest decimals

A finite binary number stands for every real that rounds to it: an interval around it whose ends
belong exactly when its significand is even. The shortest decimal of the number is the one with the
fewest digits in that interval, and among those the closest. All comparisons are made exactly,
between naturals.
-/

namespace ClassApi

/-- A positive binary number, `significand * 2 ^ exponent`. -/
structure Dyadic where
  /-- The significand. -/
  significand : Nat
  /-- The power of two. -/
  exponent : Int
  /-- Whether the neighbour below is only half as far away as the neighbour above. -/
  narrowBelow : Bool

/-- A decimal, `digits * 10 ^ exponent`. -/
structure Decimal where
  /-- The digits, read as one natural. -/
  digits : Nat
  /-- The power of ten. -/
  exponent : Int
deriving DecidableEq, Repr

/-- Which of two equally close decimals is taken. -/
inductive TieRule where
  /-- The one whose last digit is even. -/
  | even
  /-- The larger one. -/
  | up
deriving DecidableEq, Repr

namespace Dyadic

/-- The magnitude of the finite float with the given bits. -/
def ofBits (bits : UInt64) : Dyadic :=
  let biased : Nat := (bits.toNat / Nat.pow 2 52) % Nat.pow 2 11
  let fraction : Nat := bits.toNat % Nat.pow 2 52
  if biased = 0 then ⟨fraction, -1074, false⟩
  else ⟨Nat.pow 2 52 + fraction, (biased : Int) - 1075, fraction == 0 && biased != 1⟩

/-- Compares `digits * 10 ^ e` with `quarters / 4` of a unit of the significand of `x`. -/
def compareScaled (x : Dyadic) (digits : Nat) (e : Int) (quarters : Nat) : Ordering :=
  let two := x.exponent - 2
  compare (digits * Nat.pow 10 e.toNat * Nat.pow 2 (-two).toNat)
    (quarters * Nat.pow 2 two.toNat * Nat.pow 10 (-e).toNat)

/-- Whether a decimal lies in the interval of reals that round to `x`. -/
def readsBack (x : Dyadic) (d : Decimal) : Bool :=
  let lower :=
    x.compareScaled d.digits d.exponent (4 * x.significand - if x.narrowBelow then 1 else 2)
  let upper := x.compareScaled d.digits d.exponent (4 * x.significand + 2)
  if x.significand % 2 = 0 then lower != .lt && upper != .gt else lower == .gt && upper == .lt

/-- The exponent of the leading decimal digit of `x`, from the binary logarithm and one exact
correction. -/
def magnitude (x : Dyadic) : Int :=
  let estimate := ((Nat.log2 x.significand : Int) + x.exponent) * 30103 / 100000
  if x.compareScaled 1 (estimate + 1) (4 * x.significand) != .gt then estimate + 1
  else if x.compareScaled 1 estimate (4 * x.significand) == .gt then estimate - 1
  else estimate

/-- The greatest multiple of `10 ^ e` that is at most `x`, as a multiple. -/
def floorAt (x : Dyadic) (e : Int) : Nat :=
  (x.significand * Nat.pow 2 x.exponent.toNat * Nat.pow 10 (-e).toNat) /
    (Nat.pow 10 e.toNat * Nat.pow 2 (-x.exponent).toNat)

/-- The decimal on the grid `10 ^ e` that reads back and is closest to `x`, if there is one. -/
def onGrid (tie : TieRule) (x : Dyadic) (e : Int) : Option Decimal :=
  let below : Decimal := ⟨x.floorAt e, e⟩
  let above : Decimal := ⟨x.floorAt e + 1, e⟩
  match x.readsBack below, x.readsBack above with
  | true, false => some below
  | false, true => some above
  | false, false => none
  | true, true =>
    match x.compareScaled (2 * below.digits + 1) e (8 * x.significand) with
    | .gt => some below
    | .lt => some above
    | .eq => if tie = .even ∧ below.digits % 2 = 0 then some below else some above

/-- Tries grids of `tries` more and more digits, the first one being `10 ^ e`. -/
def search (tie : TieRule) (x : Dyadic) : Nat → Int → Decimal
  | 0, e => ⟨x.floorAt e, e⟩
  | tries + 1, e =>
    match onGrid tie x e with
    | some d => d
    | none => search tie x tries (e - 1)

/-- The shortest decimal that reads back as `x`. -/
def shortest (tie : TieRule) (x : Dyadic) : Decimal :=
  search tie x 17 x.magnitude

end Dyadic

namespace Decimal

/-- Drops zeros from the end of the digits, given as characters, last digit first. -/
def stripZeros : List Char → Int → List Char × Int
  | '0' :: rest, e => stripZeros rest (e + 1)
  | digits, e => (digits, e)

/-- The digits without the zeros at their end, and the exponent that goes with them. -/
def significant (d : Decimal) : List Char × Int :=
  let (reversed, e) := stripZeros (Nat.toDigits 10 d.digits).reverse d.exponent
  (reversed.reverse, e)

end Decimal

end ClassApi
