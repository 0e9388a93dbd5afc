/-!
# Sets of characters

A set of code points is kept as its *inversion list*: the ascending list of the code points at which
membership changes. A code point belongs to the set exactly when an odd number of boundaries lie at
or below it, which is one walk over the list and one easy induction.
-/

namespace ClassApi

/-- A set of code points, given by the ascending list of the points at which membership changes. -/
structure CharSet where
  /-- The boundaries: members begin at the first one, end before the second, and so on. -/
  bounds : List Nat

namespace CharSet

/-- Walks the boundaries up to `n`; `inside` says whether the points before the next boundary
belong. -/
def walk (inside : Bool) : List Nat → Nat → Bool
  | [], _ => inside
  | b :: bs, n => if n < b then inside else walk (!inside) bs n

/-- Whether the set holds the character `c`. -/
def contains (s : CharSet) (c : Char) : Bool :=
  walk false s.bounds c.toNat

end CharSet

end ClassApi
