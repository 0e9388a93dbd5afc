import ClassApi.Text.CaseTables
import ClassApi.Text.CharSet
import ClassApi.Text.UnicodeSets

/-!
# Letters and case

Case mappings of characters and texts, and the character properties the library asks for.
Lowercasing a text depends on context in one place only: a capital sigma becomes the final form
exactly when a cased letter stands before it and none stands after it, case-ignorable characters
skipped on both sides.
-/

namespace ClassApi

/-- The full uppercase mapping of one character. -/
def upperChar (c : Char) : List Char :=
  match CaseTable.upperSpecial.lookup c.toNat with
  | some points => points.map Char.ofNat
  | none => [Char.ofNat (shiftBy CaseTable.upper c.toNat)]

/-- The full lowercase mapping of one character, out of context. -/
def lowerChar (c : Char) : List Char :=
  match CaseTable.lowerSpecial.lookup c.toNat with
  | some points => points.map Char.ofNat
  | none => [Char.ofNat (shiftBy CaseTable.lower c.toNat)]

/-- Whether the first character that is not case-ignorable is cased. -/
def meetsCased : List Char → Bool
  | [] => false
  | c :: rest =>
    if CharSet.caseIgnorable.contains c then meetsCased rest
    else CharSet.cased.contains c

/-- Lowercases what follows `before`, which is the text read so far, last character first. -/
def lowerFrom (before : List Char) : List Char → List Char
  | [] => []
  | c :: rest =>
    let image :=
      if c = 'Σ' then (if meetsCased before && !meetsCased rest then ['ς'] else ['σ'])
      else lowerChar c
    image ++ lowerFrom (c :: before) rest

/-- The lowercase form of a text. -/
def lowerText (text : String) : String :=
  String.ofList (lowerFrom [] text.toList)

/-- Whether a character is a letter or a number in any script. -/
def isAlphanumeric (c : Char) : Bool :=
  CharSet.alphabetic.contains c || CharSet.numeric.contains c

/-- Whether a character is white space. -/
def isWhiteSpace (c : Char) : Bool :=
  CharSet.whiteSpace.contains c

/-- The representative of a character under simple case folding. -/
def foldChar (c : Char) : Char :=
  Char.ofNat (shiftBy CaseTable.fold c.toNat)

/-- The members of one run that fold to `n`: at most one, since a run shifts all its members
alike. -/
def CaseRange.preimage (r : CaseRange) (n : Nat) : Option Nat :=
  let m := ((n : Int) - r.shift).toNat
  if r.covers m && ((m : Int) + r.shift).toNat == n then some m else none

/-- All characters that differ from `c` only in case. -/
def caseOrbit (c : Char) : List Char :=
  let folded := shiftBy CaseTable.fold c.toNat
  (folded :: CaseTable.fold.filterMap (·.preimage folded)).map Char.ofNat

end ClassApi
