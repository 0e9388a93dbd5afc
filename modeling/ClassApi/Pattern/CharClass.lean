import ClassApi.Text.Letter

/-!
# Character classes of patterns

The single characters a pattern may ask for: literal characters and ranges, named sets, and the set
operations that brackets are made of. A class is a syntax tree with a membership test, so its laws
are those of the Booleans.
-/

namespace ClassApi

/-- A class of characters. -/
inductive CharClass where
  /-- Every character. -/
  | any
  /-- No character. -/
  | none
  /-- The characters from `low` to `high`. -/
  | range (low high : Char)
  /-- The members of a set of the character database. -/
  | members (set : CharSet)
  /-- The characters outside a class. -/
  | negated (inner : CharClass)
  /-- The characters of either class. -/
  | union (left right : CharClass)
  /-- The characters of both classes. -/
  | intersection (left right : CharClass)
  /-- The characters that differ only in case from one of the class. -/
  | ignoringCase (inner : CharClass)

namespace CharClass

/-- Whether a character belongs to the class. -/
def holds : CharClass → Char → Bool
  | any, _ => true
  | none, _ => false
  | range low high, c => low ≤ c && c ≤ high
  | members set, c => set.contains c
  | negated inner, c => !inner.holds c
  | union left right, c => left.holds c || right.holds c
  | intersection left right, c => left.holds c && right.holds c
  | ignoringCase inner, c => (caseOrbit c).any fun d => inner.holds d

/-- The class of one character. -/
def single (c : Char) : CharClass :=
  range c c

/-- The union of some classes. -/
def unionOf : List CharClass → CharClass
  | [] => none
  | [cls] => cls
  | cls :: rest => union cls (unionOf rest)

/-- The characters of `left` that are not of `right`. -/
def difference (left right : CharClass) : CharClass :=
  intersection left (negated right)

/-- The characters of exactly one of the classes. -/
def symmetricDifference (left right : CharClass) : CharClass :=
  union (difference left right) (difference right left)

/-- Decimal digits. -/
def digit : CharClass :=
  members .decimalDigit

/-- White space. -/
def space : CharClass :=
  members .whiteSpace

/-- Word characters: letters, marks, digits, connectors and joiners. -/
def word : CharClass :=
  unionOf [members .alphabetic, members .mark, digit, members .connector, range '\u200c' '\u200d']

/-- A measure of the automaton a class needs, by which oversized patterns are refused. -/
def weight : CharClass → Nat
  | any => 4
  | none => 1
  | range low high => if low = high then (String.singleton low).utf8ByteSize else 4
  | members set => set.bounds.length / 3 + 1
  | negated inner => inner.weight + 4
  | union left right => left.weight + right.weight
  | intersection left right => left.weight + right.weight
  | ignoringCase inner => inner.weight + 1

end CharClass

end ClassApi
