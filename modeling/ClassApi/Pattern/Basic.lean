import ClassApi.Pattern.CharClass

/-!
# Patterns and their meaning

A pattern is a regular expression without captures: what stored texts are searched with only ever
asks whether some part of a text matches. Its meaning is given by the places it leads to: from a set
of places in the text, `Pattern.ends` computes all places at which a match that began in the set may
end. Repetition adds new places until there are none, so every pattern is total on every text.
-/

namespace ClassApi

/-- A place in a text: the character before it and what follows. -/
structure Spot where
  /-- The character before the place. -/
  before : Option Char
  /-- The characters after the place. -/
  rest : List Char

/-- A condition on a place that consumes nothing. -/
inductive Boundary where
  /-- The start of the text. -/
  | textStart
  /-- The end of the text. -/
  | textEnd
  /-- The start of a line. -/
  | lineStart
  /-- The end of a line. -/
  | lineEnd
  /-- Between a word character and another one or an end. -/
  | wordEdge
  /-- Not at a word edge. -/
  | notWordEdge
  /-- Where a word starts. -/
  | wordStart
  /-- Where a word ends. -/
  | wordEnd
  /-- Not after a word character. -/
  | noWordBefore
  /-- Not before a word character. -/
  | noWordAfter
deriving DecidableEq, Repr

/-- A pattern. -/
inductive Pattern where
  /-- The empty text. -/
  | empty
  /-- One character of a class. -/
  | char (cls : CharClass)
  /-- A condition on the place. -/
  | boundary (kind : Boundary)
  /-- One pattern after another. -/
  | seq (first second : Pattern)
  /-- Either of two patterns. -/
  | alt (left right : Pattern)
  /-- A pattern at least `least` times, and at most `most` times when that is given. -/
  | repeated (inner : Pattern) (least : Nat) (most : Option Nat)

namespace Spot

/-- Whether an optional character is a word character. -/
def isWord (c : Option Char) : Bool :=
  match c with
  | some c => CharClass.word.holds c
  | none => false

/-- Whether a place satisfies a condition. -/
def satisfies (s : Spot) : Boundary → Bool
  | .textStart => s.before.isNone
  | .textEnd => s.rest.isEmpty
  | .lineStart => s.before.isNone || s.before == some '\n'
  | .lineEnd => s.rest.isEmpty || s.rest.head? == some '\n'
  | .wordEdge => isWord s.before != isWord s.rest.head?
  | .notWordEdge => isWord s.before == isWord s.rest.head?
  | .wordStart => !isWord s.before && isWord s.rest.head?
  | .wordEnd => isWord s.before && !isWord s.rest.head?
  | .noWordBefore => !isWord s.before
  | .noWordAfter => !isWord s.rest.head?

/-- The place one character further on, when that character is of the class. -/
def advance (cls : CharClass) (s : Spot) : Option Spot :=
  match s.rest with
  | [] => none
  | c :: rest => if cls.holds c then some ⟨some c, rest⟩ else none

/-- Adds a place to a set unless it is there. Places of one text are told apart by what follows
them. -/
def addTo (spots : List Spot) (s : Spot) : List Spot :=
  if spots.any (fun t => t.rest.length == s.rest.length) then spots else s :: spots

/-- The places of `more` that are not in `spots`. -/
def fresh (spots more : List Spot) : List Spot :=
  more.filter fun s => !spots.any fun t => t.rest.length == s.rest.length

/-- All places of a text that follow a given character. -/
def allFrom (before : Option Char) : List Char → List Spot
  | [] => [⟨before, []⟩]
  | c :: rest => ⟨before, c :: rest⟩ :: allFrom (some c) rest

/-- All places of a text. -/
def all (text : String) : List Spot :=
  allFrom none text.toList

end Spot

namespace Pattern

/-- Takes a step `n` times, stopping early at the empty set and at a set that the step does not
change. -/
def iterate (step : List Spot → List Spot) : Nat → List Spot → List Spot
  | 0, spots => spots
  | n + 1, spots =>
    let next := step spots
    if next.isEmpty then []
    else if (Spot.fresh spots next).isEmpty && (Spot.fresh next spots).isEmpty then spots
    else iterate step n next

/-- All places that up to `n` steps lead to; `found` holds those known, `frontier` the latest of
them. -/
def closure (step : List Spot → List Spot) : Nat → List Spot → List Spot → List Spot
  | 0, found, _ => found
  | n + 1, found, frontier =>
    let next := Spot.fresh found (step frontier)
    if next.isEmpty then found else closure step n (found ++ next) next

/-- The greatest number of new places any repetition can find from some places. -/
def reach (spots : List Spot) : Nat :=
  spots.foldl (fun n s => max n (s.rest.length + 1)) 0

/-- The places at which a match that begins in `spots` may end. -/
def ends : Pattern → List Spot → List Spot
  | empty, spots => spots
  | char cls, spots => spots.filterMap (·.advance cls)
  | boundary kind, spots => spots.filter (·.satisfies kind)
  | seq first second, spots => ends second (ends first spots)
  | alt left right, spots => (ends right spots).foldl Spot.addTo (ends left spots)
  | repeated inner least most, spots =>
    let start := iterate (ends inner) least spots
    let more :=
      match most with
      | some most => min (most - least) (reach start)
      | none => reach start
    closure (ends inner) more start start

/-- Whether some part of a text matches. -/
def foundIn (p : Pattern) (text : String) : Bool :=
  !(ends p (Spot.all text)).isEmpty

/-- A measure of the automaton a pattern needs. -/
def weight : Pattern → Nat
  | empty => 1
  | char cls => cls.weight
  | boundary _ => 1
  | seq first second => first.weight + second.weight
  | alt left right => left.weight + right.weight + 1
  | repeated inner least most => (inner.weight + 1) * max 1 (max least (most.getD 0))

end Pattern

end ClassApi
