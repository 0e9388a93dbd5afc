import ClassApi.Access.Failure
import ClassApi.Datum

/-!
# Paging

Lists are served in pages. A page is cut out of the whole list by two cursors, which exclude what
they name, and by counts from the front and from the back. Cursors that are none count as absent,
and so do offsets outside the list where they only widen the page. Offsets are integers of 64 bits:
a count is added to one or taken from it within these bounds, but the offset behind a cursor is a
plain sum, and where there is no room for it no page is cut.
-/

namespace ClassApi

namespace Offset

/-- The least offset. -/
def least : Int := -9223372036854775808

/-- The greatest offset. -/
def greatest : Int := 9223372036854775807

/-- A plain sum, which fails when there is no room for it. -/
def add (m n : Int) : Except ResolveError Int :=
  if least ≤ m + n ∧ m + n ≤ greatest then .ok (m + n) else .error .offsetOverflow

/-- The offset next to a sum. -/
def saturate (n : Int) : Int :=
  max least (min n greatest)

end Offset

/-- The arguments that select a page. -/
structure PageArgs where
  /-- At most this many items from the front. -/
  first : Option Int
  /-- Only items behind this cursor. -/
  after : Option String
  /-- At most this many items from the back. -/
  last : Option Int
  /-- Only items before this cursor. -/
  before : Option String
deriving DecidableEq, Repr

namespace PageArgs

/-- Reads the arguments; values of another kind count as absent. -/
def ofArguments (args : Fields Datum) : PageArgs where
  first := (Fields.get? args "first").bind Datum.asInt?
  after := (Fields.get? args "after").bind Datum.asString?
  last := (Fields.get? args "last").bind Datum.asInt?
  before := (Fields.get? args "before").bind Datum.asString?

/-- The offset of a cursor, or a default when it is absent or is none. -/
def offsetOr (cursor : Option String) (default : Int) : Int :=
  (cursor.bind Cursor.offset?).getD default

/-- The offset of the cursor before the page. -/
def afterOffset (args : PageArgs) : Int :=
  offsetOr args.after (-1)

/-- The offset of the cursor behind the page. -/
def beforeOffset (args : PageArgs) (length : Int) : Int :=
  offsetOr args.before length

end PageArgs

/-- The plain sums of the cursor before a page and one. -/
structure PageSums where
  /-- Where the page begins: behind the cursor, and not before the list. -/
  start : Int
  /-- The offset behind the cursor as it is given; without one, the front of the list. -/
  lowest : Int
deriving DecidableEq, Repr

/-- The plain sums as integers without bounds. -/
def PageArgs.sums (args : PageArgs) : PageSums where
  start := max args.afterOffset (-1) + 1
  lowest := if args.after.isSome then args.afterOffset + 1 else 0

/-- The plain sums, as far as there is room for them. -/
def PageArgs.checkedSums (args : PageArgs) : Except ResolveError PageSums := do
  let start ← Offset.add (max args.afterOffset (-1)) 1
  let lowest ← (if args.after.isSome then Offset.add args.afterOffset 1 else .ok 0)
  return { start, lowest }

/-- What clients are told about a page. -/
structure PageInfo where
  /-- The cursor of the first item. -/
  startCursor : Option String
  /-- The cursor of the last item. -/
  endCursor : Option String
  /-- Whether counting from the back left items out. -/
  hasPreviousPage : Bool
  /-- Whether counting from the front left items out. -/
  hasNextPage : Bool
deriving DecidableEq, Repr

/-- An item of a page. -/
structure Edge (α : Type) where
  /-- The cursor of the item. -/
  cursor : String
  /-- The item. -/
  node : α
deriving DecidableEq, Repr

/-- A page of a list. -/
structure Connection (α : Type) where
  /-- The items. -/
  edges : List (Edge α)
  /-- What clients are told about the page. -/
  pageInfo : PageInfo
  /-- The length of the whole list. -/
  totalCount : Nat
deriving DecidableEq, Repr

/-- Replaces the items of a page. -/
def Connection.withNodes {α β : Type} (c : Connection α) (nodes : List β) : Connection β where
  edges := (c.edges.zip nodes).map fun (edge, node) => ⟨edge.cursor, node⟩
  pageInfo := c.pageInfo
  totalCount := c.totalCount

/-- The bounds of a page, before they are limited to the list. -/
structure PageBounds where
  /-- The offset of the first item. -/
  start : Int
  /-- The offset behind the last item. -/
  stop : Int
deriving DecidableEq, Repr

namespace PageBounds

/-- The bounds the cursors set, given where the page begins. -/
def ofCursors (start : Int) (args : PageArgs) (length : Int) : PageBounds where
  start
  stop := min (args.beforeOffset length) length

/-- Limits the count from the front. -/
def takeFirst (b : PageBounds) : Option Int → Except ResolveError PageBounds
  | none => .ok b
  | some n =>
    if n < 0 then .error (.invalidArgument "Argument \"first\" must be a non-negative integer")
    else .ok { b with stop := min b.stop (Offset.saturate (b.start + n)) }

/-- Limits the count from the back. -/
def takeLast (b : PageBounds) : Option Int → Except ResolveError PageBounds
  | none => .ok b
  | some n =>
    if n < 0 then .error (.invalidArgument "Argument \"last\" must be a non-negative integer")
    else .ok { b with start := max b.start (Offset.saturate (b.stop - n)) }

/-- The bounds that page arguments select in a list of some length, given where the page begins. -/
def select (start : Int) (args : PageArgs) (length : Int) : Except ResolveError PageBounds := do
  let b ← (ofCursors start args length).takeFirst args.first
  b.takeLast args.last

/-- The offset of the first item, within the list. -/
def low (b : PageBounds) (length : Nat) : Nat :=
  min b.start.toNat length

/-- The offset behind the last item, within the list and not before the first item. -/
def high (b : PageBounds) (length : Nat) : Nat :=
  max (min b.stop.toNat length) (b.low length)

end PageBounds

/-- Items with the cursors of their offsets, beginning with a given offset. -/
def edgesFrom {α : Type} (offset : Nat) : List α → List (Edge α)
  | [] => []
  | node :: rest => ⟨Cursor.ofOffset offset, node⟩ :: edgesFrom (offset + 1) rest

/-- The page that the arguments select, given the plain sums. -/
def paginateWith {α : Type} (sums : PageSums) (items : List α) (args : PageArgs) :
    Except ResolveError (Connection α) := do
  let length : Int := items.length
  let b ← PageBounds.select sums.start args length
  let start := b.low items.length
  let stop := b.high items.length
  let edges := edgesFrom start ((items.drop start).take (stop - start))
  let highest := if args.before.isSome then args.beforeOffset length else length
  return {
    edges
    pageInfo := {
      startCursor := edges.head?.map Edge.cursor
      endCursor := edges.getLast?.map Edge.cursor
      hasPreviousPage := args.last.isSome && b.start > sums.lowest
      hasNextPage := args.first.isSome && b.stop < highest }
    totalCount := items.length }

/-- The page that the arguments select. -/
def paginate {α : Type} (items : List α) (args : PageArgs) :
    Except ResolveError (Connection α) := do
  paginateWith (← args.checkedSums) items args

end ClassApi
