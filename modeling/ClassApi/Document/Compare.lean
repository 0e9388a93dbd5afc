import ClassApi.Document.Value

/-!
# Comparing stored values

Three relations. `same` is strict equality, kind by kind. `equal` compares numbers by value,
whatever their width. `order` is the sort order: kinds have ranks, values of one kind are compared,
and what cannot be compared is equal. Comparing with operators uses `compareWithinKind`, which is
undefined across kinds.
-/

namespace ClassApi.Value

mutual

/-- Strict equality. Members of documents are matched by name, in any order. -/
def same : Value → Value → Bool
  | null, null => true
  | undefined, undefined => true
  | bool a, bool b => a == b
  | int32 a, int32 b => a == b
  | int64 a, int64 b => a == b
  | double a, double b => a == b
  | decimal128 a, decimal128 b => a == b
  | string a, string b => a == b
  | objectId a, objectId b => a == b
  | date a, date b => a == b
  | dbPointer c a, dbPointer d b => c == d && a == b
  | binary k a, binary l b => k == l && a == b
  | regex p o, regex q r => p == q && o == r
  | symbol a, symbol b => a == b
  | code a, code b => a == b
  | codeWithScope a xs, codeWithScope b ys => a == b && xs.length == ys.length && sameMembers xs ys
  | logTime a b, logTime c d => a == c && b == d
  | minKey, minKey => true
  | maxKey, maxKey => true
  | array xs, array ys => sameItems xs ys
  | document xs, document ys => xs.length == ys.length && sameMembers xs ys
  | _, _ => false

/-- Strict equality of lists. -/
def sameItems : List Value → List Value → Bool
  | [], [] => true
  | x :: xs, y :: ys => same x y && sameItems xs ys
  | _, _ => false

/-- Whether every member has a strictly equal one of its name in the other document. -/
def sameMembers : List (String × Value) → Document → Bool
  | [], _ => true
  | (name, value) :: rest, other =>
    match Fields.get? other name with
    | some found => same value found && sameMembers rest other
    | none => false

end

mutual

/-- Equality that compares numbers by value; members of documents must also agree in order. -/
def equal : Value → Value → Bool
  | array xs, array ys => equalItems xs ys
  | document xs, document ys => equalMembers xs ys
  | a, b =>
    match a.asFloat?, b.asFloat? with
    | some x, some y => x == y
    | _, _ => same a b

/-- Equality of lists, item by item. -/
def equalItems : List Value → List Value → Bool
  | [], [] => true
  | x :: xs, y :: ys => equal x y && equalItems xs ys
  | _, _ => false

/-- Equality of documents, member by member. -/
def equalMembers : List (String × Value) → List (String × Value) → Bool
  | [], [] => true
  | (k, x) :: xs, (l, y) :: ys => k == l && equal x y && equalMembers xs ys
  | _, _ => false

end

/-- The order of floats, undefined when one of them is no number. -/
def compareFloats (x y : Float) : Option Ordering :=
  if x < y then some .lt else if y < x then some .gt else if x == y then some .eq else none

/-- The order of two values of one kind; numbers are one kind. -/
def compareWithinKind : Value → Value → Option Ordering
  | string a, string b => some (compare a b)
  | bool a, bool b => some (compare a b)
  | objectId a, objectId b => some (a.compare b)
  | date a, date b => some (compare a.millis b.millis)
  | a, b =>
    match a.asFloat?, b.asFloat? with
    | some x, some y => compareFloats x y
    | _, _ => none

/-- The rank of a kind in the sort order; a missing value ranks with `null`. -/
def rank : Option Value → Nat
  | none => 0
  | some value =>
    match value with
    | null => 0
    | undefined => 0
    | int32 _ => 1
    | int64 _ => 1
    | double _ => 1
    | string _ => 2
    | symbol _ => 2
    | document _ => 3
    | array _ => 4
    | binary _ _ => 5
    | objectId _ => 6
    | bool _ => 7
    | date _ => 8
    | logTime _ _ => 9
    | regex _ _ => 10
    | _ => 11

mutual

/-- The sort order of two present values. -/
def order : Value → Value → Ordering
  | array xs, array ys => orderItems xs ys
  | a, b =>
    (compare (rank (some a)) (rank (some b))).then ((compareWithinKind a b).getD .eq)

/-- Lists are ordered by their first difference, then by length. -/
def orderItems : List Value → List Value → Ordering
  | [], [] => .eq
  | [], _ :: _ => .lt
  | _ :: _, [] => .gt
  | x :: xs, y :: ys => (order x y).then (orderItems xs ys)

end

/-- The sort order, missing values first. -/
def orderOptional : Option Value → Option Value → Ordering
  | some a, some b => order a b
  | a, b => compare (rank a) (rank b)

end ClassApi.Value
