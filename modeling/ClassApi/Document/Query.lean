import ClassApi.Document.Compare
import ClassApi.Document.Path
import ClassApi.Pattern.Syntax
import ClassApi.Store.Failure

/-!
# Queries

A query is a document that names conditions on paths; a document satisfies it when it satisfies all
of them, in order. A condition is a plain value, which asks for equality, or a document of
operators. Equality reaches into lists, `null` also stands for a missing value, and a regular
expression is searched for. Evaluation stops at the first condition that does not hold, so a failure
behind it does not show.
-/

namespace ClassApi.Query

/-- Whether a value is a document of operators: not empty, and every name begins with a dollar
sign. -/
def isOperators : Value → Bool
  | .document members => !members.isEmpty && members.all fun m => m.1.startsWith "$"
  | _ => false

/-- Whether a value is a list with an item that satisfies `test`. -/
def anyItem (test : Value → Bool) : Option Value → Bool
  | some (.array items) => items.any test
  | _ => false

/-- Whether a value is, or holds, a text in which a pattern is found. -/
def patternFound (pattern : Pattern) : Option Value → Bool
  | some (.string s) => pattern.foundIn s
  | value =>
    anyItem (fun item => match item with | .string s => pattern.foundIn s | _ => false) value

/-- Whether an optional value is `null`. -/
def isNull : Option Value → Bool
  | none => true
  | some .null => true
  | _ => false

/-- Whether a value equals a target. -/
def equals (value : Option Value) (target : Value) : Except StoreError Bool :=
  match target with
  | .null => .ok (isNull value || anyItem (fun item => isNull (some item)) value)
  | .regex pattern options =>
    match Pattern.read (.ofLetters options) pattern with
    | some compiled => .ok (patternFound compiled value)
    | none => .error (.invalidPattern pattern)
  | target =>
    match value with
    | none => .ok false
    | some v => .ok (v.equal target || anyItem (fun item => item.equal target) value)

/-- Whether a value equals one of some candidates; they are tried in order. -/
def equalsAny (value : Option Value) : List Value → Except StoreError Bool
  | [] => .ok false
  | candidate :: rest =>
    match equals value candidate with
    | .ok true => .ok true
    | .ok false => equalsAny value rest
    | .error e => .error e

/-- Whether a value equals one of a list of candidates, which must be a list. -/
def within (value : Option Value) (candidates : Value) : Except StoreError Bool :=
  match candidates with
  | .array items => equalsAny value items
  | _ => .error (.unsupportedOperator "$in requires an array")

/-- Whether a value, or an item of it, stands in an accepted order to an argument of its kind. -/
def compares (value : Option Value) (argument : Value) (accept : Ordering → Bool) : Bool :=
  let test := fun (v : Value) => (v.compareWithinKind argument).elim false accept
  match value with
  | some (.array items) => items.any test
  | some v => test v
  | none => false

/-- Whether a value satisfies one operator. -/
def satisfiesOperator (value : Option Value) (operator : String) (argument : Value) :
    Except StoreError Bool :=
  match operator with
  | "$eq" => equals value argument
  | "$ne" => (equals value argument).map not
  | "$in" => within value argument
  | "$nin" => (within value argument).map not
  | "$gt" => .ok (compares value argument (· == .gt))
  | "$gte" => .ok (compares value argument (· != .lt))
  | "$lt" => .ok (compares value argument (· == .lt))
  | "$lte" => .ok (compares value argument (· != .gt))
  | "$exists" => .ok (value.isSome == argument.truthy)
  | other => .error (.unsupportedOperator other)

/-- Whether a value satisfies some operators, tried in order. -/
def satisfiesAll (value : Option Value) : List (String × Value) → Except StoreError Bool
  | [] => .ok true
  | (operator, argument) :: rest =>
    match satisfiesOperator value operator argument with
    | .ok true => satisfiesAll value rest
    | .ok false => .ok false
    | .error e => .error e

/-- Whether a value satisfies a condition. -/
def satisfies (value : Option Value) (condition : Value) : Except StoreError Bool :=
  if isOperators condition then satisfiesAll value ((condition.asDocument?).getD [])
  else equals value condition

/-- Whether a document satisfies a query. -/
def selects (doc : Document) : Document → Except StoreError Bool
  | [] => .ok true
  | (path, condition) :: rest =>
    match satisfies (Path.lookup doc path) condition with
    | .ok true => selects doc rest
    | .ok false => .ok false
    | .error e => .error e

/-- The plain equality conditions of a query, as a document that satisfies them. -/
def equalities (query : Document) : Document :=
  query.foldl
    (fun doc condition =>
      if condition.1.startsWith "$" || isOperators condition.2 then doc
      else Path.set doc condition.1 condition.2)
    []

end ClassApi.Query
