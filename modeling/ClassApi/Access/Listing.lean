import ClassApi.Access.Record
import ClassApi.Datum
import ClassApi.Paging

/-!
# Filters, sorting and lookups

The arguments of queries, turned into documents for the store: filters into conditions, order
members into sort keys, lookup arguments into equalities. The names of the input types that go with
them are derived here as well.
-/

namespace ClassApi

/-- The operators a field can be filtered with. -/
def ScalarKind.filterOperators : ScalarKind → List String
  | boolean => ["eq"]
  | relation => ["in", "eq"]
  | string => ["in", "eq", "regexp"]
  | int => ["in", "eq", "gt", "gte", "lt", "lte"]
  | float => ["in", "eq", "gt", "gte", "lt", "lte"]
  | mixed => []

/-- The last part of the name of a filter type. -/
def ScalarKind.filterEnding : ScalarKind → Option String
  | boolean => some "Boolean"
  | relation => some "ObjectID"
  | string => some "String"
  | int => some "Number"
  | float => some "Number"
  | mixed => none

/-- The type of a filter operator for a kind. -/
def ScalarKind.filterType (kind : ScalarKind) (operator : String) : TypeRef :=
  let scalar := if kind.isNumeric then "Float" else kind.typeName
  if operator = "in" then .list (.named scalar)
  else if operator = "regexp" then .named "String"
  else .named scalar

/-- A direction of sorting. -/
inductive Direction where
  /-- Least first. -/
  | ascending
  /-- Greatest first. -/
  | descending
deriving DecidableEq, Repr

/-- The number that stands for a direction in a sort document. -/
def Direction.toInt : Direction → Int
  | ascending => 1
  | descending => -1

/-- A member of a sort enumeration. -/
structure OrderItem where
  /-- The name of the member. -/
  name : String
  /-- The path that is sorted by. -/
  key : String
  /-- The direction. -/
  direction : Direction
deriving DecidableEq, Repr

namespace ClassInfo

/-- The name of the filter type of a class. -/
def filterTypeName (c : ClassInfo) : String :=
  "filter" ++ c.pluralTypeName ++ "With"

/-- The name of the filter type of a field, when it can be filtered by. -/
def fieldFilterTypeName (c : ClassInfo) (f : ClassField) : Option String :=
  f.scalar.filterEnding.map fun ending => c.filterTypeName ++ Naming.upperFirst f.name ++ ending

/-- The name of the sort enumeration of a class. -/
def orderTypeName (c : ClassInfo) : String :=
  "order" ++ c.pluralTypeName ++ "By"

/-- The fields that have a filter, each with the name of its filter type. -/
def filters (c : ClassInfo) : List (ClassField × String) :=
  c.filterableFields.filterMap fun f => (c.fieldFilterTypeName f).map fun name => (f, name)

/-- The members of the sort enumeration for a name and its path. -/
def orderPair (name key : String) : List OrderItem :=
  [⟨Naming.screamingSnakeCase (name ++ "Asc"), key, .ascending⟩,
    ⟨Naming.screamingSnakeCase (name ++ "Desc"), key, .descending⟩]

/-- The members of the sort enumeration of a class. -/
def orderItems (c : ClassInfo) : List OrderItem :=
  orderPair "createdAt" "createdAt" ++ orderPair "updatedAt" "updatedAt"
    ++ c.sortableNames.flatMap fun name => orderPair name ("data." ++ name)

end ClassInfo

/-- A regular expression as the store keeps it. -/
structure RegexLiteral where
  /-- The pattern. -/
  pattern : String
  /-- The option letters, sorted. -/
  options : String
deriving DecidableEq, Repr

namespace RegexLiteral

/-- Splits at the last slash: what stands before it and what follows. -/
def splitLastSlash : List Char → Option (List Char × List Char)
  | [] => none
  | c :: rest =>
    match splitLastSlash rest with
    | some (before, after) => some (c :: before, after)
    | none => if c = '/' then some ([], rest) else none

/-- Reads a literal of the form `/pattern/flags`. Only the form is checked; the pattern is read when
it is used. -/
def ofText (literal className field : String) : Except ResolveError RegexLiteral :=
  match literal.toList with
  | '/' :: rest =>
    match splitLastSlash rest with
    | some (pattern, flags) =>
      if flags.all fun c => isAlphanumeric c || c == '_' then
        .ok ⟨String.ofList pattern, Extended.sortOptions (String.ofList flags)⟩
      else .error (.invalidRegExp className field)
    | none => .error (.invalidRegExp className field)
  | _ => .error (.invalidRegExp className field)

/-- The stored value. -/
def toValue (r : RegexLiteral) : Value :=
  .regex r.pattern r.options

end RegexLiteral

namespace Listing

/-- A value a field is compared with; references are decoded where they are ids. -/
def filterValue (f : ClassField) (value : Datum) : Value :=
  match value with
  | .string raw =>
    if f.scalar = .relation then
      match ObjectId.ofClient? raw with
      | some id => .objectId id
      | none => .string raw
    else .string raw
  | value => value.toStored

/-- A list, item by item, or a single value a field is compared with. -/
def filterOperand (f : ClassField) : Datum → Value
  | .list items => .array (items.map (filterValue f))
  | value => filterValue f value

/-- The conditions of a filter, those of the operator `eq` aside; operators without a value say
nothing. -/
def conditionsWithoutEq (f : ClassField) (filter : Fields Datum) : Document :=
  Fields.ofEntries <| filter.filterMap fun (operator, value) =>
    if operator = "eq" || value.isNull then none else some ("$" ++ operator, filterOperand f value)

/-- What the operator `eq` asks for; `false` also stands for a missing value. -/
def eqCandidates (f : ClassField) (value : Datum) : List Value :=
  match value with
  | .bool false => [filterValue f value, .null]
  | value => [filterValue f value]

/-- The condition that a filter sets on a field. A regular expression takes the place of `eq`. -/
def fieldCondition (c : ClassInfo) (f : ClassField)
    (filter : Fields Datum) : Except ResolveError Document :=
  let others := Fields.remove filter "regexp"
  let conditions := conditionsWithoutEq f others
  match Fields.get? filter "regexp" with
  | some (.string literal) =>
    (RegexLiteral.ofText literal c.name f.name).map fun regex =>
      Fields.insert conditions "$in" (.array [regex.toValue])
  | _ =>
    match Fields.get? others "eq" with
    | none => .ok conditions
    | some .null => .ok conditions
    | some value => .ok (Fields.insert conditions "$in" (.array (eqCandidates f value)))

/-- The conditions of filters, added to those of a query. -/
def addFilters (c : ClassInfo) (query : Document) : Fields Datum → Except ResolveError Document
  | [] => .ok query
  | (name, .object filter) :: rest =>
    match c.field? name with
    | none => .error (.invalidArgument s!"Unknown filter \"{name}\"")
    | some f =>
      match fieldCondition c f filter with
      | .error e => .error e
      | .ok condition =>
        addFilters c
          (if condition.isEmpty then query
           else Fields.insert query ("data." ++ f.name) (.document condition))
          rest
  | _ :: rest => addFilters c query rest

/-- The query for the argument `filters`. -/
def filtersToQuery (c : ClassInfo) : Option Datum → Except ResolveError Document
  | some (.object filters) => addFilters c [] filters
  | _ => .ok []

/-- The name of a sort enumeration member that a value gives. -/
def orderName : Datum → Option String
  | .enum name => some name
  | .string name => some name
  | _ => none

/-- The sort entry of a value, when it names a member. -/
def orderEntry (c : ClassInfo) (value : Datum) : Option (String × Value) := do
  let name ← orderName value
  let item ← c.orderItems.find? fun item => item.name = name
  return (item.key, .int32 item.direction.toInt)

/-- The sort document for the argument `orderBy`. A path named twice keeps its place and takes the
later direction. -/
def orderToSort (c : ClassInfo) (orderBy : Option Datum) : Option Document :=
  let values :=
    match orderBy with
    | none => []
    | some .null => []
    | some (.list items) => items
    | some single => [single]
  let sort := Fields.ofEntries (values.filterMap (orderEntry c))
  if sort.isEmpty then none else some sort

/-- A lookup text: 24 hexadecimal digits, alone or inside a global id with a type, are an id. -/
def decodeIdLike (raw : String) : Value :=
  match ObjectId.ofHex? raw with
  | some id => .objectId id
  | none =>
    match GlobalId.decode? raw with
    | some globalId =>
      if globalId.typeName.isEmpty then .string raw
      else
        match ObjectId.ofHex? globalId.id with
        | some id => .objectId id
        | none => .string raw
    | none => .string raw

mutual

/-- A lookup argument as it is compared; texts inside lists are decoded too. -/
def lookupValue : Datum → Value
  | .string raw => decodeIdLike raw
  | .list items => .array (lookupItems items)
  | other => other.toStored

/-- List items as they are compared. -/
def lookupItems : List Datum → List Value
  | [] => []
  | item :: rest => lookupValue item :: lookupItems rest

end

/-- The equalities that lookup arguments ask for; the id is not among them. -/
def lookupQuery (args : Fields Datum) : Document :=
  Fields.ofEntries <| args.filterMap fun (name, value) =>
    if name = "id" then none else some ("data." ++ name, lookupValue value)

/-- The page of a class that the arguments of a list query select. -/
def page (s : Store) (c : ClassInfo) (args : Fields Datum) :
    Except ResolveError (Connection EdgeNode) := do
  let query ← filtersToQuery c (Fields.get? args "filters")
  let sort := orderToSort c (Fields.get? args "orderBy")
  let ids ← Access.findIds s c.name query sort
  let connection ← paginate ids (.ofArguments args)
  let pageIds := connection.edges.map Edge.node
  let records ← Access.manyByIds s c.name pageIds
  return connection.withNodes (Access.nodesFor records pageIds)

/-- The record that the arguments of a lookup select: the one with the id, if an id is given as a
text, else the first one that agrees with the other arguments. -/
def single (s : Store) (c : ClassInfo) (args : Fields Datum) : Except ResolveError ClassRecord :=
  match Fields.get? args "id" with
  | some (.string data) => do Access.classById s c.name (← clientId data)
  | _ => Access.findOne s c.name (lookupQuery args)

end Listing

end ClassApi
