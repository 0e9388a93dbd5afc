import ClassApi.Language.Tree

/-!
# Expansion

Before a request is checked and executed its fragments are put in the place of the names that refer
to them. What results is a tree of fields and groups, on which everything that follows recurses.
Selections nest to a limited depth, so fragments that refer to each other in a circle have no
expansion.
-/

namespace ClassApi

/-- What a request selects of an object, without references to fragments. -/
inductive Choice where
  /-- A field, perhaps under another name, with arguments and choices of its own. -/
  | field (label : Option String) (name : String) (arguments : List (String × Literal))
      (directives : List Directive) (choices : List Choice)
  /-- Choices that apply to objects of a type, or to every object. -/
  | group (condition : Option String) (directives : List Directive) (choices : List Choice)
deriving Inhabited

namespace Choice

/-- The directives of a choice. -/
def directives : Choice → List Directive
  | field _ _ _ directives _ => directives
  | group _ directives _ => directives

/-- The name under which the value of a field is answered. -/
def responseKey (label : Option String) (name : String) : String :=
  label.getD name

end Choice

namespace Language

/-- How many selection sets may be nested in each other. -/
def depthLimit : Nat := 33

/-- Puts fragments in the place of their names; `none` if one is unknown or the limit on the depth
is passed. -/
def expand (tree : RequestTree) : Nat → List Selection → Option (List Choice)
  | 0, _ => none
  | depth + 1, selections =>
    selections.mapM fun
      | .field label name arguments directives [] =>
        some (.field label name arguments directives [])
      | .field label name arguments directives selections =>
        (expand tree depth selections).map (.field label name arguments directives)
      | .spread name directives => do
        let fragment ← tree.fragment? name
        let choices ← expand tree depth fragment.selections
        return .group (some fragment.condition) directives choices
      | .inline condition directives selections =>
        (expand tree depth selections).map (.group condition directives)

mutual

/-- The names of the fragments that a selection refers to. -/
def spreadNames : Selection → List String
  | .field _ _ _ _ selections => allSpreadNames selections
  | .spread name _ => [name]
  | .inline _ _ selections => allSpreadNames selections

/-- The names of the fragments that selections refer to. -/
def allSpreadNames : List Selection → List String
  | [] => []
  | selection :: rest => spreadNames selection ++ allSpreadNames rest

end

/-- Adds the fragments that known ones refer to, step by step; there are no more steps than
fragments. -/
def closeSpreads (tree : RequestTree) : Nat → List String → List String
  | 0, known => known
  | steps + 1, known =>
    let further := known.flatMap fun name =>
      match tree.fragment? name with
      | some fragment => allSpreadNames fragment.selections
      | none => []
    closeSpreads tree steps (known ++ further).eraseDups

/-- The names of the fragments that some operation refers to, directly or through other
fragments. -/
def usedFragments (tree : RequestTree) : List String :=
  closeSpreads tree tree.fragments.length
    (tree.operations.flatMap fun o => allSpreadNames o.selections)

end Language

end ClassApi
