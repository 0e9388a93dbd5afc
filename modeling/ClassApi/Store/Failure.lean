/-!
# Failures of a store

What can go wrong when documents are queried, updated, loaded or read as records.
-/

namespace ClassApi

/-- A failure of the store. -/
inductive StoreError where
  /-- An operator the store does not know, or one whose argument has the wrong kind. -/
  | unsupportedOperator (operator : String)
  /-- A regular expression that cannot be read. -/
  | invalidPattern (pattern : String)
  /-- A stored document that is no record. -/
  | invalidRecord
  /-- A fixture whose records of a class are not all objects. -/
  | recordNotObject (className : String)
  /-- A fixture with a file that has no name. -/
  | fileWithoutName
  /-- A fixture with a malformed value or id. -/
  | invalidFixture
deriving DecidableEq, Repr

/-- The text shown to callers. -/
def StoreError.message : StoreError → String
  | unsupportedOperator operator => s!"Unsupported operator \"{operator}\""
  | invalidPattern pattern => s!"Invalid regular expression /{pattern}/"
  | invalidRecord => "Invalid stored record"
  | recordNotObject className => s!"Invalid fixture: records of {className} must be objects"
  | fileWithoutName => "Invalid fixture: file without filename"
  | invalidFixture => "Invalid fixture"

end ClassApi
