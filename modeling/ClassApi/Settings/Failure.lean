import ClassApi.Codec.Hex
import ClassApi.Settings.Layer
import ClassApi.Text.UnicodeSets

/-!
# Failures of settings

A value is refused when it cannot be turned into the kind that its setting has. The text names the
value, the key and the file it was found in.
-/

namespace ClassApi

/-- The characters that stand for one character of a text between double quotes. -/
def Setting.escapeChar (c : Char) : List Char :=
  match c with
  | '\x00' => ['\\', '0']
  | '\t' => ['\\', 't']
  | '\n' => ['\\', 'n']
  | '\r' => ['\\', 'r']
  | '"' => ['\\', '"']
  | '\\' => ['\\', '\\']
  | ' ' => [' ']
  | c =>
    if CharSet.control.contains c || CharSet.separator.contains c then
      ['\\', 'u', '\x7b'] ++ Nat.toDigits 16 c.toNat ++ ['\x7d']
    else [c]

/-- A text between double quotes. -/
def Setting.quote (text : String) : String :=
  "\"" ++ String.ofList (text.toList.flatMap escapeChar) ++ "\""

/-- How a value is named in a failure. -/
def Setting.description : Setting → String
  | null _ => "unit value"
  | bool b _ => "boolean \x60" ++ (if b then "true" else "false") ++ "\x60"
  | integer n _ => "integer \x60" ++ toString n ++ "\x60"
  | float x _ => "floating point \x60" ++ FloatText.plain x ++ "\x60"
  | text s _ => "string " ++ quote s
  | list _ _ => "sequence"
  | table _ => "map"

/-- Where a value comes from. -/
def Setting.origin? : Setting → Option String
  | null origin => some origin
  | bool _ origin => some origin
  | integer _ origin => some origin
  | float _ origin => some origin
  | text _ origin => some origin
  | list _ origin => some origin
  | table _ => none

/-- Why settings cannot be loaded. -/
inductive SettingsError where
  /-- The value under a key is of the wrong kind. -/
  | value (found expected key : String) (origin : Option String)
  /-- The value for a section does not have settings. -/
  | part (found expected : String)
  /-- There is no file of the name. -/
  | notFound (name : String)
  /-- Nothing is known about the format of a file. -/
  | unknownFormat (path : String)
  /-- A file does not keep to its format. -/
  | malformed (path : String)
deriving DecidableEq, Repr

/-- The text shown to callers. -/
def SettingsError.message : SettingsError → String
  | value found expected key origin =>
    let place :=
      match origin with
      | some origin => " in " ++ origin
      | none => ""
    "invalid type: " ++ found ++ ", expected " ++ expected ++ " for key \x60" ++ key ++
      "\x60" ++ place
  | part found expected => "invalid type: " ++ found ++ ", expected " ++ expected
  | notFound name => "configuration file \"" ++ name ++ "\" not found"
  | unknownFormat path => "configuration file \"" ++ path ++ "\" is not of a registered file format"
  | malformed path => "configuration file \"" ++ path ++ "\" cannot be read"

end ClassApi
