import ClassApi.Directory.Access
import ClassApi.Json.Reader
import ClassApi.Settings.Basic
import ClassApi.Settings.Failure
import ClassApi.Toml.Reader

/-!
# Loading settings

Settings are gathered from files at known places, from a file that is asked for, and from the
environment, in this order. Files at known places may be missing; whatever is there must keep to its
format. Values are turned into the kind that their setting has where that makes sense.
-/

namespace ClassApi

namespace Setting

/-- The failure of a value under a key. -/
def refused {α : Type} (value : Setting) (expected key : String) : Except SettingsError α :=
  .error (.value value.description expected key value.origin?)

/-- The truth value that a word stands for. -/
def truthOfWord (word : String) : Option Bool :=
  if word ∈ ["1", "true", "on", "yes"] then some true
  else if word ∈ ["0", "false", "off", "no"] then some false
  else none

/-- The truth value of the setting under a key: numbers are true unless they are zero, and some
words in any letter case stand for truth values. -/
def toBool (key : String) : Setting → Except SettingsError Bool
  | bool b _ => .ok b
  | integer n _ => .ok (n != 0)
  | float x _ => .ok (x != 0)
  | text s origin =>
    let word := lowerText s
    match truthOfWord word with
    | some b => .ok b
    | none => refused (text word origin) "a boolean" key
  | value => refused value "a boolean" key

/-- The text of the setting under a key: truth values and numbers are written out. -/
def toText (key : String) : Setting → Except SettingsError String
  | text s _ => .ok s
  | bool b _ => .ok (Settings.truthText b)
  | integer n _ => .ok (toString n)
  | float x _ => .ok (FloatText.brief x)
  | value => refused value "a string" key

/-- The text of the setting under a key, which may have no value. -/
def toOptionalText (key : String) : Setting → Except SettingsError (Option String)
  | null _ => .ok none
  | value => (value.toText key).map some

end Setting

/-- The settings of the section among the members of all layers, each with its key. A list gives the
settings in order. -/
def SettingsSection.read (part : SettingsSection) (members : Fields Setting) :
    Except SettingsError (Fields (String × Setting)) :=
  match Fields.get? members part.name with
  | none => .ok []
  | some (.table settings) =>
    .ok (settings.map fun (name, value) => (name, part.name ++ "." ++ name, value))
  | some (.list items _) =>
    .ok (part.members.zip (items.mapIdx fun i value =>
      (part.name ++ "[" ++ toString i ++ "]", value)))
  | some other => .error (.part other.description part.expected)

namespace Settings

/-- A setting that may be missing; one that is there must be readable. -/
def layeredOr {α : Type} (missing : α) (read : String → Setting → Except SettingsError α) :
    Option (String × Setting) → Except SettingsError α
  | none => .ok missing
  | some (key, value) => read key value

/-- The settings that the members of all layers give. -/
def ofMembers (members : Fields Setting) : Except SettingsError Settings := do
  let project ← SettingsSection.project.read members
  let api ← SettingsSection.api.read members
  let cache ← SettingsSection.cache.read members
  let logging ← SettingsSection.logging.read members
  let missing : Settings := {}
  let projectPath ← layeredOr missing.projectPath Setting.toText (Fields.get? project "path")
  let fixturePath ← layeredOr missing.fixturePath Setting.toOptionalText
    (Fields.get? project "fixture")
  let allowMutation ← layeredOr missing.allowMutation Setting.toBool
    (Fields.get? api "allow_mutation")
  let pretty ← layeredOr missing.pretty Setting.toBool (Fields.get? api "pretty")
  let caching ← layeredOr missing.caching Setting.toBool (Fields.get? cache "enabled")
  let logFilter ← layeredOr missing.logFilter Setting.toText (Fields.get? logging "filter")
  return { projectPath, fixturePath, allowMutation, pretty, caching, logFilter }

end Settings

/-- A format of settings files. -/
inductive SettingsFormat where
  /-- TOML. -/
  | toml
  /-- JSON, where the document must be an object. -/
  | json
deriving DecidableEq, Repr

namespace SettingsFormat

/-- All formats, in the order in which they are looked for. -/
def all : List SettingsFormat :=
  [toml, json]

/-- What the names of files of the format end with. -/
def ending : SettingsFormat → String
  | toml => "toml"
  | json => "json"

/-- The format of the file at a path. -/
def ofPath? (path : String) : Option SettingsFormat :=
  all.find? fun format => FilePath.extension? path = some format.ending

/-- Drops the mark of the byte order from the front of a text. -/
def dropMark (text : String) : String :=
  match text.toList with
  | '\ufeff' :: rest => String.ofList rest
  | _ => text

/-- The layer that a text in the format makes. -/
def read (format : SettingsFormat) (origin text : String) : Option (List (String × Setting)) :=
  match format with
  | toml => (Toml.read (dropMark text)).map (Setting.ofTomlMembers origin)
  | json =>
    match Json.read (dropMark text) with
    | some (.object members) => some (Setting.ofJsonMembers origin members)
    | _ => none

end SettingsFormat

/-- A file that settings may be in. -/
structure SettingsSource where
  /-- The path of the file, or that path without its ending. -/
  name : String
  /-- Whether the file must be there. -/
  isRequired : Bool

namespace SettingsSource

variable {m : Type → Type} [Monad m]

/-- The file whose name is that of the source with the ending of one of some formats. -/
def findEnding (access : FileAccess m) (name : String) :
    List SettingsFormat → ExceptT SettingsError m (String × SettingsFormat × String)
  | [] => throw (.notFound name)
  | format :: rest => do
    let path := name ++ "." ++ format.ending
    match ← access.contents? path with
    | some text => return (path, format, text)
    | none => findEnding access name rest

/-- The file of a source: its path, its format and its text. -/
def find (access : FileAccess m) (name : String) :
    ExceptT SettingsError m (String × SettingsFormat × String) := do
  match ← access.contents? name with
  | some text =>
    match SettingsFormat.ofPath? name with
    | some format => return (name, format, text)
    | none => throw (.unknownFormat (FilePath.resolve access.directory name))
  | none => findEnding access name SettingsFormat.all

/-- The layer that a source makes. A source that need not be there makes an empty layer when no file
is found for it. -/
def layer (access : FileAccess m) (source : SettingsSource) :
    ExceptT SettingsError m (List (String × Setting)) := do
  let found : Except SettingsError (String × SettingsFormat × String) ←
    liftM (find access source.name).run
  match found with
  | .error e => if source.isRequired then throw e else return []
  | .ok (path, format, text) =>
    let origin := FilePath.relativeTo access.directory path
    match format.read origin text with
    | some layer => return layer
    | none => throw (.malformed origin)

/-- The directory of the settings of a user. -/
def userDirectory? (environment : List (String × String)) : Option String :=
  match (environment.lookup "XDG_CONFIG_HOME").filter FilePath.isAbsolute with
  | some directory => some (directory ++ "/graphql")
  | none =>
    ((environment.lookup "HOME").filter fun home => !home.isEmpty).map (· ++ "/.config/graphql")

/-- The sources in their order; what comes later counts more. -/
def all (environment : List (String × String)) (chosen : Option String) : List SettingsSource :=
  ["graphql.toml", ".graphql.toml", "config/graphql.toml"].map (⟨·, false⟩)
    ++ (userDirectory? environment).toList.map (fun directory =>
      ⟨directory ++ "/graphql.toml", false⟩)
    ++ chosen.toList.map (⟨·, true⟩)

/-- Adds the layers of sources, one after the other, to what earlier layers have said. -/
def gather (access : FileAccess m) :
    List SettingsSource → Fields Setting → ExceptT SettingsError m (Fields Setting)
  | [], members => return members
  | source :: rest, members => do
    let layer ← source.layer access
    gather access rest (Setting.addLayer members layer)

end SettingsSource

namespace Settings

variable {m : Type → Type} [Monad m]

/-- Loads the settings, given the variables of the environment and the file that is asked for. -/
def load (access : FileAccess m) (environment : List (String × String)) (chosen : Option String) :
    ExceptT SettingsError m Settings := do
  let members ← SettingsSource.gather access (SettingsSource.all environment chosen) []
  ofMembers (Setting.addLayer members (Setting.environmentLayer environment))

end Settings

end ClassApi
