import ClassApi.Command.Form
import ClassApi.Fields

/-!
# Reading arguments

Arguments name the settings file, then the command, and then what the command is to do. An option is
given once; its value follows in the same argument or is the next one, which then must not look like
an option. Behind two dashes there are no options any more.
-/

namespace ClassApi

/-- What is to be done. -/
inductive Action where
  /-- Compiles a project and reports its classes. -/
  | check (project : Option String)
  /-- Prints the schema of a project, or writes it to a file. -/
  | sdl (project output : Option String)
  /-- Executes a request. -/
  | query (project fixture : Option String) (query : String) (variableText : Option String)
    (allowMutation : Bool)
  /-- Shows the settings, or writes them to a file. -/
  | config (target : Option String)
deriving DecidableEq, Repr

/-- A call of the program. -/
structure Invocation where
  /-- The settings file that is asked for. -/
  settingsFile : Option String
  /-- What is to be done. -/
  action : Action
deriving DecidableEq, Repr

/-- Why nothing is to be done. -/
inductive Interruption where
  /-- Help was asked for. -/
  | help (text : String)
  /-- The arguments do not fit any form. -/
  | misuse
deriving DecidableEq, Repr

/-- What one argument means. -/
inductive ArgumentKind where
  /-- It is an option, perhaps with its value. -/
  | option (form : OptionForm) (value : Option String)
  /-- It asks for help. -/
  | help
  /-- Behind it there are no options. -/
  | divider
  /-- It looks like an option but is none. -/
  | unknown
  /-- It is no option. -/
  | plain

namespace CommandForm

/-- The meaning of an option with some value; a flag takes none. -/
def optionKind (found : Option OptionForm) (value : Option String) : ArgumentKind :=
  match found with
  | some o => if o.valueName.isNone && value.isSome then .unknown else .option o value
  | none => .unknown

/-- The meaning of what follows two dashes. -/
def longKind (form : CommandForm) (body : List Char) : ArgumentKind :=
  let (name, rest) := body.span (· != '=')
  let name := String.ofList name
  let value := if rest.isEmpty then none else some (String.ofList (rest.drop 1))
  if name = helpName then (if value.isNone then .help else .unknown)
  else optionKind (form.options.find? fun o => o.long = name) value

/-- The meaning of a letter behind one dash, with what follows it. -/
def shortKind (form : CommandForm) (letter : Char) (rest : List Char) : ArgumentKind :=
  let value :=
    match rest with
    | [] => none
    | '=' :: value => some (String.ofList value)
    | value => some (String.ofList value)
  if letter = 'h' then .help
  else optionKind (form.options.find? fun o => o.short = some letter) value

/-- The meaning of an argument. -/
def kind (form : CommandForm) (argument : String) : ArgumentKind :=
  match argument.toList with
  | ['-', '-'] => .divider
  | '-' :: '-' :: body => form.longKind body
  | '-' :: letter :: rest => form.shortKind letter rest
  | _ => .plain

end CommandForm

/-- What has been given to a command. -/
structure GivenArguments where
  /-- The values of options by their long names; those of flags are empty. -/
  options : Fields String := []
  /-- The argument besides the options. -/
  project : Option String := none

namespace GivenArguments

/-- Adds an option with its value. -/
def addOption (given : GivenArguments) (o : OptionForm)
    (value : String) : Except Interruption GivenArguments :=
  if Fields.contains given.options o.long then .error .misuse
  else if o.valueName.isSome && !o.mayBeEmpty && value.isEmpty then .error .misuse
  else .ok { given with options := Fields.insert given.options o.long value }

/-- Adds an argument that is no option. -/
def addPlain (given : GivenArguments) (form : CommandForm)
    (argument : String) : Except Interruption GivenArguments :=
  if form.project.isNone || given.project.isSome || argument.isEmpty then .error .misuse
  else .ok { given with project := some argument }

/-- Adds arguments that are no options. -/
def addAllPlain (given : GivenArguments) (form : CommandForm) :
    List String → Except Interruption GivenArguments
  | [] => .ok given
  | argument :: rest => do
    let given ← given.addPlain form argument
    given.addAllPlain form rest

/-- Whether an argument cannot be the value of an option that stands before it. -/
def looksLikeOption (argument : String) : Bool :=
  match argument.toList with
  | '-' :: _ :: _ => true
  | _ => false

/-- Reads the arguments of a command. -/
def read (form : CommandForm) : GivenArguments → List String → Except Interruption GivenArguments
  | given, [] => .ok given
  | given, argument :: rest =>
    match form.kind argument with
    | .help => .error (.help form.help)
    | .unknown => .error .misuse
    | .divider => given.addAllPlain form rest
    | .plain => do
      let given ← given.addPlain form argument
      read form given rest
    | .option o (some value) => do
      let given ← given.addOption o value
      read form given rest
    | .option o none =>
      if o.valueName.isNone then do
        let given ← given.addOption o ""
        read form given rest
      else
        match rest with
        | [] => .error .misuse
        | value :: rest =>
          if looksLikeOption value then .error .misuse
          else do
            let given ← given.addOption o value
            read form given rest

/-- The value of an option. -/
def value? (given : GivenArguments) (name : String) : Option String :=
  Fields.get? given.options name

end GivenArguments

namespace Action

/-- The action that a command and its arguments ask for. -/
def ofGiven (name : String) (given : GivenArguments) : Except Interruption Action :=
  match name with
  | "check" => .ok (check given.project)
  | "sdl" => .ok (sdl given.project (given.value? "output"))
  | "query" =>
    match given.value? "query" with
    | none => .error .misuse
    | some text =>
      .ok (query given.project (given.value? "fixture") text (given.value? "variables")
        (given.value? "allow-mutation").isSome)
  | "config" => .ok (config (given.value? "write"))
  | _ => .error .misuse

/-- The help on the command that some names lead to. -/
def helpOn : List String → Interruption
  | [] => .help CommandForm.programHelp
  | [name] =>
    if name = CommandForm.helpName then .help CommandForm.helpHelp
    else
      match CommandForm.all.find? fun form => form.name = name with
      | some form => .help form.help
      | none => .misuse
  | _ => .misuse

/-- Reads a command and its arguments. -/
def read (name : String) (arguments : List String) : Except Interruption Action :=
  if name = CommandForm.helpName then .error (helpOn arguments)
  else
    match CommandForm.all.find? fun form => form.name = name with
    | none => .error .misuse
    | some form => do
      let given ← GivenArguments.read form {} arguments
      ofGiven name given

end Action

namespace Invocation

/-- Reads the arguments of a call behind the options given so far. -/
def readFrom (given : GivenArguments) : List String → Except Interruption Invocation
  | [] => .error .misuse
  | argument :: rest =>
    match CommandForm.program.kind argument with
    | .help => .error (.help CommandForm.programHelp)
    | .unknown => .error .misuse
    | .divider => .error .misuse
    | .plain => do
      let action ← Action.read argument rest
      return { settingsFile := given.value? "config", action }
    | .option o (some value) => do
      let given ← given.addOption o value
      readFrom given rest
    | .option o none =>
      match rest with
      | [] => .error .misuse
      | value :: rest =>
        if GivenArguments.looksLikeOption value then .error .misuse
        else do
          let given ← given.addOption o value
          readFrom given rest

/-- Reads the arguments of a call. -/
def read (arguments : List String) : Except Interruption Invocation :=
  readFrom {} arguments

end Invocation

end ClassApi
