/-!
# Forms of commands

A form says which options and which other argument a command takes. Arguments are read by it, and
its help is written from it.
-/

namespace ClassApi

/-- An option of a command. -/
structure OptionForm where
  /-- The name that follows two dashes. -/
  long : String
  /-- The letter that follows one dash. -/
  short : Option Char
  /-- What the value is called in help; a flag has no value. -/
  valueName : Option String
  /-- Whether the value may be empty. -/
  mayBeEmpty : Bool := false
  /-- Whether the option must be given. -/
  isRequired : Bool := false
  /-- What the option is for. -/
  about : String

/-- A form. -/
structure CommandForm where
  /-- The name of the command. -/
  name : String
  /-- What the command does. -/
  about : String
  /-- What the argument besides the options is for, if there is one. -/
  project : Option String
  /-- The options, without the one that asks for help. -/
  options : List OptionForm

namespace CommandForm

/-- What the argument that leads to a project is for. -/
def projectAbout : String :=
  "Project document (JSON)"

/-- Compiles a project and reports its classes. -/
def check : CommandForm where
  name := "check"
  about := "Compile a project and report its classes"
  project := some projectAbout
  options := []

/-- Prints the schema of a project. -/
def sdl : CommandForm where
  name := "sdl"
  about := "Print the SDL of a project's schema"
  project := some projectAbout
  options := [
    { long := "output", short := some 'o', valueName := some "OUTPUT", about := "Output file" }]

/-- Executes a request. -/
def query : CommandForm where
  name := "query"
  about := "Execute a request against a seeded in-memory store"
  project := some projectAbout
  options := [
    { long := "fixture", short := some 'f', valueName := some "FIXTURE"
      about := "Store fixture (JSON)" },
    { long := "query", short := some 'q', valueName := some "QUERY"
      mayBeEmpty := true, isRequired := true
      about := "Request document, inline or a path to a .graphql file" },
    { long := "variables", short := none, valueName := some "VARIABLES", mayBeEmpty := true
      about := "Variables (JSON object)" },
    { long := "allow-mutation", short := none, valueName := none
      about := "Grant the mutation capability" }]

/-- Shows the settings. -/
def config : CommandForm where
  name := "config"
  about := "Show the effective configuration"
  project := none
  options := [
    { long := "write", short := some 'w', valueName := some "WRITE"
      about := "Write it to this file" }]

/-- All commands. -/
def all : List CommandForm :=
  [check, sdl, query, config]

/-- The name of the program. -/
def programName : String :=
  "class-graphql"

/-- The form of the arguments in front of a command. -/
def program : CommandForm where
  name := ""
  about := "Compile class definitions into a GraphQL API"
  project := none
  options := [{ long := "config", short := some 'c', valueName := some "CONFIG", mayBeEmpty := true
                about := "Config file (defaults to graphql.toml lookup)" }]

/-- The name of the command that explains the others. -/
def helpName : String :=
  "help"

/-- What the command that explains the others does. -/
def helpAbout : String :=
  "Print this message or the help of the given subcommand(s)"

end CommandForm

/-- How the value of an option is written in help. -/
def OptionForm.valueText (o : OptionForm) : String :=
  match o.valueName with
  | some name => " <" ++ name ++ ">"
  | none => ""

/-- How an option is written in help. -/
def OptionForm.text (o : OptionForm) : String :=
  let letter :=
    match o.short with
    | some c => String.ofList ['-', c, ',', ' ']
    | none => "    "
  letter ++ "--" ++ o.long ++ o.valueText

namespace CommandForm

/-- A section of help: a title, and lines of two columns. -/
def helpSection (title : String) (rows : List (String × String)) : String :=
  let width := (rows.map fun row => row.1.length).foldl max 0
  let line := fun (row : String × String) =>
    "  " ++ row.1 ++ String.ofList (List.replicate (width - row.1.length) ' ') ++ "  " ++
      row.2 ++ "\n"
  if rows.isEmpty then "" else "\n" ++ title ++ ":\n" ++ String.join (rows.map line)

/-- The lines of help on options. -/
def optionRows (form : CommandForm) : List (String × String) :=
  form.options.map (fun o => (o.text, o.about)) ++ [("-h, --help", "Print help")]

/-- The line of help that shows how a command is used. -/
def usage (form : CommandForm) (arguments : String) : String :=
  let name := if form.name.isEmpty then "" else " " ++ form.name
  let options := if form.options.all OptionForm.isRequired then "" else " [OPTIONS]"
  let required := (form.options.filter OptionForm.isRequired).map fun o =>
    " --" ++ o.long ++ o.valueText
  "Usage: " ++ programName ++ name ++ options ++ String.join required ++ arguments ++ "\n"

/-- The help of a command. -/
def help (form : CommandForm) : String :=
  let arguments := if form.project.isSome then " [PROJECT]" else ""
  form.about ++ "\n\n" ++ form.usage arguments
    ++ helpSection "Arguments" (form.project.toList.map fun about => ("[PROJECT]", about))
    ++ helpSection "Options" form.optionRows

/-- The help of the program. -/
def programHelp : String :=
  let commands := all.map (fun form => (form.name, form.about)) ++ [(helpName, helpAbout)]
  program.about ++ "\n\n" ++ program.usage " <COMMAND>" ++ helpSection "Commands" commands
    ++ helpSection "Options" program.optionRows

/-- The help of the command that explains the others. -/
def helpHelp : String :=
  helpAbout ++ "\n\nUsage: " ++ programName ++ " help [COMMAND]...\n"
    ++ helpSection "Arguments" [("[COMMAND]...", "Print help for the subcommand(s)")]

end CommandForm

end ClassApi
