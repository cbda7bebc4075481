import DocMachine.Command.Args

/-!
# Help

What the program says about its use: as a whole, or about one of its commands.
-/

namespace DocMachine.Help

open Args (Verb)

/-- Lines of two columns, the first as wide as its longest entry. -/
def columns (entries : List (String × String)) : List String :=
  let width := entries.foldl (fun width entry => max width entry.1.length) 0
  entries.map fun (name, text) =>
    "  " ++ name ++ String.ofList (List.replicate (width - name.length) ' ') ++ "  " ++ text

/-- What a command does. -/
def purpose : Verb → String
  | .run => "Load a procedure and execute it, then print the final stack"
  | .test => "Run a procedure's embedded tests"
  | .eval => "Evaluate lines in one VM and print the stack"
  | .repl => "Start an interactive REPL"

/-- The option for the settings file. -/
def configOption : String × String :=
  ("    --config <CONFIG>", "Use this config file instead of searching for zvm.toml")

/-- The option that makes a command quiet. -/
def quietOption : String × String :=
  ("-q, --quiet", "Disable the per-op console trace")

/-- The option that asks for help. -/
def helpOption : String × String := ("-h, --help", "Print help")

/-- The options of a command. -/
def optionsOf : Verb → List (String × String)
  | .run => [configOption, quietOption, helpOption]
  | .test =>
    [configOption, ("    --filter <FILTER>", "Only run tests whose name matches this regex"),
      helpOption]
  | .eval => [configOption, quietOption, helpOption]
  | .repl => [configOption, helpOption]

/-- The argument of a command. -/
def argumentOf? : Verb → Option (String × String)
  | .run => some ("<TARGET>", "Procedure URI, or a path to a local file")
  | .test => some ("<TARGET>", "Procedure URI, or a path to a local file")
  | .eval => some ("<LINES>...",
      "Literals, ops such as \x7b\"op\": \"+\"\x7d, procedure URIs or `import <module>`")
  | .repl => none

/-- Help on a command. -/
def ofVerb (verb : Verb) : List String :=
  let argument := argumentOf? verb
  [purpose verb, "",
    "Usage: zvm " ++ verb.name ++ " [OPTIONS]" ++ (argument.map (" " ++ ·.1)).getD "", ""] ++
  (match argument with
    | some entry => "Arguments:" :: columns [entry] ++ [""]
    | none => []) ++
  "Options:" :: columns (optionsOf verb)

/-- Help on the program. -/
def ofProgram : List String :=
  ["A stack machine for JSON procedures", "", "Usage: zvm [OPTIONS] <COMMAND>", "", "Commands:"] ++
  columns ([Verb.run, .test, .eval, .repl].map (fun verb => (verb.name, purpose verb)) ++
    [("help", "Print this message or the help of the given subcommand(s)")]) ++
  ["", "Options:"] ++
  columns [configOption, helpOption, ("-V, --version", "Print version")]

/-- The text of help on a command, or on the program. -/
def text (verb : Option Verb) : String :=
  String.intercalate "\n" (match verb with
    | some verb => ofVerb verb
    | none => ofProgram)

end DocMachine.Help
