import DocMachine.Command.Terminal
import DocMachine.Text.Cluster

/-!
# Interactive sessions

Lines go to a session one by one; one that fails is reported, and the session goes on. Lines that
start with a colon are commands to the session itself.
-/

namespace DocMachine.Repl

/-- The commands of a session. -/
inductive Directive where
  | quit
  | help
  | stack
  | locals
  | globals
  | ops
  | clear
  deriving DecidableEq

/-- What a line is. -/
inductive Reading where
  | line
  | unknown
  | directive (directive : Directive)
  deriving DecidableEq

/-- Tells commands from other lines. -/
def classify (line : String) : Reading :=
  match Text.trim line with
  | ":quit" => .directive .quit
  | ":q" => .directive .quit
  | ":help" => .directive .help
  | ":h" => .directive .help
  | ":stack" => .directive .stack
  | ":s" => .directive .stack
  | ":locals" => .directive .locals
  | ":globals" => .directive .globals
  | ":ops" => .directive .ops
  | ":clear" => .directive .clear
  | ":c" => .directive .clear
  | trimmed => if trimmed.toList.head? = some ':' then .unknown else .line

/-- The variable that says where the history is kept. -/
def historyVariable : String := "ZVM_REPL_HISTORY_PATH"

/-- Where the history is kept: as the surroundings say, else as the settings say, else in the user's
directory. A tilde stands for that directory, and relative paths start there. -/
def historyPath (home override configured : Option String) : Option String :=
  let given := ([override, configured].filterMap fun path => path.map Text.trim).find?
    fun path => !path.isEmpty
  match given with
  | none => home.map fun home => Path.join home ".zvm_history"
  | some path =>
    match path.toList with
    | ['~'] => home
    | '~' :: '/' :: rest => home.map fun home => Path.join home (String.ofList rest)
    | '/' :: _ => some path
    | _ => home.map fun home => Path.join home path

/-- The greeting. -/
def greet : Program Unit := do
  Program.print (Ansi.bold (Ansi.cyan "ZVM REPL v0.1.0"))
  Program.print (Ansi.gray ("Enter a JSON literal, an op such as \x7b\"op\": \"dup\"\x7d, " ++
    "a procedure URI or `import <module>`.") ++ "\n")

/-- The help text. -/
def help : Program Unit := do
  let entry (words text : String) :=
    Program.print ("  " ++ Ansi.cyan words ++ "  " ++ Ansi.gray text)
  let item (text : String) := Program.print ("  " ++ Ansi.gray ("• " ++ text))
  Program.print (Ansi.bold "Commands:")
  entry ":help, :h" "Show this help"
  entry ":quit, :q" "Exit the REPL"
  entry ":stack, :s" "Show the stack, top first"
  entry ":locals" "Show root frame locals"
  entry ":globals" "Show globals"
  entry ":ops" "List registered ops"
  entry ":clear, :c" "Empty the stack"
  Program.print ""
  Program.print (Ansi.gray "Input:")
  item "3, \"text\", [1, 2]: push a literal"
  item "\x7b\"op\": \"+\"\x7d: run an op with parameters"
  item "file:///path/proc.json: fetch and run a procedure"
  item "import zvm.http: import a host module"
  item ("History file overridable with $" ++ historyVariable)

/-- Shows the stack from the top down. -/
def showStack (stack : List Value) : Program Unit := do
  if stack.isEmpty then Program.print (Ansi.gray "(empty stack)")
  stack.zipIdx.forM fun (value, i) =>
    Program.print (Ansi.gray (toString i) ++ " " ++ Json.compact value)

/-- Shows variables. -/
def showScope (scope : Scope) : Program Unit := do
  if scope.isEmpty then Program.print (Ansi.gray "(no variables)")
  scope.forM fun (key, value) =>
    Program.print ("  " ++ Ansi.cyan key ++ " = " ++ Json.compact value)

/-- Shows the height and the top of the stack. -/
def showTop : List Value → Program Unit
  | [] => pure ()
  | top :: rest => Program.print
      (Ansi.gray ("[" ++ toString (rest.length + 1) ++ "]") ++ " " ++ Json.compact top)

/-- Carries out a command. Answers with the session to go on with, if it goes on. -/
def obey (session : CommandSession) : Directive → Program (Option CommandSession)
  | .quit => return none
  | .help => do
    help
    return some session
  | .stack => do
    showStack session.machine.stack
    return some session
  | .locals => do
    showScope session.root.locals
    return some session
  | .globals => do
    showScope session.machine.globals
    return some session
  | .ops => do
    Program.print (String.intercalate " " session.machine.registry.opNames)
    return some session
  | .clear => do
    Program.print (Ansi.gray "Stack cleared.")
    return some { session with machine := { session.machine with stack := [] } }

/-- The character that takes away the one before it. -/
def backspace : Char := '\x08'

/-- A line with each backspace taking away what a reader takes for one character. -/
def applyBackspaces (line : String) : String :=
  if line.toList.contains backspace then
    let kept := (Text.clusters line).foldl (fun kept cluster =>
      if cluster = [backspace] then kept.tail else cluster :: kept) []
    String.ofList kept.reverse.flatten
  else line

/-- Takes one line. -/
def takeLine (session : CommandSession) (line : String) : Program (Option CommandSession) := do
  if (Text.trim line).isEmpty then return some session
  match classify line with
  | .directive directive => obey session directive
  | .unknown =>
    Program.complain "unknown command. Type :help for usage."
    return some session
  | .line =>
    let (outcome, session) ←
      Program.inSession session (Session.eval Program.host Program.budget line)
    match outcome with
    | .ok _ => showTop session.machine.stack
    | .error stop => Program.complain (Program.describe stop)
    return some session

/-- Takes lines until they end, until one ends the session, or until one is no text. -/
def takeLines : CommandSession → List (List UInt8) → Program Unit
  | _, [] => pure ()
  | session, line :: rest => do
    match Text.ofUtf8 line with
    | .error _ => Program.complain FileFault.notText.message
    | .ok text =>
      match ← takeLine session (applyBackspaces text) with
      | some session => takeLines session rest
      | none => pure ()

/-- Runs an interactive session over the input. The directory of the history is made at the end. -/
def run (around : Surroundings) (config : Config) : Program Unit := do
  let session ← Program.newSession config
  greet
  takeLines session (Text.byteLines around.input)
  match (historyPath around.home around.history config.history).bind Path.parent? with
  | some directory =>
    let _ ← Program.onFiles (Files.makeDirs (directory.length + 1) directory)
  | none => pure ()

end DocMachine.Repl
