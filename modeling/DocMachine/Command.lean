import DocMachine.Command.Help
import DocMachine.Command.Repl
import DocMachine.TestRun

/-!
# Commands

`Command.execute` carries out what the command line asks for: it finds the settings, does the work
and writes what there is to say. `Program.exitCode` is the status with which the program ends.
-/

namespace DocMachine

namespace Command

/-- The program's name and version. -/
def version : String := "zvm 0.1.0"

/-- The settings to use: those of the file that was named, else those found. -/
def settings (around : Surroundings) : Option String → Program Config
  | some path => do unwrap (← Program.onFiles (Config.load path))
  | none => do unwrap (← Program.onFiles (Config.discover around.directory around.home))
where
  /-- Ends the program if there are no settings. -/
  unwrap : Except ConfigFault Config → Program Config
    | .ok config => return config
    | .error fault => Program.fail fault.message

/-- Writes a stack from the bottom up. -/
def printStack (session : CommandSession) : Program Unit :=
  session.machine.values.forM fun value => Program.print (Json.compact value)

/-- Runs a procedure and shows the final stack. -/
def runTarget (config : Config) (target : String) : Program Unit := do
  match ← Program.onFiles (Standard.targetUri target) with
  | .error fault => Program.fail fault.message
  | .ok uri =>
    let session ← Program.newSession config
    let (_, session) ← Program.orFail session (Session.eval Program.host Program.budget uri)
    printStack session

/-- Evaluates lines in one session and shows the final stack. -/
def evalLines (config : Config) (lines : List String) : Program Unit := do
  let session ← Program.newSession config
  let (_, session) ← Program.orFail session
    (lines.forM (Session.eval Program.host Program.budget))
  printStack session

/-- Reports on one test. -/
def reportOutcome (outcome : TestOutcome) : Program Unit :=
  let status := if outcome.passed then Ansi.green "✓ ok" else Ansi.red "✗ FAILED"
  Program.print ("  " ++ Ansi.gray "test" ++ " " ++ Ansi.bold outcome.name ++ " ... " ++ status)

/-- Reports why one test failed, if it did. -/
def reportFailure (outcome : TestOutcome) : Program Unit := do
  match outcome.error with
  | none => pure ()
  | some stop =>
    Program.print ("  " ++ Ansi.gray "test" ++ " " ++ Ansi.bold outcome.name ++ ":")
    (Text.lines (Program.describe stop)).forM fun line => Program.print ("    " ++ line)
    Program.print ""

/-- Reports on a test run. -/
def report (elapsed : Int) (summary : Summary) (outcomes : List TestOutcome) : Program Unit := do
  let plural := if summary.total = 1 then "" else "s"
  Program.print (Ansi.statusLabel "Running" ++ " " ++ toString summary.total ++ " test" ++ plural)
  outcomes.forM reportOutcome
  if 0 < summary.failed then
    Program.print ("\n" ++ Ansi.bold "--- FAILURES ---")
    outcomes.forM reportFailure
  let mark := if summary.isSuccess then Ansi.green "✓" else Ansi.red "✗"
  let seconds := fixedPoint (Float.ofInt elapsed / 1000.0) 2
  Program.print (mark ++ " Finished in " ++ seconds ++ "s: " ++ toString summary.passed ++
    " passed, " ++ toString summary.failed ++ " failed, " ++ toString summary.checks ++ " checks")

/-- Runs the tests of a procedure and reports on them. -/
def testTarget (around : Surroundings) (config : Config) (target : String)
    (filter : Option String) : Program Unit := do
  let terminal ← get
  let (outcome, world) :=
    Standard.runTests Standard.noGuests Program.budget config target filter terminal.world
  set { terminal with world }
  match outcome with
  | .error stop => Program.fail (Program.describe stop)
  | .ok (summary, outcomes) =>
    outcomes.forM fun outcome => outcome.error.forM Program.survive
    report around.elapsed summary outcomes
    if !summary.isSuccess then throw 1

/-- Carries out an invocation. -/
def perform (around : Surroundings) (invocation : Invocation) : Program Unit := do
  let config ← settings around invocation.config
  let hushed (quiet : Bool) : Config := if quiet then { config with console := false } else config
  match invocation.command with
  | .run target quiet => runTarget (hushed quiet) target
  | .test target filter => testTarget around config target filter
  | .eval lines quiet => evalLines (hushed quiet) lines
  | .repl => Repl.run around config

/-- Carries out what arguments ask for. -/
def execute (around : Surroundings) (args : List String) : Program Unit := do
  match Args.parse args with
  | .ok invocation => perform around invocation
  | .error .version => Program.print version
  | .error (.help verb) => Program.print (Help.text verb)
  | .error .usage =>
    modify fun terminal => { terminal with err := terminal.err.push (Help.text none) }
    throw 2

end Command

/-- The status with which a program ends. -/
def Program.exitCode : Except Nat Unit → Nat
  | .ok _ => 0
  | .error code => code

end DocMachine
