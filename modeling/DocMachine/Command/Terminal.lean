import DocMachine.Command.Ansi
import DocMachine.Standard

/-!
# Terminals

What a command works with: the world, and the two streams to which it writes lines. A command may
end early with an exit status.
-/

namespace DocMachine

/-- The surroundings of a command: the directory it starts in, the user's directory, where the
history of sessions is to be kept, the input, and the time it has taken so far in milliseconds. -/
structure Surroundings where
  directory : String := "/"
  home : Option String := none
  history : Option String := none
  input : List UInt8 := []
  elapsed : Int := 0

/-- A world and what was written so far. -/
structure Terminal where
  world : World Unit := { guest := () }
  out : Array String := #[]
  err : Array String := #[]

/-- What a command does; it may end early with an exit status. -/
abbrev Program := ExceptT Nat (StateM Terminal)

/-- The sessions of commands. -/
abbrev CommandSession := Session (World Unit) (Plug Empty)

namespace Program

/-- The handlers of the sessions of commands. -/
def host : Host (World Unit) (Plug Empty) := Standard.host Standard.noGuests

/-- The number of steps that a run may take. -/
def budget : Nat := 0x4000000000000000

/-- Writes lines. -/
def print (text : String) : Program Unit :=
  modify fun terminal => { terminal with out := terminal.out.push text }

/-- Writes lines of complaint. -/
def complain (text : String) : Program Unit :=
  modify fun terminal =>
    { terminal with err := terminal.err.push (Ansi.red "error:" ++ " " ++ text) }

/-- Complains and ends. -/
def fail {α : Type} (text : String) : Program α := do
  complain text
  throw 1

/-- The status of a program that a fault ended. -/
def crashCode : Nat := 101

/-- Ends the program, if the fault is of that kind. -/
def survive : Stop → Program Unit
  | .failed failure => do
    if failure.root.isCrash then
      modify fun terminal => { terminal with err := terminal.err.push failure.root.message }
      throw crashCode
  | .starved => pure ()

/-- Something done to the files. -/
def onFiles {α : Type} (act : StateM FileTree α) : Program α := do
  let terminal ← get
  let (a, files) := act.run terminal.world.files
  set { terminal with world := { terminal.world with files } }
  return a

/-- Why something stopped, in words. -/
def describe : Stop → String
  | .failed failure => failure.describe
  | .starved => "step budget used up"

/-- Something done in a session. The lines it traced are written, also if it ends the program. -/
def inSession {α : Type} (session : CommandSession) (task : Task (World Unit) (Plug Empty) α) :
    Program (Except Stop α × CommandSession) := do
  let terminal ← get
  let (outcome, session) := task.run.run
    { session with machine := { session.machine with world := terminal.world } }
  set { terminal with
    world := session.machine.world
    out := terminal.out ++ session.machine.lines }
  if let .error stop := outcome then survive stop
  return (outcome, { session with machine := { session.machine with lines := #[] } })

/-- Something done in a session that ends the program if it fails. -/
def orFail {α : Type} (session : CommandSession) (task : Task (World Unit) (Plug Empty) α) :
    Program (α × CommandSession) := do
  match ← inSession session task with
  | (.ok a, session) => return (a, session)
  | (.error stop, _) => fail (describe stop)

/-- A session with the modules that the settings ask for. -/
def newSession (config : Config) : Program CommandSession := do
  let session := Standard.bareSession config (Standard.registry config) (← get).world
  let (_, session) ← orFail session (Standard.preload Standard.noGuests config)
  return session

end Program

end DocMachine
