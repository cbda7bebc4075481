import DocMachine.Run
import DocMachine.Text.Lines

/-!
# Sessions

A session is a machine with its root frame, to which documents and lines are given.

* `Session.exec` loads what a document needs and runs it in the root frame.
* `Session.load` imports modules and includes procedures, which may include others in turn. A URI
  that includes itself, directly or through others, is refused.
* `Session.eval` takes one line: an import, the URI of a procedure, or a single op or literal.
* `Session.repl` takes lines until one fails.
-/

namespace DocMachine

/-- A machine, its root frame, and the URIs whose includes are being loaded, innermost first. -/
structure Session (ω π : Type) where
  machine : Machine ω π
  root : Frame := .root
  loading : List String := []

/-- What is done in a session. It may fail or use up its budget, and keeps what was changed by
then. -/
abbrev Task (ω π : Type) := ExceptT Stop (StateM (Session ω π))

namespace Task

variable {ω π : Type}

/-- Fails outside of any activation. -/
def fail {α : Type} (fault : Fault) : Task ω π α :=
  throw (.failed ⟨fault, []⟩)

/-- A computation that may fail. -/
def ofExcept {α : Type} : Except Fault α → Task ω π α
  | .ok a => pure a
  | .error fault => fail fault

/-- Changes the registry. -/
def onRegistry (change : Registry π → Registry π) : Task ω π Unit :=
  modify fun session =>
    { session with machine := { session.machine with registry := change session.machine.registry } }

/-- Something done with `uri` among the URIs being loaded; it is taken off again at the end, also
after a failure. -/
def whileLoading (uri : String) (task : Task ω π Unit) : Task ω π Unit := do
  let outer := (← get).loading
  modify fun session => { session with loading := uri :: outer }
  let outcome ← ExceptT.lift task.run
  modify fun session => { session with loading := outer }
  match outcome with
  | .ok _ => pure ()
  | .error stop => throw stop

end Task

namespace Session

variable {ω π : Type}

/-- Installs a module. What it registered before a failure stays. -/
def importModule (host : Host ω π) (name : String) : Task ω π Unit := do
  let registry := (← get).machine.registry
  match registry.modules.get? name with
  | none => Task.fail (.unknownModule name)
  | some plug =>
    -- The registry is kept also when the module fails halfway.
    let (outcome, registry) := (host.install plug).run.run registry
    Task.onRegistry fun _ => registry
    Task.ofExcept outcome

/-- The document that a URI names. The media type is told by its path. -/
def fetch (host : Host ω π) (uri : String) : Task ω π Value := do
  let url ← Task.ofExcept (Resource.parseUri uri)
  let session ← get
  let media := Media.ofPath url.path
  let plugin ← Task.ofExcept (session.machine.registry.plugin .getter url.scheme (some media.name))
  let (outcome, call) := (plugin.get host uri []).run.run ⟨session.machine, session.root, "get"⟩
  modify fun session => { session with machine := call.machine, root := call.frame }
  Task.ofExcept outcome

/-- An included document as a procedure. -/
def included (name : String) (document : Value) : Task ω π Procedure :=
  Task.ofExcept ((Procedure.ofValue document).mapError fun fault =>
    .invalidProcedure (.included name fault))

/-- Brings in a procedure that another one includes, given how procedures are loaded. -/
def bring (host : Host ω π) (load : Procedure → Task ω π Unit) (name : String) :
    Value → Task ω π Unit
  | .str uri => do
    if (← get).loading.contains uri then Task.fail (.includeCycle uri)
    let inner ← included name (← fetch host uri)
    Task.whileLoading uri (load inner)
    Task.onRegistry fun registry => registry.withProcedure name inner
  | document => do
    let inner ← included name document
    load inner
    Task.onRegistry fun registry => registry.withProcedure name inner

/-- Imports the modules and includes the procedures that a procedure asks for. The fuel bounds how
deep includes nest. -/
def load (host : Host ω π) : Nat → Procedure → Task ω π Unit
  | 0, _ => throw .starved
  | fuel + 1, procedure => do
    procedure.imports.forM (importModule host)
    procedure.includes.forM fun entry => bring host (load host fuel) entry.1 entry.2

/-- Runs a list of ops in the root frame. -/
def runRoot (host : Host ω π) (fuel : Nat) (ops : List Value) : Task ω π Unit := do
  let session ← get
  let run := (session.root.start ops).run host fuel session.machine
  set { session with machine := run.machine, root := run.frame }
  match run.outcome with
  | .ok _ => pure ()
  | .error stop => throw stop

/-- Loads what a procedure needs, sets its variables and runs it. -/
def execProcedure (host : Host ω π) (fuel : Nat) (procedure : Procedure) : Task ω π Unit := do
  load host fuel procedure
  modify fun session =>
    { session with
      root := { session.root with locals := session.root.locals.extend procedure.set } }
  runRoot host fuel procedure.run

/-- Runs a document. -/
def exec (host : Host ω π) (fuel : Nat) (document : Value) : Task ω π Unit := do
  let procedure ← Task.ofExcept ((Procedure.ofValue document).mapError .invalidProcedure)
  execProcedure host fuel procedure

/-- Whether a line is the URI of a procedure. -/
def isProcedureUri (line : String) : Bool :=
  match Url.parse line with
  | .ok url => !url.scheme.isEmpty && !url.path.isEmpty
  | .error _ => false

/-- The module that a line imports. -/
def importOf? (line : String) : Option String :=
  let word := "import ".toList
  if word.isPrefixOf line.toList then
    some (Text.trim (String.ofList (line.toList.drop word.length)))
  else none

/-- Evaluates one line. Blanks around it do not count, and a blank line does nothing. -/
def eval (host : Host ω π) (fuel : Nat) (line : String) : Task ω π Unit := do
  let line := Text.trim line
  if line.isEmpty then pure ()
  else
    match importOf? line with
    | some name => importModule host name
    | none =>
      if isProcedureUri line then exec host fuel (← fetch host line)
      else
        match parseLiteral? line with
        | some op => runRoot host fuel [op]
        | none => Task.fail (.codec .json)

/-- Evaluates the lines of an input up to the first that fails. -/
def repl (host : Host ω π) (fuel : Nat) (bytes : List UInt8) : Task ω π Unit :=
  (Text.byteLines bytes).forM fun line => do
    match Text.ofUtf8 line with
    | .ok line => eval host fuel line
    | .error _ => Task.fail (.provider "<input>" "stream did not contain valid UTF-8")

end Session

end DocMachine
