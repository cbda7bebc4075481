import DocMachine.Standard

/-!
# Test runs

Running the embedded tests of whatever a user points at: the document is fetched in a session with
the modules that the settings ask for, and its tests run over the registry of that session.
-/

namespace DocMachine.Standard

variable {ω γ : Type}

/-- The document that a user points at, and the session that fetched it. -/
def fetchTarget (guests : Plugins (World ω) (Plug γ) γ) (config : Config) (target : String)
    (world : World ω) : Except Stop Value × Session (World ω) (Plug γ) :=
  let (uri, files) := (targetUri target).run world.files
  let session := bareSession config (registry config) { world with files }
  let task : Task (World ω) (Plug γ) Value := do
    let uri ← Task.ofExcept uri
    preload guests config
    Session.fetch (host guests) uri
  task.run.run session

/-- Runs the tests of what a user points at. -/
def runTests (guests : Plugins (World ω) (Plug γ) γ) (fuel : Nat) (config : Config)
    (target : String) (filter : Option String) (world : World ω) :
    Except Stop (Summary × List TestOutcome) × World ω :=
  let (document, session) := fetchTarget guests config target world
  let world := session.machine.world
  let failed (fault : Fault) := Except.error (Stop.failed ⟨fault, []⟩)
  match document with
  | .error stop => (.error stop, world)
  | .ok document =>
    let suite : Suite (Plug γ) := { registry := session.machine.registry }
    match filter.elim (.ok suite) suite.withFilter with
    | .error fault => (failed fault, world)
    | .ok suite =>
      match suite.report (host guests) fuel document world with
      | (.error fault, world) => (failed fault, world)
      | (.ok outcomes, world) => (.ok (Summary.of outcomes, outcomes), world)

end DocMachine.Standard
