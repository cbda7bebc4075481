import DocMachine.Pattern.Parser
import DocMachine.Session

/-!
# Embedded tests

A procedure may carry tests. Each runs the whole procedure in a fresh session, from the test's own
stack, and compares the final stack with the expected ones.

* `Suite.report` runs every selected test and tells how each went.
* `Suite.run` stops at the first test that fails, and counts the checks that passed.
* `Summary.of` adds a report up.
-/

namespace DocMachine

/-- How one test went: the checks that passed, and what stopped it. -/
structure TestOutcome where
  name : String
  checks : Nat := 0
  error : Option Stop := none

namespace TestOutcome

/-- Whether nothing stopped the test. -/
def passed (outcome : TestOutcome) : Bool := outcome.error.isNone

end TestOutcome

/-- Tests against a registry. A filter keeps the tests whose names it matches. -/
structure Suite (π : Type) where
  registry : Registry π
  filter : Option Pattern := none

namespace Suite

variable {ω π : Type}

/-- The suite that keeps only the tests whose names begin with a match of the pattern. -/
def withFilter (suite : Suite π) (text : String) : Except Fault (Suite π) :=
  match Pattern.startingWith? text with
  | some pattern => .ok { suite with filter := some pattern }
  | none => .error .invalidFilter

/-- Whether a test of the given name is run. -/
def selects (suite : Suite π) (name : String) : Bool :=
  suite.filter.all fun pattern => pattern.occursIn name

/-- The tests of a procedure that are run. -/
def selected (suite : Suite π) (procedure : Procedure) : List TestCase :=
  procedure.tests.filter fun test => suite.selects test.name

/-- Compares a final stack with the answers of a test's checks, of which `index` is the first one.
Tells how many checks passed before the first that did not. -/
def judge (name : String) (actual : List Value) :
    Nat → List (Option (List Value)) → TestOutcome
  | _, [] => { name }
  | index, none :: rest => judge name actual (index + 1) rest
  | index, some expected :: rest =>
    if Value.sameItems expected actual then
      let later := judge name actual (index + 1) rest
      { later with checks := later.checks + 1 }
    else
      let fault := Fault.checkFailed name index expected actual
      { name, error := some (.failed ⟨fault, []⟩) }

/-- A fresh session for a test. -/
def session (suite : Suite π) (test : TestCase) (world : ω) : Session ω π :=
  { machine :=
      { stack := test.setup.reverse, registry := suite.registry, console := false, world } }

/-- Runs one test. What it did to the world stays. -/
def runOne (host : Host ω π) (fuel : Nat) (suite : Suite π) (procedure : Procedure)
    (test : TestCase) (world : ω) : TestOutcome × ω :=
  let (outcome, session) :=
    (Session.execProcedure host fuel procedure).run.run (suite.session test world)
  match outcome with
  | .ok _ => (judge test.name session.machine.values 0 test.checks, session.machine.world)
  | .error stop => ({ name := test.name, error := some stop }, session.machine.world)

/-- Runs tests one after the other. -/
def runAll (host : Host ω π) (fuel : Nat) (suite : Suite π) (procedure : Procedure) :
    List TestCase → ω → List TestOutcome × ω
  | [], world => ([], world)
  | test :: rest, world =>
    let (outcome, world) := runOne host fuel suite procedure test world
    let (later, world) := runAll host fuel suite procedure rest world
    (outcome :: later, world)

/-- Runs tests up to the first that fails. Counts the checks that passed. -/
def runWhile (host : Host ω π) (fuel : Nat) (suite : Suite π) (procedure : Procedure) :
    Nat → List TestCase → ω → Except Stop Nat × ω
  | passed, [], world => (.ok passed, world)
  | passed, test :: rest, world =>
    let (outcome, world) := runOne host fuel suite procedure test world
    match outcome.error with
    | some stop => (.error stop, world)
    | none => runWhile host fuel suite procedure (passed + outcome.checks) rest world

/-- A document as a procedure. -/
def procedureOf (document : Value) : Except Fault Procedure :=
  (Procedure.ofValue document).mapError .invalidProcedure

/-- Runs every selected test of a document. -/
def report (host : Host ω π) (fuel : Nat) (suite : Suite π) (document : Value) (world : ω) :
    Except Fault (List TestOutcome) × ω :=
  match procedureOf document with
  | .error fault => (.error fault, world)
  | .ok procedure =>
    let (outcomes, world) := runAll host fuel suite procedure (suite.selected procedure) world
    (.ok outcomes, world)

/-- Runs the selected tests of a document up to the first that fails. -/
def run (host : Host ω π) (fuel : Nat) (suite : Suite π) (document : Value) (world : ω) :
    Except Stop Nat × ω :=
  match procedureOf document with
  | .error fault => (.error (.failed ⟨fault, []⟩), world)
  | .ok procedure => runWhile host fuel suite procedure 0 (suite.selected procedure) world

end Suite

/-- A report in numbers. -/
structure Summary where
  total : Nat
  passed : Nat
  failed : Nat
  checks : Nat
  deriving DecidableEq

namespace Summary

/-- Adds a report up. -/
def of (outcomes : List TestOutcome) : Summary :=
  let passed := outcomes.countP TestOutcome.passed
  { total := outcomes.length
    passed
    failed := outcomes.length - passed
    checks := outcomes.foldl (fun n outcome => n + outcome.checks) 0 }

/-- Whether no test failed. -/
def isSuccess (summary : Summary) : Bool := summary.failed == 0

end Summary

end DocMachine
