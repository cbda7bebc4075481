import DocMachine.Param

/-!
# Procedures

A procedure is a document with up to five sections: modules to import, procedures to include,
variables to set, ops to run, and tests. An op is an object with a string under `op`; every other
value in a run list stands for itself and is pushed.
-/

namespace DocMachine

/-- One embedded test: a stack to start from, and the stacks that may be expected at the end. A
check without an answer checks nothing. -/
structure TestCase where
  name : String := "unnamed-test"
  setup : List Value := []
  checks : List (Option (List Value)) := []

/-- A procedure document in its sections. -/
structure Procedure where
  imports : List String := []
  includes : List (String × Value) := []
  set : Scope := []
  run : List Value := []
  tests : List TestCase := []

namespace TestCase

/-- Any value at all. -/
def anything : Value → Param.Read Value := .ok

/-- The answer of a check. -/
def answer : Value → Param.Read (Option (List Value)) :=
  Param.optional (Param.sequence anything)

/-- A check: an object, or an array that gives the fields in order. -/
def check : Value → Param.Read (Option (List Value))
  | .obj fields =>
    Param.record none (fun acc key v => if key = "answer" then answer v else .ok acc) fields
  | .arr [] => .ok none
  | .arr [v] => answer v
  | .arr (v :: rest) => do
    let _ ← answer v
    throw (.tooLong (rest.length + 1))
  | other => .error (.wrongType other .check)

/-- Reads one field of a test; unknown fields are passed over. -/
def field (test : TestCase) (key : String) (v : Value) : Param.Read TestCase :=
  match key with
  | "name" => do return { test with name := ← Param.string v }
  | "setup" => do return { test with setup := ← Param.sequence anything v }
  | "checks" => do return { test with checks := ← Param.sequence check v }
  | _ => .ok test

/-- The fields of a test in the order in which an array gives them. -/
def fieldNames : List String := ["name", "setup", "checks"]

/-- A test: an object, or an array that gives the fields in order. -/
def ofValue : Value → Param.Read TestCase
  | .obj fields => Param.record {} field fields
  | .arr items => do
    let test ← Param.record {} field (fieldNames.zip items)
    if fieldNames.length < items.length then throw (.tooLong items.length)
    return test
  | other => .error (.wrongType other .testCase)

end TestCase

/-- An element of a run list. -/
inductive Op where
  | invoke (name : String) (params : Scope)
  | literal (value : Value)

namespace Op

/-- What an element of a run list stands for. -/
def classify : Value → Except ProcedureFault Op
  | .obj fields =>
    match Table.get? fields "op" with
    | some (.str name) => .ok (.invoke name fields)
    | some other => .error (.badOpName other.typeName)
    | none => .ok (.literal (.obj fields))
  | other => .ok (.literal other)

/-- The name under which traces show the element; a literal shows as the act of putting it. -/
def traceName : Op → String
  | invoke name _ => name
  | literal _ => "put"

/-- The parameters of an invocation without the op's name. -/
def bindings (params : Scope) : Scope :=
  params.filter fun entry => entry.1 ≠ "op"

/-- The op that an element of a run list invokes. -/
def name? : Value → Option String
  | .obj fields =>
    match Table.get? fields "op" with
    | some (.str name) => some name
    | _ => none
  | _ => none

end Op

namespace Procedure

/-- Reads one section; unknown sections are passed over. -/
def field (procedure : Procedure) (key : String) (v : Value) : Param.Read Procedure :=
  match key with
  | "import" => do return { procedure with imports := ← Param.sequence Param.string v }
  | "include" => do return { procedure with includes := ← Param.map v }
  | "set" => do return { procedure with set := ← Param.map v }
  | "run" => do return { procedure with run := ← Param.sequence TestCase.anything v }
  | "tests" => do return { procedure with tests := ← Param.sequence TestCase.ofValue v }
  | _ => .ok procedure

/-- Whether an entry of the include section is a URI or a document. -/
def isReference : Value → Bool
  | .str _ => true
  | .obj _ => true
  | _ => false

/-- A document as a procedure: its sections are well typed, its includes are URIs or documents, and
its run list has no object with an op that is not a string. -/
def ofValue : Value → Except ProcedureFault Procedure
  | .obj fields => do
    let procedure ← (Param.record {} field fields).mapError .field
    match procedure.includes.find? fun entry => !isReference entry.2 with
    | some (name, _) => throw (.badInclude name)
    | none => pure ()
    procedure.run.forM fun value => do
      let _ ← Op.classify value
    return procedure
  | other => .error (.notObject other.typeName)

end Procedure

end DocMachine
