import DocMachine.Proofs.Layers
import Mathlib.Logic.Function.Basic

/-!
# Requests for variables

The variables of a frame and those of its machine are resources, which the ops `get`, `put` and `del`
find by the scheme of a URI. This module shows what a request of each op comes to, in either reach.

* `Call.scopes` are the variables of both reaches, and `Call.withScope` replaces those of one.
* `Builtin.ask` is what an op does with the variables that its request names.
* `Frame.Asks`: the op that comes next asks for variables.

Results:
1. `Resource.getVariable_reads`, `Resource.putVariable_writes` and `Resource.deleteVariable_removes`: what
   is done with a variable.
2. `Frame.Asks.gets`, `Frame.Asks.puts`, `Frame.Asks.removes` and `Frame.Asks.misses`: how requests are
   served. `Frame.Asks.missed`: a removal misses a variable in no other case.
-/

namespace DocMachine

variable {ω π : Type} {host : Host ω π}

/-! ## Variables of both reaches -/

/-- The variables that a frame has on a machine. -/
def Frame.scopes (frame : Frame) (machine : Machine ω π) : Reach → Scope
  | .locals => frame.locals
  | .globals => machine.globals

/-- The call with other variables. -/
def Call.withScope (call : Call ω π) (reach : Reach) (scope : Scope) : Call ω π :=
  match reach with
  | .locals => call.withLocals scope
  | .globals => { call with machine := { call.machine with globals := scope } }

/-- The variables that the frame of a call has. -/
def Call.scopes (call : Call ω π) : Reach → Scope := call.frame.scopes call.machine

@[simp] theorem Call.stack_withScope (call : Call ω π) (reach : Reach) (scope : Scope) :
    (call.withScope reach scope).machine.stack = call.machine.stack := by
  cases reach <;> rfl

theorem Call.scopes_withScope (call : Call ω π) (reach : Reach) (scope : Scope) :
    (call.withScope reach scope).scopes = Function.update call.scopes reach scope := by
  funext other
  cases reach <;> cases other <;> rfl

namespace Resource

/-- Without further parameters than the default, that is what an absent variable has. The last one
given counts. -/
theorem record_default {rest : Scope} (only : ∀ entry ∈ rest, entry.1 = "default") :
    Param.record .null defaultField rest = .ok ((Table.get? rest.reverse "default").getD .null) := by
  have each : ∀ value, Param.record value defaultField rest =
      .ok ((Table.get? rest.reverse "default").getD value) := by
    induction rest with
    | nil => exact fun _ => rfl
    | cons entry rest ih =>
      obtain ⟨key, given⟩ := entry
      obtain rfl : key = "default" := only _ List.mem_cons_self
      intro value
      have read := ih (fun entry listed => only entry (List.mem_cons_of_mem _ listed)) given
      rw [List.reverse_cons, Table.get?_append]
      show Param.record given defaultField rest = _
      rw [read]
      cases Table.get? rest.reverse "default" <;> rfl
  exact each .null

/-- A URI that names no variable is at fault itself. -/
theorem keyOf_error {uri : String} {fault : Fault} (failed : keyOf uri = .error fault) :
    ∃ reason, fault = .invalidUri uri reason := by
  unfold keyOf parseUri at failed
  cases parsed : Url.parse uri with
  | error reason =>
    rw [parsed] at failed
    cases failed
    exact ⟨_, rfl⟩
  | ok url =>
    rw [parsed] at failed
    simp only [Except.mapError, bind, Except.bind] at failed
    generalize (if url.path.isEmpty then url.host.getD "" else url.path) = key at failed
    cases unnamed : key.isEmpty with
    | true =>
      rw [unnamed] at failed
      cases failed
      exact ⟨_, rfl⟩
    | false =>
      rw [unnamed] at failed
      cases failed

/-- What reading a variable comes to. -/
theorem getVariable_reads (reach : Reach) (uri : String) (rest : Scope) (call : Call ω π) :
    (getVariable reach uri rest).run.run call =
      match Param.record .null defaultField rest, keyOf uri with
      | .error fault, _ => (.error (.invalidParams call.op fault), call)
      | .ok _, .error fault => (.error fault, call)
      | .ok default, .ok key => (.ok (((call.scopes reach).get? key).getD default), call) := by
  unfold getVariable
  cases Param.record .null defaultField rest with
  | error fault => rfl
  | ok default =>
    show (Act.ofExcept (keyOf uri) >>= _).run.run call = _
    cases keyOf uri with
    | error fault => rfl
    | ok key => cases reach <;> rfl

/-- What writing a variable comes to. -/
theorem putVariable_writes (reach : Reach) (value : Value) (uri : String) (rest : Scope)
    (call : Call ω π) :
    (putVariable reach value uri rest).run.run call =
      match rest, keyOf uri with
      | (key, _) :: _, _ => (.error (.invalidParams call.op (.unexpected key)), call)
      | [], .error fault => (.error fault, call)
      | [], .ok key => (.ok (), call.withScope reach ((call.scopes reach).insert key value)) := by
  unfold putVariable
  cases rest with
  | cons entry rest => rfl
  | nil =>
    show (Act.ofExcept (keyOf uri) >>= _).run.run call = _
    cases keyOf uri with
    | error fault => rfl
    | ok key => cases reach <;> rfl

/-- What removing a variable comes to. -/
theorem deleteVariable_removes (reach : Reach) (uri : String) (rest : Scope) (call : Call ω π) :
    (deleteVariable reach uri rest).run.run call =
      match rest, keyOf uri with
      | (key, _) :: _, _ => (.error (.invalidParams call.op (.unexpected key)), call)
      | [], .error fault => (.error fault, call)
      | [], .ok key =>
        match (call.scopes reach).get? key with
        | none => (.error (.missingVariable reach key), call)
        | some _ => (.ok (), call.withScope reach ((call.scopes reach).erase key)) := by
  unfold deleteVariable
  cases rest with
  | cons entry rest => rfl
  | nil =>
    show (Act.ofExcept (keyOf uri) >>= _).run.run call = _
    cases keyOf uri with
    | error fault => rfl
    | ok key =>
      have read : (Act.scope reach : Act ω π Scope).run.run call = (.ok (call.scopes reach), call) := by
        cases reach <;> rfl
      show (Act.removeVariable reach key >>= fun _ => pure ()).run.run call = _
      unfold Act.removeVariable Act.readVariable
      rw [run_bind, run_bind, run_bind, read]
      simp only
      cases (call.scopes reach).get? key with
      | none => rfl
      | some value => cases reach <;> rfl

end Resource

namespace Builtin

/-- What an op does with the variables of a reach that its request names. -/
def ask (reach : Reach) (uri : String) (rest : Scope) : Builtin → Act ω π (List Value)
  | .fetch => do
    return [← Resource.getVariable reach uri rest]
  | .store => do
    let value ← Act.pop
    Resource.putVariable reach value uri rest
    return []
  | .remove => do
    Resource.deleteVariable reach uri rest
    return []
  | _ => return []

theorem act_ask {op : Builtin} {role : Role} {scope rest : Scope} {reach : Reach} {uri : String}
    {call : Call ω π} (isRole : op.role? = some role)
    (found : Resource.target call.machine.registry role scope call.op =
      .ok (.variables reach, uri, rest)) :
    (op.act host scope).run.run call = (op.ask reach uri rest).run.run call := by
  have resolved : (Resource.resolve role scope).run.run call =
      (.ok (.variables reach, uri, rest), call) := by
    rw [Resource.resolve_run, found]
  cases op with
  | fetch =>
    cases isRole
    show (Resource.resolve .getter scope >>= _).run.run call = _
    rw [run_bind, resolved]
    rfl
  | store =>
    cases isRole
    show (Resource.resolve .putter scope >>= _).run.run call = _
    rw [run_bind, resolved]
    rfl
  | remove =>
    cases isRole
    show (Resource.resolve .deleter scope >>= _).run.run call = _
    rw [run_bind, resolved]
    rfl
  | _ => cases isRole

section

variable {reach : Reach} {uri key : String} {call : Call ω π}

theorem ask_fetch {rest : Scope} {default : Value}
    (read : Param.record .null Resource.defaultField rest = .ok default)
    (names : Resource.keyOf uri = .ok key) :
    (fetch.ask reach uri rest).run.run call =
      (.ok [((call.scopes reach).get? key).getD default], call) := by
  rw [ask, run_bind, Resource.getVariable_reads, read, names]
  rfl

theorem ask_store {value : Value} {below : List Value} (names : Resource.keyOf uri = .ok key)
    (held : call.machine.stack = value :: below) :
    (store.ask reach uri []).run.run call =
      (.ok [], Call.withScope { call with machine := { call.machine with stack := below } } reach
        ((call.scopes reach).insert key value)) := by
  rw [ask, run_bind, Act.pop_run_cons held]
  simp only
  rw [run_bind, Resource.putVariable_writes, names]
  cases reach <;> rfl

theorem ask_remove_some {old : Value} (names : Resource.keyOf uri = .ok key)
    (held : (call.scopes reach).get? key = some old) :
    (remove.ask reach uri []).run.run call =
      (.ok [], call.withScope reach ((call.scopes reach).erase key)) := by
  rw [ask, run_bind, Resource.deleteVariable_removes, names]
  simp only [held]
  rfl

theorem ask_remove_none (names : Resource.keyOf uri = .ok key)
    (absent : (call.scopes reach).get? key = none) :
    (remove.ask reach uri []).run.run call = (.error (.missingVariable reach key), call) := by
  rw [ask, run_bind, Resource.deleteVariable_removes, names]
  simp only [absent]

end

end Builtin

namespace Frame

variable {frame after : Frame} {machine left : Machine ω π} {name uri key : String} {op : Builtin}
  {reach : Reach} {rest : Scope} {callee : Frame → Machine ω π → Run ω π}

/-- What taking up a built-in op comes to. -/
theorem turn_builtin {value : Value} {name : String} {params : Scope} {op : Builtin}
    (found : frame.ops[frame.pc]? = some value)
    (classified : Op.classify value = .ok (.invoke name params))
    (resolved : machine.registry.op name = .ok (.builtin op)) :
    frame.turn host callee machine =
      frame.perform (op.act host (frame.pending.extend (Op.bindings params))) name
        (machine.traceStep frame name) := by
  unfold turn
  rw [found]
  simp only
  unfold takeUp
  rw [classified]
  simp only [Op.traceName, Machine.traceStep_registry, resolved]
  rfl

/-- The op that comes next is a built-in one, called by this name, that asks for the variables of
`reach`, with these further parameters. -/
def Asks (frame : Frame) (machine : Machine ω π) (name : String) (op : Builtin) (reach : Reach)
    (uri : String) (rest : Scope) : Prop :=
  ∃ value params role, frame.ops[frame.pc]? = some value ∧
    Op.classify value = .ok (.invoke name params) ∧
    machine.registry.op name = .ok (.builtin op) ∧ op.role? = some role ∧
    Resource.target machine.registry role (frame.pending.extend (Op.bindings params)) name =
      .ok (.variables reach, uri, rest)

namespace Asks

/-- The call in which a request is served. -/
def call (frame : Frame) (machine : Machine ω π) (name : String) : Call ω π :=
  ⟨machine.traceStep frame name, frame.spent, name⟩

theorem scopes_call (frame : Frame) (machine : Machine ω π) (name : String) :
    (call frame machine name).scopes = frame.scopes machine := by
  funext reach
  cases reach with
  | locals => rfl
  | globals => exact Machine.traceStep_globals ..

theorem stack_call (frame : Frame) (machine : Machine ω π) (name : String) :
    (call frame machine name).machine.stack = machine.stack :=
  Machine.traceStep_stack ..

theorem turn (asks : frame.Asks machine name op reach uri rest) :
    frame.turn host callee machine =
      frame.perform (op.ask reach uri rest) name (machine.traceStep frame name) := by
  obtain ⟨value, params, role, found, classified, resolved, isRole, target⟩ := asks
  rw [turn_builtin found classified resolved]
  unfold perform
  rw [Builtin.act_ask isRole (by rw [Machine.traceStep_registry]; exact target)]

theorem served (asks : frame.Asks machine name op reach uri rest) {values : List Value}
    {left : Call ω π}
    (ran : (op.ask reach uri rest).run.run (call frame machine name) = (.ok values, left)) :
    frame.turn host callee machine = .next left.frame (left.machine.pushAll values) := by
  unfold call at ran
  rw [asks.turn, perform, ran]

theorem refused (asks : frame.Asks machine name op reach uri rest) {fault : Fault} {left : Call ω π}
    (ran : (op.ask reach uri rest).run.run (call frame machine name) = (.error fault, left)) :
    frame.turn host callee machine = left.frame.fail fault left.machine := by
  unfold call at ran
  rw [asks.turn, perform, ran]

end Asks

/-- A read pushes what stands under the key, or the default. -/
theorem Asks.gets (asks : frame.Asks machine name .fetch reach uri rest) {default : Value}
    (read : Param.record .null Resource.defaultField rest = .ok default)
    (names : Resource.keyOf uri = .ok key) (host : Host ω π)
    (callee : Frame → Machine ω π → Run ω π) :
    ∃ left, frame.turn host callee machine = .next frame.spent left ∧
      left.stack = ((frame.scopes machine reach).get? key).getD default :: machine.stack := by
  refine ⟨_, asks.served (Builtin.ask_fetch read names), ?_⟩
  rw [Asks.scopes_call]
  exact congrArg (_ :: ·) (Asks.stack_call frame machine name)

/-- A write takes its operand from the stack. -/
theorem Asks.puts (asks : frame.Asks machine name .store reach uri []) {value : Value}
    {below : List Value} (names : Resource.keyOf uri = .ok key)
    (held : machine.stack = value :: below) (host : Host ω π)
    (callee : Frame → Machine ω π → Run ω π) :
    ∃ after left, frame.turn host callee machine = .next after left ∧ left.stack = below := by
  have held : (Asks.call frame machine name).machine.stack = value :: below := by
    rw [Asks.stack_call, held]
  exact ⟨_, _, asks.served (Builtin.ask_store names held), Call.stack_withScope ..⟩

/-- A removal does not touch the stack. -/
theorem Asks.removes (asks : frame.Asks machine name .remove reach uri []) {old : Value}
    (names : Resource.keyOf uri = .ok key)
    (held : (frame.scopes machine reach).get? key = some old) (host : Host ω π)
    (callee : Frame → Machine ω π → Run ω π) :
    ∃ after left, frame.turn host callee machine = .next after left ∧
      left.stack = machine.stack := by
  rw [← Asks.scopes_call frame machine name] at held
  exact ⟨_, _, asks.served (Builtin.ask_remove_some names held),
    (Call.stack_withScope ..).trans (Asks.stack_call ..)⟩

/-- A removal fails if nothing stands under the key, and leaves all as it is. -/
theorem Asks.misses (asks : frame.Asks machine name .remove reach uri [])
    (names : Resource.keyOf uri = .ok key)
    (absent : (frame.scopes machine reach).get? key = none) :
    frame.turn host callee machine =
      frame.stops (.missingVariable reach key) frame.spent (machine.traceStep frame name) := by
  rw [← Asks.scopes_call frame machine name] at absent
  rw [asks.refused (Builtin.ask_remove_none names absent)]
  exact spent_fail rfl _

/-- With parameters that do not fit, or a URI that names no variable, a removal does not miss one. -/
theorem Asks.missed (asks : frame.Asks machine name .remove reach uri rest) {other : Reach}
    {key : String} {sites : List Site}
    (missed : frame.turn host callee machine =
      .stop (.failed ⟨.missingVariable other key, sites⟩) after left) :
    rest = [] ∧ Resource.keyOf uri = .ok key ∧ (frame.scopes machine reach).get? key = none := by
  have fails : ∀ fault call, fault.isTraced = false → (Builtin.remove.ask reach uri rest).run.run
      (Asks.call frame machine name) = (.error fault, call) → fault = .missingVariable other key := by
    intro fault call plain ran
    rw [asks.refused ran, fail, Failure.raised_of_plain plain] at missed
    cases missed
    rfl
  have ran : ∀ fault, fault.isTraced = false →
      (Resource.deleteVariable reach uri rest).run.run (Asks.call frame machine name) =
        (.error fault, Asks.call frame machine name) → fault = .missingVariable other key := by
    intro fault plain ran
    refine fails fault (Asks.call frame machine name) plain ?_
    rw [Builtin.ask, run_bind, ran]
  have deletes := Resource.deleteVariable_removes reach uri rest (Asks.call frame machine name)
  rw [Asks.scopes_call] at deletes
  cases rest with
  | cons entry rest => cases ran _ rfl deletes
  | nil =>
    cases names : Resource.keyOf uri with
    | error fault =>
      rw [names] at deletes
      obtain ⟨reason, rfl⟩ := Resource.keyOf_error names
      cases ran _ rfl deletes
    | ok name' =>
      cases held : (frame.scopes machine reach).get? name' with
      | none =>
        rw [asks.misses names held] at missed
        cases missed
        exact ⟨rfl, rfl, held⟩
      | some old =>
        obtain ⟨after', left', taken, -⟩ := asks.removes names held host callee
        rw [taken] at missed
        cases missed

end Frame

end DocMachine
