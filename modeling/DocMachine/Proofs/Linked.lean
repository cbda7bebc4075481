import DocMachine.Proofs.Includes
import DocMachine.Proofs.Requests
import DocMachine.Proofs.Steps
import Mathlib

/-!
# Linked activations

The meaning of programs whose activations do not copy variables but are linked to their callers. It
is the meaning of the machine all the same: what a program reads, whether it finds what it removes,
and what it leaves do not tell the two apart.

* `Linked` is an activation with its chain of layers, and `Linked.run` runs it.
* `Linked.Shows`: the activation is the same as one with a copied scope.
* `Linked.Visits` follows a run into the activations that it calls.
* `Edit` is a change of a local variable, and `Frame.edits` are the changes that the ops of an
  activation make, without those of the activations that it calls.

Results:
1. `Linked.run_shows`: a linked run does what the run on copied scopes does.
2. `Linked.visits_shows`: it visits the same states.
3. `Frame.run_locals`: an activation's variables change by its own edits only.
4. `Session.exec_linked`: all this of running a document.
-/

namespace DocMachine

variable {ω π : Type} {host : Host ω π}

/-- An activation with its chain of layers, of which the first is its own. Its frame holds no
variables. -/
structure Linked where
  frame : Frame
  layers : List Layer

/-- A linked run: its outcome, and what it left. -/
structure LinkedRun (ω π : Type) where
  outcome : Except Stop Unit
  linked : Linked
  machine : Machine ω π

/-- What comes of taking up the next op of a linked activation. -/
inductive LinkedTurn (ω π : Type) where
  | ended
  | next (linked : Linked) (machine : Machine ω π)
  | stop (stop : Stop) (linked : Linked) (machine : Machine ω π)

namespace Linked

/-- The first activation, whose layer holds the variables of a frame. -/
def ofFrame (frame : Frame) : Linked :=
  ⟨{ frame with locals := [] }, [Layer.ofScope frame.locals]⟩

/-- The activation as traces see it: of its variables, the one that turns the console off. -/
def shown (linked : Linked) : Frame :=
  { linked.frame with
    locals := ((Layer.see linked.layers "logging").map fun value => ("logging", value)).toList }

/-- The activation of a procedure called from `linked`. Its own layer holds the procedure's settings,
overlaid by the bindings of the call, and is linked to the layers of the caller. -/
def child (linked : Linked) (name : String) (procedure : Procedure) (bindings : Scope) : Linked where
  frame := { name, depth := linked.frame.depth + 1, ops := procedure.run }
  layers := Layer.ofScope ((Table.ofEntries procedure.set).extend bindings) :: linked.layers

/-- The turn of a fault at the op that the activation has taken up and at which it was left. -/
def fail (left : Linked) (fault : Fault) (machine : Machine ω π) : LinkedTurn ω π :=
  .stop (.failed (.raised fault left.frame.taken)) left machine

/-- Runs a handler and pushes its answer. -/
def perform (act : LayerAct ω π (List Value)) (name : String) (linked : Linked)
    (machine : Machine ω π) : LinkedTurn ω π :=
  match act.run.run (⟨machine, linked.frame.spent, name⟩, linked.layers) with
  | (.ok values, call, layers) => .next ⟨call.frame, layers⟩ (call.machine.pushAll values)
  | (.error fault, call, layers) => fail ⟨call.frame, layers⟩ fault call.machine

/-- Runs a callee, called from `linked`. The caller goes on with the layers that it is linked to. -/
def enter (callee : Linked → Machine ω π → LinkedRun ω π) (linked child : Linked)
    (machine : Machine ω π) : LinkedTurn ω π :=
  if machine.maxDepth < child.frame.depth then
    fail ⟨linked.frame.spent, linked.layers⟩ (.stackOverflow machine.maxDepth) machine
  else
    let inner := callee child (machine.emit (.enter child.frame.name child.frame.depth))
    let back : Linked := ⟨linked.frame.spent, inner.linked.layers.tail⟩
    match inner.outcome with
    | .ok _ => .next back (inner.machine.emit (.exit child.frame.name child.frame.depth))
    | .error (.failed failure) =>
      .stop (.failed (failure.through back.frame.taken)) back inner.machine
    | .error .starved => .stop .starved back inner.machine

/-- Runs an op by its handler. -/
def dispatch (host : Host ω π) (callee : Linked → Machine ω π → LinkedRun ω π) (name : String)
    (bound : Scope) (handler : Handler π) (linked : Linked) (machine : Machine ω π) :
    LinkedTurn ω π :=
  match handler with
  | .builtin op => linked.perform (LayerAct.ofOp host op bound) name machine
  | .foreign plug => linked.perform (LayerAct.plain (host.op plug bound)) name machine
  | .procedure procedure => linked.enter callee (linked.child name procedure bound) machine

/-- Takes up an element of a run list. -/
def takeUp (host : Host ω π) (callee : Linked → Machine ω π → LinkedRun ω π) (value : Value)
    (linked : Linked) (machine : Machine ω π) : LinkedTurn ω π :=
  match Op.classify value with
  | .error fault => fail ⟨linked.frame.advance, linked.layers⟩ (.invalidProcedure fault) machine
  | .ok (.literal value) =>
    let machine := machine.traceStep linked.shown (Op.literal value).traceName
    .next ⟨linked.frame.advance, linked.layers⟩ (machine.pushAll [value])
  | .ok (.invoke name params) =>
    let machine := machine.traceStep linked.shown (Op.invoke name params).traceName
    match machine.registry.op name with
    | .error fault => fail ⟨linked.frame.advance, linked.layers⟩ fault machine
    | .ok handler =>
      linked.dispatch host callee name (linked.frame.pending.extend (Op.bindings params)) handler
        machine

/-- Takes up the op at the activation's program counter. -/
def turn (host : Host ω π) (callee : Linked → Machine ω π → LinkedRun ω π) (linked : Linked)
    (machine : Machine ω π) : LinkedTurn ω π :=
  match linked.frame.ops[linked.frame.pc]? with
  | none => .ended
  | some value => linked.takeUp host callee value machine

/-- Runs the ops of an activation from its program counter on. -/
def run (host : Host ω π) : Nat → Linked → Machine ω π → LinkedRun ω π
  | 0, linked, machine => ⟨.error .starved, linked, machine⟩
  | fuel + 1, linked, machine =>
    match linked.turn host (run host fuel) machine with
    | .ended => ⟨.ok (), linked, machine⟩
    | .next linked machine => run host fuel linked machine
    | .stop stop linked machine => ⟨.error stop, linked, machine⟩

/-- One step of an activation, whatever its callees cost. -/
def Steps (host : Host ω π) (before after : Linked × Machine ω π) : Prop :=
  ∃ fuel, before.1.turn host (run host fuel) before.2 = .next after.1 after.2

/-- Any number of steps of an activation. -/
abbrev Reaches (host : Host ω π) : Linked × Machine ω π → Linked × Machine ω π → Prop :=
  Relation.ReflTransGen (Steps host)

/-- Taking up its next op, `linked` calls a procedure, which starts as `child`. -/
def Calls (linked : Linked) (machine : Machine ω π) (child : Linked × Machine ω π) : Prop :=
  ∃ value name params procedure, linked.frame.ops[linked.frame.pc]? = some value ∧
    Op.classify value = .ok (.invoke name params) ∧
    machine.registry.op name = .ok (.procedure procedure) ∧
    child.1 = linked.child name procedure (linked.frame.pending.extend (Op.bindings params)) ∧
    child.2 = (machine.traceStep linked.shown name).emit
      (.enter child.1.frame.name child.1.frame.depth)

/-- A run from `start` comes to a state of its own activation, or of one that it calls. -/
inductive Visits (host : Host ω π) : Linked × Machine ω π → Linked × Machine ω π → Prop
  | own {start state : Linked × Machine ω π} : Reaches host start state → Visits host start state
  | call {start state child inner : Linked × Machine ω π} : Reaches host start state →
      state.1.Calls state.2 child → child.1.frame.depth ≤ state.2.maxDepth →
      Visits host child inner → Visits host start inner

end Linked

/-! ## The same activation -/

/-- The handler that comes next neither looks at the local variables nor changes them, unless by
built-in ops on resources. -/
def Handler.IsBlind (host : Host ω π) (registry : Registry π) (scope : Scope) : Handler π → Prop
  | .builtin op => op.IsBlind host registry scope
  | .foreign plug => (host.op plug scope).Blind
  | .procedure _ => True

/-- What the op that comes next reaches of foreign handlers is blind. -/
def Frame.TakesBlind (host : Host ω π) (frame : Frame) (machine : Machine ω π) : Prop :=
  ∀ value name params handler, frame.ops[frame.pc]? = some value →
    Op.classify value = .ok (.invoke name params) → machine.registry.op name = .ok handler →
    handler.IsBlind host machine.registry (frame.pending.extend (Op.bindings params))

/-- The linked activation is the same as one with a copied scope. Around its own layer are those of
its callers. -/
structure Linked.Shows (outer : List Layer) (linked : Linked) (frame : Frame) : Prop where
  bare : linked.frame = { frame with locals := [] }
  layers : Layer.Shows outer linked.layers frame.locals

/-- The linked turn is the same as one on copied scopes. -/
inductive LinkedTurn.Shows (outer : List Layer) : LinkedTurn ω π → Turn ω π → Prop
  | ended : Shows outer .ended .ended
  | next {linked : Linked} {frame : Frame} (machine : Machine ω π) : linked.Shows outer frame →
      Shows outer (.next linked machine) (.next frame machine)
  | stop (reason : Stop) {linked : Linked} {frame : Frame} (machine : Machine ω π) :
      linked.Shows outer frame →
      Shows outer (.stop reason linked machine) (.stop reason frame machine)

/-- The linked run is the same as one on copied scopes. -/
structure LinkedRun.Shows (outer : List Layer) (linked : LinkedRun ω π) (run : Run ω π) : Prop where
  outcome : linked.outcome = run.outcome
  machine : linked.machine = run.machine
  left : linked.linked.Shows outer run.frame

namespace Linked

variable {outer : List Layer} {linked : Linked} {frame : Frame} {machine : Machine ω π}

theorem Shows.spent (shows : linked.Shows outer frame) :
    Shows outer ⟨linked.frame.spent, linked.layers⟩ frame.spent :=
  ⟨by rw [shows.bare]; rfl, shows.layers⟩

theorem Shows.advance (shows : linked.Shows outer frame) :
    Shows outer ⟨linked.frame.advance, linked.layers⟩ frame.advance :=
  ⟨by rw [shows.bare]; rfl, shows.layers⟩

theorem Shows.child (shows : linked.Shows outer frame) (name : String) (procedure : Procedure)
    (bound : Scope) :
    (linked.child name procedure bound).Shows linked.layers (frame.child name procedure bound) :=
  ⟨by rw [Linked.child, shows.bare]; rfl, shows.layers.call procedure.set bound⟩

/-- A linked activation fails where the one with a copied scope does. -/
theorem Shows.fail (shows : linked.Shows outer frame) (fault : Fault) (machine : Machine ω π) :
    LinkedTurn.Shows outer (linked.fail fault machine) (frame.fail fault machine) := by
  have taken : linked.frame.taken = frame.taken := by
    rw [shows.bare]
    rfl
  rw [Linked.fail, taken]
  exact .stop _ _ shows

/-- Traces see the same of both activations. -/
theorem Shows.traceStep (shows : linked.Shows outer frame) (machine : Machine ω π) (op : String) :
    machine.traceStep linked.shown op = machine.traceStep frame op := by
  have logging : linked.shown.locals.get? "logging" = frame.locals.get? "logging" := by
    rw [← shows.layers.same]
    show Table.get? ((Layer.see linked.layers "logging").map fun value => ("logging", value)).toList
      "logging" = _
    cases Layer.see linked.layers "logging" with
    | none => rfl
    | some value => simp [Table.get?]
  have enabled : machine.consoleEnabled linked.shown = machine.consoleEnabled frame := by
    rw [Machine.consoleEnabled, Machine.consoleEnabled, logging]
  have event : machine.stepEvent linked.shown op = machine.stepEvent frame op := by
    show Event.step linked.frame.name linked.frame.depth linked.frame.pc _ _ = _
    rw [shows.bare]
    rfl
  rw [Machine.traceStep, Machine.traceStep, Machine.writeStep, Machine.writeStep, enabled, event]

theorem perform_shows (shows : linked.Shows outer frame) {act : Act ω π (List Value)}
    {act' : LayerAct ω π (List Value)} (name : String)
    (agrees : act'.Agrees act ⟨machine, frame.spent, name⟩) :
    LinkedTurn.Shows outer (linked.perform act' name machine) (frame.perform act name machine) := by
  obtain ⟨layers, same, shows'⟩ := agrees outer linked.layers shows.layers
  have begun : (⟨machine, linked.frame.spent, name⟩ : Call ω π) =
      Call.withLocals ⟨machine, frame.spent, name⟩ [] := by
    rw [shows.bare]
    rfl
  unfold perform Frame.perform
  rw [begun, same]
  cases ran : act.run.run ⟨machine, frame.spent, name⟩ with
  | mk outcome left =>
    rw [ran] at shows'
    cases outcome with
    | ok values => exact .next _ ⟨rfl, shows'⟩
    | error fault =>
      exact Shows.fail ⟨rfl, shows'⟩ fault _

theorem enter_shows (shows : linked.Shows outer frame)
    {callee : Frame → Machine ω π → Run ω π} {callee' : Linked → Machine ω π → LinkedRun ω π}
    {child : Frame} {child' : Linked} (showsChild : child'.Shows linked.layers child)
    (inner : child.depth ≤ machine.maxDepth →
      let started := machine.emit (.enter child.name child.depth)
      LinkedRun.Shows linked.layers (callee' child' started) (callee child started)) :
    LinkedTurn.Shows outer (linked.enter callee' child' machine)
      (frame.enter callee child machine) := by
  have depth : child'.frame.depth = child.depth := by rw [showsChild.bare]
  have name : child'.frame.name = child.name := by rw [showsChild.bare]
  unfold enter Frame.enter
  rw [depth, name]
  split
  · exact shows.spent.fail _ machine
  · next shallow =>
    obtain ⟨outcome, left, ⟨-, ⟨own, layers⟩, -, -⟩⟩ := inner (Nat.le_of_not_lt shallow)
    -- The callee has changed its own layer only.
    have back : Shows outer ⟨linked.frame.spent, (callee' child'
        (machine.emit (.enter child.name child.depth))).linked.layers.tail⟩ frame.spent := by
      rw [layers]
      exact shows.spent
    simp only [outcome, left]
    cases (callee child (machine.emit (.enter child.name child.depth))).outcome with
    | ok _ => exact .next _ back
    | error reason =>
      cases reason with
      | failed failure =>
        have taken : linked.frame.spent.taken = frame.spent.taken := by
          rw [shows.bare]
          rfl
        simp only [taken]
        exact .stop _ _ back
      | starved => exact .stop _ _ back

/-- A linked activation takes up the next op as one with a copied scope does, if callees are run
alike. -/
theorem turn_shows (shows : linked.Shows outer frame) {callee : Frame → Machine ω π → Run ω π}
    {callee' : Linked → Machine ω π → LinkedRun ω π} (takes : frame.TakesBlind host machine)
    (inner : ∀ (child : Frame × Machine ω π) (child' : Linked), frame.Calls machine child →
      child.1.depth ≤ machine.maxDepth → child'.Shows linked.layers child.1 →
        LinkedRun.Shows linked.layers (callee' child' child.2) (callee child.1 child.2)) :
    LinkedTurn.Shows outer (linked.turn host callee' machine) (frame.turn host callee machine) := by
  have ops : linked.frame.ops[linked.frame.pc]? = frame.ops[frame.pc]? := by rw [shows.bare]
  have pending : linked.frame.pending = frame.pending := by rw [shows.bare]
  unfold turn Frame.turn
  rw [ops]
  cases found : frame.ops[frame.pc]? with
  | none => exact .ended
  | some value =>
    simp only
    unfold takeUp Frame.takeUp
    cases classified : Op.classify value with
    | error fault => exact shows.advance.fail _ machine
    | ok op =>
      cases op with
      | literal value =>
        simp only [shows.traceStep]
        exact .next _ shows.advance
      | invoke name params =>
        simp only [shows.traceStep, Machine.traceStep_registry, pending]
        cases resolved : machine.registry.op name with
        | error fault => exact shows.advance.fail fault _
        | ok handler =>
          have blind := takes value name params handler found classified resolved
          rw [← machine.traceStep_registry frame (Op.invoke name params).traceName] at blind
          cases handler with
          | builtin op => exact perform_shows shows name (Builtin.act_agrees blind)
          | foreign plug => exact perform_shows shows name (.plain blind)
          | procedure procedure =>
            refine enter_shows shows (shows.child name procedure _) fun shallow => ?_
            rw [Machine.traceStep_maxDepth] at shallow
            exact inner (_, _) _ ⟨value, name, params, procedure, found, classified, resolved, rfl, rfl⟩
              shallow (shows.child name procedure _)

/-- A linked run does what the run on copied scopes does. -/
theorem run_shows (fuel : Nat) (shows : linked.Shows outer frame)
    (takes : ∀ state, Frame.Visits host (frame, machine) state → state.1.TakesBlind host state.2) :
    LinkedRun.Shows outer (linked.run host fuel machine) (frame.run host fuel machine) := by
  induction fuel generalizing outer linked frame machine with
  | zero => exact ⟨rfl, rfl, shows⟩
  | succ fuel ih =>
    have turned : LinkedTurn.Shows outer (linked.turn host (run host fuel) machine)
        (frame.turn host (Frame.run host fuel) machine) :=
      turn_shows shows (takes _ (.own .refl)) fun child child' calls shallow shows' =>
        ih shows' fun state visits => takes state (.call .refl calls shallow visits)
    rw [Frame.run_succ, run]
    cases taken : frame.turn host (Frame.run host fuel) machine with
    | ended =>
      rw [taken] at turned
      generalize linked.turn host (run host fuel) machine = other at turned
      cases turned
      exact ⟨rfl, rfl, shows⟩
    | next after left =>
      rw [taken] at turned
      have step : Frame.Steps host (frame, machine) (after, left) := ⟨fuel, taken⟩
      generalize linked.turn host (run host fuel) machine = other at turned
      cases turned with
      | next _ shows' => exact ih shows' fun state visits => takes state (visits.after step)
    | stop reason after left =>
      rw [taken] at turned
      generalize linked.turn host (run host fuel) machine = other at turned
      cases turned with
      | stop _ _ shows' => exact ⟨rfl, rfl, shows'⟩

/-- Steps of an activation are steps of the linked one. -/
theorem reaches_shows (shows : linked.Shows outer frame)
    (takes : ∀ state, Frame.Visits host (frame, machine) state → state.1.TakesBlind host state.2)
    {state : Frame × Machine ω π} (reach : Frame.Reaches host (frame, machine) state) :
    ∃ other, Reaches host (linked, machine) (other, state.2) ∧ other.Shows outer state.1 := by
  induction reach with
  | refl => exact ⟨linked, .refl, shows⟩
  | @tail middle next reach step ih =>
    obtain ⟨other, reach', shows'⟩ := ih
    obtain ⟨fuel, taken⟩ := step
    have turned : LinkedTurn.Shows outer (other.turn host (run host fuel) middle.2)
        (middle.1.turn host (Frame.run host fuel) middle.2) :=
      turn_shows shows' (takes _ (.own reach)) fun child child' calls shallow shows'' =>
        run_shows fuel shows'' fun state visits => takes state (.call reach calls shallow visits)
    rw [taken] at turned
    cases turned' : other.turn host (run host fuel) middle.2 with
    | next after left =>
      rw [turned'] at turned
      cases turned with
      | next _ shows'' => exact ⟨after, reach'.tail ⟨fuel, turned'⟩, shows''⟩
    | ended =>
      rw [turned'] at turned
      cases turned
    | stop _ _ _ =>
      rw [turned'] at turned
      cases turned

theorem Shows.calls (shows : linked.Shows outer frame) {child : Frame × Machine ω π}
    (calls : frame.Calls machine child) :
    ∃ child', linked.Calls machine (child', child.2) ∧ child'.Shows linked.layers child.1 := by
  obtain ⟨value, name, params, procedure, found, classified, resolved, isChild, isMachine⟩ := calls
  have pending : linked.frame.pending = frame.pending := by rw [shows.bare]
  refine ⟨linked.child name procedure (frame.pending.extend (Op.bindings params)),
    ⟨value, name, params, procedure, by rw [shows.bare]; exact found, classified, resolved,
      by rw [pending], ?_⟩, by rw [isChild]; exact shows.child name procedure _⟩
  rw [isMachine, isChild, shows.traceStep]
  show _ = Machine.emit _ (.enter name (linked.frame.depth + 1))
  rw [shows.bare]
  rfl

/-- A linked run visits the states that the run on copied scopes visits. -/
theorem visits_shows (shows : linked.Shows outer frame)
    (takes : ∀ state, Frame.Visits host (frame, machine) state → state.1.TakesBlind host state.2)
    {state : Frame × Machine ω π} (visits : Frame.Visits host (frame, machine) state) :
    ∃ outer' other, Visits host (linked, machine) (other, state.2) ∧
      other.Shows outer' state.1 := by
  generalize begun : (frame, machine) = start at visits
  induction visits generalizing outer linked frame machine with
  | own reach =>
    subst begun
    obtain ⟨other, reach', shows'⟩ := reaches_shows shows takes reach
    exact ⟨outer, other, .own reach', shows'⟩
  | call reach calls shallow _ ih =>
    subst begun
    obtain ⟨other, reach', shows'⟩ := reaches_shows shows takes reach
    obtain ⟨child', calls', showsChild⟩ := shows'.calls calls
    obtain ⟨outer', last, visits', shows''⟩ := ih showsChild
      (fun state visits => takes state (.call reach calls shallow visits)) rfl
    refine ⟨outer', last, .call reach' calls' ?_ visits', shows''⟩
    show child'.frame.depth ≤ _
    rw [showsChild.bare]
    exact shallow

end Linked

/-! ## Requests for local variables -/

/-- The op that comes next is a built-in one that asks for a local variable, with these further
parameters. -/
def Frame.Requests (frame : Frame) (machine : Machine ω π) (op : Builtin) (key : String)
    (rest : Scope) : Prop :=
  ∃ value name params role uri, frame.ops[frame.pc]? = some value ∧
    Op.classify value = .ok (.invoke name params) ∧
    machine.registry.op name = .ok (.builtin op) ∧ op.role? = some role ∧
    Resource.target machine.registry role (frame.pending.extend (Op.bindings params)) name =
      .ok (.variables .locals, uri, rest) ∧ Resource.keyOf uri = .ok key

namespace Resource

/-- A read changes nothing. -/
theorem getVariable_keeps (reach : Reach) (uri : String) (rest : Scope) (call : Call ω π) :
    ((getVariable reach uri rest).run.run call).2 = call := by
  rw [getVariable_reads]
  cases Param.record .null defaultField rest with
  | error fault => rfl
  | ok default => cases keyOf uri <;> rfl

end Resource

namespace Frame

variable {frame : Frame} {machine : Machine ω π} {callee : Frame → Machine ω π → Run ω π}
  {key : String} {rest : Scope}

theorem Requests.asks {op : Builtin} (requests : frame.Requests machine op key rest) :
    ∃ name uri, frame.Asks machine name op .locals uri rest ∧ Resource.keyOf uri = .ok key := by
  obtain ⟨value, name, params, role, uri, found, classified, resolved, isRole, target, names⟩ :=
    requests
  exact ⟨name, uri, ⟨value, params, role, found, classified, resolved, isRole, target⟩, names⟩

/-- A read of a local variable pushes its value, or the default if there is none. -/
theorem Requests.gets (requests : frame.Requests machine .fetch key rest) {default : Value}
    (read : Param.record .null Resource.defaultField rest = .ok default) :
    ∃ left, frame.turn host callee machine = .next frame.spent left ∧
      left.stack = (frame.locals.get? key).getD default :: machine.stack := by
  obtain ⟨name, uri, asks, names⟩ := requests.asks
  exact asks.gets read names host callee

/-- A removal of a local variable fails exactly if there is none. -/
theorem Requests.removes (requests : frame.Requests machine .remove key []) :
    (frame.locals.get? key = none → ∃ after left, frame.turn host callee machine =
      .stop (.failed ⟨.missingVariable .locals key, [frame.site]⟩) after left) ∧
    (frame.locals.get? key ≠ none →
      ∃ after left, frame.turn host callee machine = .next after left) := by
  obtain ⟨name, uri, asks, names⟩ := requests.asks
  constructor
  · intro absent
    exact ⟨_, _, asks.misses names absent⟩
  · intro present
    obtain ⟨old, held⟩ := Option.ne_none_iff_exists'.mp present
    obtain ⟨after, left, taken, -⟩ := asks.removes names held host callee
    exact ⟨after, left, taken⟩

end Frame

/-- What an activation reads and removes of local variables next is what the linked one sees along its
chain. -/
structure Linked.Answers (host : Host ω π) (linked : Linked) (frame : Frame)
    (machine : Machine ω π) : Prop where
  gets : ∀ {key rest default} callee, frame.Requests machine .fetch key rest →
    Param.record .null Resource.defaultField rest = .ok default →
      ∃ left, frame.turn host callee machine = .next frame.spent left ∧
        left.stack = (Layer.see linked.layers key).getD default :: machine.stack
  hidden : ∀ {key} callee, frame.Requests machine .remove key [] →
    Layer.see linked.layers key = none → ∃ after left, frame.turn host callee machine =
      .stop (.failed ⟨.missingVariable .locals key, [frame.site]⟩) after left
  seen : ∀ {key} callee, frame.Requests machine .remove key [] →
    Layer.see linked.layers key ≠ none → ∃ after left, frame.turn host callee machine =
      .next after left

theorem Linked.Shows.answers {outer : List Layer} {linked : Linked} {frame : Frame}
    (shows : linked.Shows outer frame) (machine : Machine ω π) :
    linked.Answers host frame machine where
  gets _ requests read := by
    rw [shows.layers.same]
    exact requests.gets read
  hidden _ requests absent := requests.removes.1 (by rwa [← shows.layers.same])
  seen _ requests present := requests.removes.2 (by rwa [← shows.layers.same])

/-! ## Edits -/

/-- A change of a local variable. -/
inductive Edit where
  | put (key : String) (value : Value)
  | remove (key : String)

namespace Edit

/-- The variables after an edit. -/
def apply (scope : Scope) : Edit → Scope
  | put key value => scope.insert key value
  | remove key => scope.erase key

/-- The variables after an edit, if there is one. -/
def applyOption (scope : Scope) (edit : Option Edit) : Scope :=
  edit.toList.foldl apply scope

end Edit

/-- The local variable that a built-in op changes with these parameters, unless it fails. -/
def Builtin.edit? (registry : Registry π) (stack : List Value) (scope : Scope) (name : String) :
    Builtin → Option Edit
  | .store =>
    match Resource.target registry .putter scope name, stack with
    | .ok (.variables .locals, uri, _), value :: _ =>
      (Resource.keyOf uri).toOption.map fun key => .put key value
    | _, _ => none
  | .remove =>
    match Resource.target registry .deleter scope name with
    | .ok (.variables .locals, uri, _) => (Resource.keyOf uri).toOption.map .remove
    | _ => none
  | _ => none

namespace Frame

/-- The local variable that the op that comes next changes, unless it fails. -/
def edit? (frame : Frame) (machine : Machine ω π) : Option Edit :=
  match frame.ops[frame.pc]? with
  | none => none
  | some value =>
    match Op.classify value with
    | .ok (.invoke name params) =>
      match machine.registry.op name with
      | .ok (.builtin op) =>
        op.edit? machine.registry machine.stack (frame.pending.extend (Op.bindings params)) name
      | _ => none
    | _ => none

/-- The changes of local variables that the ops of an activation make, in order. Those of the
activations that it calls are not among them. -/
def edits (host : Host ω π) : Nat → Frame → Machine ω π → List Edit
  | 0, _, _ => []
  | fuel + 1, frame, machine =>
    match frame.turn host (run host fuel) machine with
    | .next after left => (frame.edit? machine).toList ++ edits host fuel after left
    | _ => []

end Frame

/-- An act that changes the variables of its frame by this edit, and not if it fails. -/
def Act.EditsBy {α : Type} (act : Act ω π α) (edit : Option Edit) (call : Call ω π) : Prop :=
  (act.run.run call).2.frame.locals =
    match (act.run.run call).1 with
    | .ok _ => Edit.applyOption call.frame.locals edit
    | .error _ => call.frame.locals

namespace Act.EditsBy

variable {α β : Type} {call : Call ω π}

theorem blind {act : Act ω π α} (blind : act.Blind) : act.EditsBy none call := by
  rw [EditsBy, blind.locals]
  split <;> rfl

/-- What cannot fail afterwards and changes nothing does not matter. -/
theorem thenPure {act : Act ω π α} {edit : Option Edit} (edits : act.EditsBy edit call)
    (answer : α → β) : (act >>= fun a => Pure.pure (answer a)).EditsBy edit call := by
  unfold EditsBy at edits ⊢
  rw [run_bind]
  cases ran : act.run.run call with
  | mk outcome left =>
    rw [ran] at edits
    cases outcome <;> exact edits

theorem putVariable (value : Value) (uri : String) (rest : Scope) :
    (Resource.putVariable .locals value uri rest).EditsBy
      ((Resource.keyOf uri).toOption.map fun key => .put key value) call := by
  rw [EditsBy, Resource.putVariable_writes]
  cases rest with
  | cons entry rest => rfl
  | nil => cases Resource.keyOf uri <;> rfl

theorem deleteVariable (uri : String) (rest : Scope) :
    (Resource.deleteVariable .locals uri rest).EditsBy
      ((Resource.keyOf uri).toOption.map .remove) call := by
  rw [EditsBy, Resource.deleteVariable_removes]
  cases rest with
  | cons entry rest => rfl
  | nil =>
    cases Resource.keyOf uri with
    | error fault => rfl
    | ok key =>
      simp only
      cases (call.scopes .locals).get? key <;> rfl

theorem getVariable (uri : String) (rest : Scope) :
    (Resource.getVariable .locals uri rest).EditsBy none call := by
  rw [EditsBy, Resource.getVariable_keeps]
  split <;> rfl

/-- What an op does with what its request finds. -/
theorem resolve {role : Role} {scope : Scope} {rest : Plugin π × String × Scope → Act ω π α}
    {edit : Option Edit}
    (each : ∀ plugin uri params,
      Resource.target call.machine.registry role scope call.op = .ok (plugin, uri, params) →
        (rest (plugin, uri, params)).EditsBy edit call) :
    (Resource.resolve role scope >>= rest).EditsBy edit call := by
  rw [EditsBy, run_bind, Resource.resolve_run]
  cases found : Resource.target call.machine.registry role scope call.op with
  | error fault => rfl
  | ok target => exact each target.1 target.2.1 target.2.2 found

end Act.EditsBy

/-- A built-in op changes local variables by its edit only. -/
theorem Builtin.act_edits {op : Builtin} {scope : Scope} {call : Call ω π}
    (blind : op.IsBlind host call.machine.registry scope) :
    (op.act host scope).EditsBy (op.edit? call.machine.registry call.machine.stack scope call.op)
      call := by
  have plain : op.role? = none → (op.act host scope).EditsBy none call := fun noRole =>
    .blind (act_coreMoves Act.Blind.blocks.core Act.Blind.moves noRole
      (fun _ => Act.Blind.blocks.stack) fun _ _ _ _ => rfl)
  cases op with
  | fetch =>
    refine .resolve fun plugin uri rest found => .thenPure ?_ _
    have finds := Resource.target_finds found
    rcases plugin with ⟨_ | _⟩ | plug
    · exact .getVariable uri rest
    · exact .blind (Act.Blind.blocks.core.getVariable Act.Blind.globalScope uri rest)
    · exact .blind (blind.getter rfl _ rfl plug uri rest finds)
  | store =>
    refine .resolve fun plugin uri rest found => ?_
    have finds := Resource.target_finds found
    cases held : call.machine.stack with
    | nil =>
      rw [Act.EditsBy, run_bind, Act.pop_run_nil held]
    | cons value below =>
      rw [Act.EditsBy, run_bind, Act.pop_run_cons held]
      refine Act.EditsBy.thenPure ?_ _
      simp only [edit?, found]
      rcases plugin with ⟨_ | _⟩ | plug
      · exact .putVariable value uri rest
      · exact .blind (Act.Blind.blocks.core.putVariable Act.Blind.globalScope
          Act.Blind.setGlobalScope value uri rest)
      · exact .blind (blind.putter rfl _ rfl plug uri rest finds value)
  | remove =>
    refine .resolve fun plugin uri rest found => .thenPure ?_ _
    have finds := Resource.target_finds found
    simp only [edit?, found]
    rcases plugin with ⟨_ | _⟩ | plug
    · exact .deleteVariable uri rest
    · exact .blind (Act.Blind.blocks.core.deleteVariable Act.Blind.globalScope
        Act.Blind.setGlobalScope uri rest)
    · exact .blind (blind.deleter rfl _ rfl plug uri rest finds)
  | _ => exact plain rfl

/-- The turn changes the variables of the activation by this edit, and not if it stops. -/
def Turn.EditsBy (scope : Scope) (edit : Option Edit) : Turn ω π → Prop
  | .ended => True
  | .next after _ => after.locals = Edit.applyOption scope edit
  | .stop _ after _ => after.locals = scope

namespace Frame

variable {frame : Frame} {machine : Machine ω π} {callee : Frame → Machine ω π → Run ω π}

theorem perform_edits {act : Act ω π (List Value)} {edit : Option Edit} {name : String}
    (edits : act.EditsBy edit ⟨machine, frame.spent, name⟩) :
    (frame.perform act name machine).EditsBy frame.locals edit := by
  unfold Act.EditsBy at edits
  obtain ⟨turn, comes, performs⟩ := Frame.perform_performs act name frame machine
  rw [comes]
  cases performs with
  | answered ran =>
    rw [ran] at edits
    exact edits
  | refused ran =>
    rw [ran] at edits
    exact edits

/-- A callee does not change the variables of its caller. -/
theorem enter_edits (child : Frame) :
    (frame.enter callee child machine).EditsBy frame.locals none := by
  obtain ⟨turn, comes, enters⟩ := enter_enters callee frame child machine
  rw [comes]
  cases enters <;> exact rfl

theorem turn_edits (takes : frame.TakesBlind host machine) :
    (frame.turn host callee machine).EditsBy frame.locals (frame.edit? machine) := by
  obtain ⟨turn, comes, turns⟩ := turn_turns host callee frame machine
  rw [comes]
  unfold edit?
  cases turns with
  | ended => trivial
  | @element value _ found takesUp =>
    rw [found]
    simp only
    cases takesUp with
    | malformed refused =>
      rw [refused]
      exact rfl
    | literal classified =>
      rw [classified]
      exact rfl
    | unknown classified unknown =>
      rw [classified]
      simp only [unknown]
      exact rfl
    | @dispatched name params handler classified resolved =>
      have blind := takes value name params handler found classified resolved
      rw [classified]
      simp only [resolved]
      cases handler with
      | builtin op =>
        refine perform_edits ?_
        rw [← machine.traceStep_registry frame name] at blind ⊢
        rw [← machine.traceStep_stack frame name]
        exact Builtin.act_edits blind
      | foreign plug => exact perform_edits (.blind blind)
      | procedure procedure => exact enter_edits _

/-- The variables of an activation change by its own edits only. -/
theorem run_locals (fuel : Nat)
    (takes : ∀ state, Visits host (frame, machine) state → state.1.TakesBlind host state.2) :
    (frame.run host fuel machine).frame.locals =
      (frame.edits host fuel machine).foldl Edit.apply frame.locals := by
  induction fuel generalizing frame machine with
  | zero => rfl
  | succ fuel ih =>
    have edits : (frame.turn host (run host fuel) machine).EditsBy frame.locals
        (frame.edit? machine) := turn_edits (takes _ (.own .refl))
    rw [run_succ, Frame.edits]
    cases taken : frame.turn host (run host fuel) machine with
    | ended => rfl
    | stop reason after left =>
      rw [taken] at edits
      exact edits
    | next after left =>
      rw [taken] at edits
      have step : Steps host (frame, machine) (after, left) := ⟨fuel, taken⟩
      simp only
      rw [ih fun state visits => takes state (visits.after step), List.foldl_append, edits]
      rfl

end Frame

/-! ## Documents -/

namespace Session

/-- What loading a document and running it reach of foreign handlers neither looks at local variables
nor changes them. -/
structure StaysBlind (host : Host ω π) (fuel : Nat) (document : Value) (session : Session ω π) :
    Prop where
  loads : ∀ procedure uri found plug, Procedure.ofValue document = .ok procedure →
    Fetches host fuel procedure session uri found →
    found.machine.registry.getter uri = .ok (.foreign plug) → (host.get plug uri []).Blind
  takes : ∀ procedure loaded state, Procedure.ofValue document = .ok procedure →
    (load host fuel procedure).run.run session = (.ok (), loaded) →
    Frame.Visits host (loaded.entry procedure, loaded.machine) state →
      state.1.TakesBlind host state.2

/-- The task leaves the variables of the root as they are. -/
theorem locals_parts : Task.PartsAt host fun _ (task : Task ω π _) session =>
    (task.run.run session).2.root.locals = session.root.locals where
  pure _ _ := rfl
  fail _ _ := rfl
  starve _ := rfl
  bind {_ _ task rest session} first second := by
    rw [run_bind]
    cases ran : task.run.run session with
    | mk outcome left =>
      rw [ran] at first
      cases outcome with
      | ok a => exact (second a left ran).trans first
      | error stop => exact first
  guard _ {_ _ _} each := each
  importModule name session := by
    rw [importModule_run]
    cases session.machine.registry.modules.get? name <;> rfl
  register _ _ _ := rfl
  whileLoading uri {task session} inner := by
    rw [Task.whileLoading_run]
    exact inner

theorem load_locals (fuel : Nat) {procedure : Procedure} {session : Session ω π}
    (blind : ∀ uri found plug, Fetches host fuel procedure session uri found →
      found.machine.registry.getter uri = .ok (.foreign plug) → (host.get plug uri []).Blind) :
    ((load host fuel procedure).run.run session).2.root.locals = session.root.locals := by
  refine load_at locals_parts fuel fun uri found fetches => ?_
  rw [Task.fetch_run]
  cases getter : found.machine.registry.getter uri with
  | error fault => rfl
  | ok plugin =>
    rcases plugin with reach | plug
    · exact congrArg (fun call : Call ω π => call.frame.locals)
        (Resource.getVariable_keeps reach uri [] _)
    · exact (blind uri found plug fetches getter).locals _

/-- Once a document is loaded, it runs as it does on linked activations, of which the first holds the
root's variables overlaid by the document's settings: the outcome and the machine are the same, every
state that the run visits is one that the linked run visits, and reads and removals of local
variables find there what is seen along the chain. The root's variables change by the document's
settings and the root's own edits only, in order. They do not change if the document is not
loaded. -/
theorem exec_linked (fuel : Nat) (document : Value) (session : Session ω π)
    (apart : session.root.locals.keys.Nodup) (stays : session.StaysBlind host fuel document) :
    let ran := (exec host fuel document).run.run session
    (∀ procedure loaded, Procedure.ofValue document = .ok procedure →
      (load host fuel procedure).run.run session = (.ok (), loaded) →
      let start := loaded.entry procedure
      let linked := Linked.ofFrame start
      (linked.run host fuel loaded.machine).Shows [] ⟨ran.1, ran.2.root, ran.2.machine⟩ ∧
      (∀ frame machine, Frame.Visits host (start, loaded.machine) (frame, machine) →
        ∃ outer other, Linked.Visits host (linked, loaded.machine) (other, machine) ∧
          other.Shows outer frame ∧ other.Answers host frame machine) ∧
      start.locals = session.root.locals.extend procedure.set ∧
      ran.2.root.locals = (start.edits host fuel loaded.machine).foldl Edit.apply start.locals) ∧
    ((∀ procedure loaded, Procedure.ofValue document = .ok procedure →
      (load host fuel procedure).run.run session ≠ (.ok (), loaded)) →
        ran.2.root.locals = session.root.locals) := by
  intro ran
  have done : ran = (exec host fuel document).run.run session := rfl
  rw [exec_run] at done
  constructor
  · intro procedure loaded valid loads start linked
    have kept := load_locals fuel fun uri found plug => stays.loads procedure uri found plug valid
    rw [loads] at kept
    have locals : start.locals = session.root.locals.extend procedure.set := by
      rw [← kept]
      rfl
    have takes := fun state => stays.takes procedure loaded state valid loads
    have shows : linked.Shows [] start :=
      ⟨rfl, .root (by rw [locals]; exact Table.nodup_extend apart procedure.set)⟩
    rw [valid] at done
    simp only [loads] at done
    rw [done]
    refine ⟨Linked.run_shows fuel shows takes, fun frame machine visits => ?_, locals,
      Frame.run_locals fuel takes⟩
    obtain ⟨outer, other, visits', shows'⟩ := Linked.visits_shows shows takes visits
    exact ⟨outer, other, visits', shows', shows'.answers machine⟩
  · intro unloaded
    rw [done]
    cases valid : Procedure.ofValue document with
    | error fault => rfl
    | ok procedure =>
      have kept := load_locals fuel fun uri found plug => stays.loads procedure uri found plug valid
      simp only
      cases loads : (load host fuel procedure).run.run session with
      | mk outcome left =>
        rw [loads] at kept
        cases outcome with
        | error stop => exact kept
        | ok _ => exact absurd loads (unloaded procedure left valid)

/-- Where there are no foreign handlers, every document stays blind. -/
theorem staysBlind_of_isEmpty [IsEmpty π] (fuel : Nat) (document : Value) (session : Session ω π) :
    session.StaysBlind host fuel document where
  loads _ _ _ plug := isEmptyElim plug
  takes _ _ _ _ _ _ _ _ _ handler _ _ _ :=
    match handler with
    | .builtin _ =>
      { getter := fun _ _ _ plug => isEmptyElim plug
        putter := fun _ _ _ plug => isEmptyElim plug
        deleter := fun _ _ _ plug => isEmptyElim plug }
    | .foreign plug => isEmptyElim plug
    | .procedure _ => trivial

/-- A host without foreign handlers. -/
def plainHost : Host Unit Empty where
  op plug := nomatch plug
  get plug := nomatch plug
  put plug := nomatch plug
  delete plug := nomatch plug
  copy plug := nomatch plug
  install plug := nomatch plug

/-- A session with the built-in ops. -/
def plain : Session Unit Empty :=
  { machine := { registry := Registry.builtins, console := false, world := () } }

/-- The settings of a document are not made if one of its includes is refused, though it runs no op
that could unmake them. -/
theorem exec_linked_unset :
    let document : Value := .obj [("set", .obj [("a", .bool true)]),
      ("include", .obj [("f", .obj [("run", .arr [.obj [("op", .null)]])])])]
    ∃ procedure, Procedure.ofValue document = .ok procedure ∧ procedure.run = [] ∧
      ((exec plainHost 4 document).run.run plain).2.root.locals ≠
        plain.root.locals.extend procedure.set := by
  intro document
  have unset : ((exec plainHost 4 document).run.run plain).2.root.locals = [] := by cbv
  exact ⟨_, rfl, rfl, by rw [unset]; exact (List.cons_ne_nil _ _).symm⟩

/-- A procedure that removes what it sees of its caller does not take it from the caller. -/
theorem exec_linked_remove :
    let remove : Value := .obj [("run", .arr [
      .obj [("op", .str "get"), ("uri", .str "locals:a")],
      .obj [("op", .str "del"), ("uri", .str "locals:a")],
      .obj [("op", .str "get"), ("uri", .str "locals:a"), ("default", .bool false)]])]
    let document : Value := .obj [("set", .obj [("a", .bool true)]), ("include", .obj [("f", remove)]),
      ("run", .arr [.obj [("op", .str "f")], .obj [("op", .str "get"), ("uri", .str "locals:a")]])]
    ∃ procedure loaded, Procedure.ofValue document = .ok procedure ∧
      (load plainHost 8 procedure).run.run plain = (.ok (), loaded) ∧
      ((Linked.ofFrame (loaded.entry procedure)).run plainHost 8 loaded.machine).machine.stack =
        [.bool true, .bool false, .bool true] := by
  have same : ∀ document procedure loaded, Procedure.ofValue document = .ok procedure →
      (load plainHost 8 procedure).run.run plain = (.ok (), loaded) →
      ((Linked.ofFrame (loaded.entry procedure)).run plainHost 8 loaded.machine).machine =
        ((exec plainHost 8 document).run.run plain).2.machine :=
    fun document procedure loaded valid loads =>
      ((exec_linked 8 document plain List.nodup_nil (staysBlind_of_isEmpty 8 document plain)).1
        procedure loaded valid loads).1.machine
  intro remove document
  have stack : ((exec plainHost 8 document).run.run plain).2.machine.stack =
      [.bool true, .bool false, .bool true] := by
    cbv
  have valid : Procedure.ofValue document = .ok ⟨[], [("f", remove)], [("a", .bool true)],
      [.obj [("op", .str "f")], .obj [("op", .str "get"), ("uri", .str "locals:a")]], []⟩ := rfl
  refine ⟨_, _, valid, rfl, ?_⟩
  rw [same document _ _ valid rfl]
  exact stack

end Session

end DocMachine
