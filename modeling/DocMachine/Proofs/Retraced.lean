import DocMachine.Proofs.Includes
import DocMachine.Proofs.Steps

/-!
# Changes of the trace

A machine writes lines and records events, and nothing that it does depends on them or on whether it
does so. The same holds of the place in its run list where the root activation of a session was left:
the next run sets it.

* `Tracing` is what of a machine is about its trace, and `Machine.retraced` is the machine with its
  tracing changed.
* `Tracing.IsPassive`: the change goes well with reports, whichever come first.
* `Act.IsOblivious`: the act does the same before and after the change.
* `Session.moved` is a session whose tracing is changed, and whose root stands in another place.

Results:
1. `Builtin.act_oblivious` and `Frame.run_retraced`: a change of the trace does not matter to a run.
2. `Session.load_unmoved`: nor does it matter to loading, or the place of the root.
-/

namespace DocMachine

variable {ω π : Type} {host : Host ω π}

/-- Whether a machine writes its steps and records its events, and what it has written and recorded. -/
structure Tracing where
  console : Bool
  observed : Bool
  lines : Array String
  events : Array Event

namespace Machine

/-- The tracing of a machine. -/
def tracing (machine : Machine ω π) : Tracing where
  console := machine.console
  observed := machine.observed
  lines := machine.lines
  events := machine.events

/-- The machine with its tracing changed. -/
def retraced (change : Tracing → Tracing) (machine : Machine ω π) : Machine ω π :=
  { machine with
    console := (change machine.tracing).console
    observed := (change machine.tracing).observed
    lines := (change machine.tracing).lines
    events := (change machine.tracing).events }

end Machine

/-- The change goes well with reports: it makes no difference whether it comes before or after them. -/
structure Tracing.IsPassive (ω π : Type) (change : Tracing → Tracing) : Prop where
  emit : ∀ (machine : Machine ω π) event,
    (machine.retraced change).emit event = (machine.emit event).retraced change
  writeStep : ∀ (machine : Machine ω π) frame op,
    (machine.retraced change).writeStep frame op = (machine.writeStep frame op).retraced change

theorem Tracing.IsPassive.traceStep {change : Tracing → Tracing} (passive : IsPassive ω π change)
    (machine : Machine ω π) (frame : Frame) (op : String) :
    (machine.retraced change).traceStep frame op = (machine.traceStep frame op).retraced change := by
  have event : (machine.retraced change).stepEvent frame op = machine.stepEvent frame op := rfl
  unfold Machine.traceStep
  rw [event, passive.writeStep, passive.emit]

variable {change : Tracing → Tracing}

/-! ## Acts -/

/-- The call with the tracing of its machine changed. -/
def Call.retraced (change : Tracing → Tracing) (call : Call ω π) : Call ω π :=
  { call with machine := call.machine.retraced change }

/-- The act does the same before and after the change, and keeps it. -/
def Act.IsOblivious {α : Type} (change : Tracing → Tracing) (act : Act ω π α) : Prop :=
  ∀ call : Call ω π, act.run.run (call.retraced change) =
    ((act.run.run call).1, (act.run.run call).2.retraced change)

/-- What happens inside a call that a handler does not see happens all the same after the handler. -/
theorem Act.Facade.commutes {α : Type} {act : Act ω π α} (facade : act.Facade)
    (change : Inside → Inside) (call : Call ω π) :
    act.run.run (call.withInside (change call.inside)) =
      ((act.run.run call).1,
        (act.run.run call).2.withInside (change (act.run.run call).2.inside)) := by
  rw [facade.blind, facade.inside]

/-- The change of what is inside a call that changes its tracing, and the place of its frame. -/
def Inside.moved (change : Tracing → Tracing)
    (go : List Value × Nat × List Nat → List Value × Nat × List Nat) (inside : Inside) : Inside :=
  let tracing := change ⟨inside.console, inside.observed, inside.lines, inside.events⟩
  let place := go (inside.ops, inside.pc, inside.begins)
  { inside with
    ops := place.1, pc := place.2.1, begins := place.2.2
    console := tracing.console, observed := tracing.observed
    lines := tracing.lines, events := tracing.events }

namespace Act.IsOblivious

variable {α β : Type}

theorem of_facade {act : Act ω π α} (facade : act.Facade) : act.IsOblivious change :=
  facade.commutes (.moved change id)

theorem pure (a : α) : (Pure.pure a : Act ω π α).IsOblivious change := fun _ => rfl

theorem throw (fault : Fault) : (MonadExcept.throw fault : Act ω π α).IsOblivious change :=
  fun _ => rfl

theorem bind {act : Act ω π α} {rest : α → Act ω π β} (first : act.IsOblivious change)
    (second : ∀ a, (rest a).IsOblivious change) : (act >>= rest).IsOblivious change := by
  intro call
  rw [run_bind, run_bind, first call]
  cases act.run.run call with
  | mk outcome left =>
    cases outcome with
    | ok a => exact second a left
    | error fault => rfl

/-- An act that first looks at the call, but not at its tracing. -/
theorem look {rest : Call ω π → Act ω π α}
    (same : ∀ call : Call ω π, rest (call.retraced change) = rest call)
    (each : ∀ call, (rest call).IsOblivious change) :
    (get >>= rest : Act ω π α).IsOblivious change := by
  intro call
  show (rest (call.retraced change)).run.run (call.retraced change) = _
  rw [same call]
  exact each call call

theorem blocks : Blocks fun _ (act : Act ω π _) => act.IsOblivious change where
  pure := pure
  throw fault _ := throw fault
  bind := bind
  blame _ := look (fun _ => rfl) fun _ => throw _
  registry _ each := look (fun _ => rfl) fun call => each call.machine.registry
  stack := of_facade .stack
  setStack values := of_facade (.setStack values)
  scope reach := of_facade (.scope reach)
  setScope reach scope := of_facade (.setScope reach scope)

theorem moves : Moves fun _ (act : Act ω π _) => act.IsOblivious change where
  look same each := look (fun call => same _ call rfl) each
  move _ _ := rfl

end Act.IsOblivious

/-- A change of the trace does not matter to a built-in op. -/
theorem Builtin.act_oblivious (facade : host.Facade) (change : Tracing → Tracing) (op : Builtin)
    (scope : Scope) : (op.act host scope).IsOblivious change :=
  act_moves Act.IsOblivious.blocks.closed Act.IsOblivious.moves
    (fun _ => Act.IsOblivious.blocks.stack) (fun _ _ _ => rfl)
    { getter := fun _ _ _ plug uri rest _ => .of_facade (facade.get plug uri rest)
      putter := fun _ _ _ plug uri rest _ value => .of_facade (facade.put plug value uri rest)
      deleter := fun _ _ _ plug uri rest _ => .of_facade (facade.delete plug uri rest) }

/-! ## Runs -/

/-- The turn with the tracing of its machine changed. -/
def Turn.retraced (change : Tracing → Tracing) : Turn ω π → Turn ω π
  | .ended => .ended
  | .next frame machine => .next frame (machine.retraced change)
  | .stop reason frame machine => .stop reason frame (machine.retraced change)

/-- The run with the tracing of its machine changed. -/
def Run.retraced (change : Tracing → Tracing) (run : Run ω π) : Run ω π :=
  { run with machine := run.machine.retraced change }

namespace Frame

variable {callee : Frame → Machine ω π → Run ω π} {frame : Frame} {machine : Machine ω π}

theorem perform_retraced {act : Act ω π (List Value)} (oblivious : act.IsOblivious change)
    (name : String) : frame.perform act name (machine.retraced change) =
      (frame.perform act name machine).retraced change := by
  have same := oblivious ⟨machine, frame.spent, name⟩
  unfold perform
  rw [show (⟨machine.retraced change, frame.spent, name⟩ : Call ω π) =
    (⟨machine, frame.spent, name⟩ : Call ω π).retraced change from rfl, same]
  cases act.run.run ⟨machine, frame.spent, name⟩ with
  | mk outcome left => cases outcome <;> rfl

variable (passive : Tracing.IsPassive ω π change) (calls : ∀ child (machine : Machine ω π),
  callee child (machine.retraced change) = (callee child machine).retraced change)

include passive calls

theorem enter_retraced (child : Frame) : frame.enter callee child (machine.retraced change) =
    (frame.enter callee child machine).retraced change := by
  have limit : (machine.retraced change).maxDepth = machine.maxDepth := rfl
  unfold enter
  rw [limit]
  split
  · rfl
  · rw [passive.emit, calls]
    generalize callee child (machine.emit (.enter child.name child.depth)) = inner
    have outcome : (inner.retraced change).outcome = inner.outcome := rfl
    have left : (inner.retraced change).machine = inner.machine.retraced change := rfl
    simp only [outcome, left, passive.emit]
    split <;> rfl

theorem dispatch_retraced (facade : host.Facade) (name : String) (bound : Scope)
    (handler : Handler π) :
    frame.dispatch host callee name bound handler (machine.retraced change) =
      (frame.dispatch host callee name bound handler machine).retraced change := by
  cases handler with
  | builtin op => exact perform_retraced (Builtin.act_oblivious facade change op bound) name
  | foreign plug => exact perform_retraced (.of_facade (facade.op plug bound)) name
  | procedure procedure => exact enter_retraced passive calls _

theorem turn_retraced (facade : host.Facade) :
    frame.turn host callee (machine.retraced change) =
      (frame.turn host callee machine).retraced change := by
  unfold turn
  split
  · rfl
  · next value found =>
    unfold takeUp
    split
    · rfl
    · rw [passive.traceStep]
      rfl
    · next name params classified =>
      have registry : ((machine.traceStep frame (Op.invoke name params).traceName).retraced
        change).registry = machine.registry := Machine.traceStep_registry _ _ _
      simp only [passive.traceStep, registry, Machine.traceStep_registry]
      split
      · rfl
      · exact dispatch_retraced passive calls facade _ _ _

omit calls in
/-- A change of the trace does not matter to a run. -/
theorem run_retraced (facade : host.Facade) (fuel : Nat) (frame : Frame)
    (machine : Machine ω π) : frame.run host fuel (machine.retraced change) =
      (frame.run host fuel machine).retraced change := by
  induction fuel generalizing frame machine with
  | zero => rfl
  | succ fuel ih =>
    rw [run_succ, run_succ, turn_retraced passive ih facade]
    cases frame.turn host (run host fuel) machine with
    | ended => rfl
    | next after left => exact ih after left
    | stop reason after left => rfl

end Frame

/-! ## Loading -/

namespace Session

/-- The session with its tracing changed, and its root gone to another place. -/
def moved (change : Tracing → Tracing)
    (go : List Value × Nat × List Nat → List Value × Nat × List Nat) (session : Session ω π) :
    Session ω π :=
  let place := go session.root.place
  { session with
    machine := session.machine.retraced change
    root := { session.root with ops := place.1, pc := place.2.1, begins := place.2.2 } }

/-- In this session the task does the same before and after the change, and wherever the root
stands. -/
def IsUnmoved {α : Type} (change : Tracing → Tracing)
    (go : List Value × Nat × List Nat → List Value × Nat × List Nat) (task : Task ω π α)
    (session : Session ω π) : Prop :=
  task.run.run (session.moved change go) =
    ((task.run.run session).1, (task.run.run session).2.moved change go)

variable {go : List Value × Nat × List Nat → List Value × Nat × List Nat}

theorem importModule_unmoved (name : String) (session : Session ω π) :
    IsUnmoved change go (importModule host name) session := by
  have registry : (session.moved change go).machine.registry = session.machine.registry := rfl
  unfold IsUnmoved
  rw [importModule_run, importModule_run, registry]
  cases session.machine.registry.modules.get? name <;> rfl

theorem fetch_unmoved (facade : host.Facade) (uri : String) (session : Session ω π) :
    IsUnmoved change go (fetch host uri) session := by
  have registry : (session.moved change go).machine.registry = session.machine.registry := rfl
  unfold IsUnmoved
  rw [Task.fetch_run, Task.fetch_run, registry]
  cases session.machine.registry.getter uri with
  | error fault => rfl
  | ok plugin =>
    have same := (get_facade facade plugin uri []).commutes (.moved change go)
      ⟨session.machine, session.root, "get"⟩
    simp only
    rw [show (⟨(session.moved change go).machine, (session.moved change go).root, "get"⟩ :
      Call ω π) = _ from rfl]
    exact congrArg (fun ran : Except Fault Value × Call ω π =>
      (ran.1.mapError fun fault => Stop.failed ⟨fault, []⟩,
        { session with machine := ran.2.machine, root := ran.2.frame })) same

/-- Loading does the same before and after the change, and wherever the root stands. -/
theorem load_unmoved (facade : host.Facade) (fuel : Nat) (procedure : Procedure)
    (session : Session ω π) : IsUnmoved change go (load host fuel procedure) session := by
  have parts : Task.PartsAt host fun _ (task : Task ω π _) session =>
      IsUnmoved change go task session :=
    { pure := fun _ _ => rfl
      fail := fun _ _ => rfl
      starve := fun _ => rfl
      bind := by
        intro α β task rest session first second
        unfold IsUnmoved at first ⊢
        rw [run_bind, run_bind, first]
        cases ran : task.run.run session with
        | mk outcome left =>
          cases outcome with
          | ok a => exact second a left ran
          | error stop => rfl
      guard := fun _ _ _ _ unmoved => unmoved
      importModule := importModule_unmoved
      register := fun _ _ _ => rfl
      whileLoading := by
        intro uri task session unmoved
        unfold IsUnmoved at unmoved ⊢
        rw [Task.whileLoading_run, Task.whileLoading_run]
        exact congrArg (fun ran : Except Stop Unit × Session ω π =>
          (ran.1, { ran.2 with loading := session.loading })) unmoved }
  exact load_at parts fuel fun uri found _ => fetch_unmoved facade uri found

end Session

end DocMachine
