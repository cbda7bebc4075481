import DocMachine.Proofs.Retraced
import Mathlib

/-!
# What a run reports

Whether steps are written to the console and events are recorded makes no difference to what a run
does. Where both are done, what is written are the lines of those steps whose activation does not turn
them off, as its local `logging` stands when the step is taken.

* `Machine.untraced` and `Session.untraced` are without a trace, and with all tracing off.
* `Moment` is the moment at which an activation takes up an op, and `Frame.dispatches` lists those of a
  run and of all that it calls, as they come.
* `Machine.Reports`: what a machine wrote and recorded are the lines and the events of dispatches.

Results:
1. `Session.exec_untraced` and `Session.dispatches_untraced`: a document does the same with all tracing
   off, and the same is dispatched.
2. `Frame.run_reports`: a run reports its dispatches.
3. `Frame.dispatches_visits`: each of them is of an activation to which the run comes.
4. `Session.exec_traced`: all this of documents.
-/

namespace DocMachine

variable {ω π : Type} {host : Host ω π}

/-! ## Without a trace -/

/-- The machine without its trace, which neither writes nor records anything. -/
def Machine.untraced (machine : Machine ω π) : Machine ω π :=
  { machine with console := false, observed := false, lines := #[], events := #[] }

/-- Tracing that is off, and of which nothing is left. -/
def Tracing.off (_ : Tracing) : Tracing where
  console := false
  observed := false
  lines := #[]
  events := #[]

theorem Tracing.off_passive : IsPassive ω π off where
  emit machine event := by
    show machine.untraced = (machine.emit event).untraced
    unfold Machine.emit
    split <;> rfl
  writeStep machine frame op := by
    show machine.untraced = (machine.writeStep frame op).untraced
    unfold Machine.writeStep
    split
    · split <;> rfl
    · rfl

namespace Session

/-- The session without the trace of its machine, which neither writes nor records anything. -/
def untraced (session : Session ω π) : Session ω π :=
  { session with machine := session.machine.untraced }

theorem load_untraced (facade : host.Facade) (fuel : Nat) (procedure : Procedure)
    (session : Session ω π) : (load host fuel procedure).run.run session.untraced =
      (((load host fuel procedure).run.run session).1,
        ((load host fuel procedure).run.run session).2.untraced) :=
  @load_unmoved ω π host .off id facade fuel procedure session

/-- A document does the same with all tracing off. -/
theorem exec_untraced (facade : host.Facade) (fuel : Nat) (document : Value)
    (session : Session ω π) : (exec host fuel document).run.run session.untraced =
      (((exec host fuel document).run.run session).1,
        ((exec host fuel document).run.run session).2.untraced) := by
  rw [exec_run, exec_run]
  cases Procedure.ofValue document with
  | error fault => rfl
  | ok procedure =>
    simp only [load_untraced facade]
    cases (load host fuel procedure).run.run session with
    | mk outcome loaded =>
      cases outcome with
      | error stop => rfl
      | ok _ =>
        have ran : (loaded.entry procedure).run host fuel loaded.machine.untraced =
            ((loaded.entry procedure).run host fuel loaded.machine).retraced .off :=
          Frame.run_retraced Tracing.off_passive facade fuel _ _
        show (let run := (loaded.entry procedure).run host fuel loaded.machine.untraced
          (run.outcome, { loaded with machine := run.machine, root := run.frame })) = _
        rw [ran]
        rfl

end Session

/-! ## Dispatches -/

/-- The moment at which an activation takes up an op, with the name under which traces show it. -/
structure Moment (ω π : Type) where
  frame : Frame
  machine : Machine ω π
  op : String

namespace Moment

/-- The event of the step. -/
def event (dispatch : Moment ω π) : Event :=
  dispatch.machine.stepEvent dispatch.frame dispatch.op

/-- The console form of the event. -/
def line? (dispatch : Moment ω π) : Option String :=
  dispatch.event.line? dispatch.machine.elapsed

/-- The dispatch with the tracing of its machine changed. -/
def retraced (change : Tracing → Tracing) (dispatch : Moment ω π) : Moment ω π :=
  { dispatch with machine := dispatch.machine.retraced change }

/-- The dispatch in the machine without its trace. -/
def untraced (dispatch : Moment ω π) : Moment ω π :=
  { dispatch with machine := dispatch.machine.untraced }

/-- The activation has no local `logging`, or one that reads as true. -/
def isLogged (dispatch : Moment ω π) : Bool :=
  match dispatch.frame.locals.get? "logging" with
  | none => true
  | some value => value.truthy

end Moment

/-- Whether the event is that of a step. -/
def Event.isStep : Event → Bool
  | .step .. => true
  | _ => false

namespace Frame

/-- What `frame` takes up, unless it is at its end or at something that is no op. -/
def takenUp (frame : Frame) (machine : Machine ω π) : List (Moment ω π) :=
  match frame.ops[frame.pc]? with
  | none => []
  | some value =>
    match Op.classify value with
    | .error _ => []
    | .ok op => [⟨frame, machine, op.traceName⟩]

/-- The activation that `frame` calls, and the machine in which it starts. -/
def callee? (frame : Frame) (machine : Machine ω π) : Option (Frame × Machine ω π) :=
  match frame.ops[frame.pc]?.map Op.classify with
  | some (.ok (.invoke name params)) =>
    match machine.registry.op name with
    | .ok (.procedure procedure) =>
      let child := frame.child name procedure (frame.pending.extend (Op.bindings params))
      if machine.maxDepth < child.depth then none
      else some (child, (machine.traceStep frame name).emit (.enter child.name child.depth))
    | _ => none
  | _ => none

/-- What a run takes up and all that it calls, in this order. -/
def dispatches (host : Host ω π) : Nat → Frame → Machine ω π → List (Moment ω π)
  | 0, _, _ => []
  | fuel + 1, frame, machine =>
    let called :=
      match frame.callee? machine with
      | none => []
      | some child => dispatches host fuel child.1 child.2
    let later :=
      match frame.turn host (run host fuel) machine with
      | .next after left => dispatches host fuel after left
      | _ => []
    frame.takenUp machine ++ called ++ later

/-- What is dispatched in what `frame` calls. -/
def called (host : Host ω π) (fuel : Nat) (frame : Frame) (machine : Machine ω π) :
    List (Moment ω π) :=
  match frame.callee? machine with
  | none => []
  | some child => child.1.dispatches host fuel child.2

theorem dispatches_succ (host : Host ω π) (fuel : Nat) (frame : Frame) (machine : Machine ω π) :
    frame.dispatches host (fuel + 1) machine =
      frame.takenUp machine ++ frame.called host fuel machine ++
        match frame.turn host (run host fuel) machine with
        | .next after left => after.dispatches host fuel left
        | _ => [] := rfl

theorem takenUp_retraced (change : Tracing → Tracing) (frame : Frame) (machine : Machine ω π) :
    frame.takenUp (machine.retraced change) =
      (frame.takenUp machine).map (Moment.retraced change) := by
  unfold takenUp
  split
  · rfl
  · split <;> rfl

section

variable {change : Tracing → Tracing} (passive : Tracing.IsPassive ω π change)

include passive

theorem callee?_retraced (frame : Frame) (machine : Machine ω π) :
    frame.callee? (machine.retraced change) =
      (frame.callee? machine).map fun child => (child.1, child.2.retraced change) := by
  have registry : (machine.retraced change).registry = machine.registry := rfl
  have limit : (machine.retraced change).maxDepth = machine.maxDepth := rfl
  unfold callee?
  rw [registry, limit]
  split
  · split
    · simp only [passive.traceStep, passive.emit]
      split <;> rfl
    · rfl
  · rfl

/-- A change of the trace does not matter to what is dispatched. -/
theorem dispatches_retraced (facade : host.Facade) (fuel : Nat) (frame : Frame)
    (machine : Machine ω π) : frame.dispatches host fuel (machine.retraced change) =
      (frame.dispatches host fuel machine).map (Moment.retraced change) := by
  induction fuel generalizing frame machine with
  | zero => rfl
  | succ fuel ih =>
    have inner : frame.called host fuel (machine.retraced change) =
        (frame.called host fuel machine).map (Moment.retraced change) := by
      unfold called
      rw [callee?_retraced passive]
      cases frame.callee? machine with
      | none => rfl
      | some child => exact ih child.1 child.2
    have turned : frame.turn host (run host fuel) (machine.retraced change) =
        (frame.turn host (run host fuel) machine).retraced change :=
      turn_retraced passive (run_retraced passive facade fuel) facade
    rw [dispatches_succ, dispatches_succ, takenUp_retraced, inner, turned, List.map_append,
      List.map_append]
    cases frame.turn host (run host fuel) machine with
    | ended => rfl
    | next after left => exact congrArg _ (ih after left)
    | stop reason after left => rfl

end

theorem callee?_calls {frame : Frame} {machine : Machine ω π} {child : Frame × Machine ω π}
    (called : frame.callee? machine = some child) :
    frame.Calls machine child ∧ child.1.depth ≤ machine.maxDepth := by
  unfold callee? at called
  cases found : frame.ops[frame.pc]? with
  | none =>
    rw [found] at called
    cases called
  | some value =>
    rw [found] at called
    simp only [Option.map_some] at called
    split at called
    · next name params classified =>
      rw [Option.some.injEq] at classified
      split at called
      · next procedure registered =>
        split at called
        · cases called
        · next shallow =>
          cases called
          exact ⟨⟨value, name, params, procedure, found, classified, registered, rfl, rfl⟩,
            Nat.le_of_not_lt shallow⟩
      · cases called
    · cases called

/-- Each dispatch is of an activation to which the run comes, and of the op at which that stands. -/
theorem dispatches_visits {fuel : Nat} {frame : Frame} {machine : Machine ω π}
    {dispatch : Moment ω π} (listed : dispatch ∈ frame.dispatches host fuel machine) :
    Visits host (frame, machine) (dispatch.frame, dispatch.machine) ∧
      ∃ value op, dispatch.frame.ops[dispatch.frame.pc]? = some value ∧
        Op.classify value = .ok op ∧ dispatch.op = op.traceName := by
  induction fuel generalizing frame machine with
  | zero => cases listed
  | succ fuel ih =>
    unfold dispatches at listed
    rcases List.mem_append.mp listed with listed | later
    · rcases List.mem_append.mp listed with here | inner
      · unfold takenUp at here
        split at here
        · cases here
        · next value found =>
          split at here
          · cases here
          · next op classified =>
            obtain rfl := List.mem_singleton.mp here
            exact ⟨.own .refl, value, op, found, classified, rfl⟩
      · split at inner
        · cases inner
        · next child called =>
          obtain ⟨calls, shallow⟩ := callee?_calls called
          obtain ⟨visits, stands⟩ := ih inner
          exact ⟨.call .refl calls shallow visits, stands⟩
    · split at later
      · next after left taken =>
        obtain ⟨visits, stands⟩ := ih later
        exact ⟨visits.after ⟨fuel, taken⟩, stands⟩
      · cases later

end Frame

/-! ## Reports -/

/-- From `machine` to `after`, the steps that were recorded are those of the dispatches, and the lines
that were written are those of the dispatches that are logged. All tracing stays on. -/
structure Machine.Reports (dispatches : List (Moment ω π)) (machine after : Machine ω π) :
    Prop where
  console : after.console = true
  observed : after.observed = true
  steps : ∃ events, after.events.toList = machine.events.toList ++ events ∧
    events.filter Event.isStep = dispatches.map Moment.event
  lines : after.lines.toList =
    machine.lines.toList ++ (dispatches.filter Moment.isLogged).filterMap Moment.line?

namespace Machine.Reports

variable {machine after last : Machine ω π} {one other : List (Moment ω π)}

theorem refl (console : machine.console = true) (observed : machine.observed = true) :
    Reports [] machine machine :=
  ⟨console, observed, ⟨[], by simp, rfl⟩, by simp⟩

theorem trans (first : Reports one machine after) (second : Reports other after last) :
    Reports (one ++ other) machine last := by
  obtain ⟨events, appended, steps⟩ := first.steps
  obtain ⟨events', appended', steps'⟩ := second.steps
  refine ⟨second.console, second.observed, ⟨events ++ events', ?_, ?_⟩, ?_⟩
  · rw [appended', appended, List.append_assoc]
  · rw [List.filter_append, List.map_append, steps, steps']
  · rw [second.lines, first.lines, List.append_assoc, List.filter_append, List.filterMap_append]

/-- What leaves the trace as it is reports nothing. -/
theorem silent (reports : Reports one machine after) (console : last.console = after.console)
    (observed : last.observed = after.observed) (lines : last.lines = after.lines)
    (events : last.events = after.events) : Reports one machine last := by
  obtain ⟨on, watched, steps, written⟩ := reports
  exact ⟨console.trans on, observed.trans watched, by rwa [events], by rwa [lines]⟩

/-- What is recorded besides steps makes no difference. -/
theorem emit (reports : Reports one machine after) {event : Event} (noStep : event.isStep = false) :
    Reports one machine (after.emit event) := by
  obtain ⟨events, appended, steps⟩ := reports.steps
  have emitted : after.emit event = { after with events := after.events.push event } := by
    rw [Machine.emit, if_pos reports.observed]
  rw [emitted]
  refine ⟨reports.console, reports.observed, ⟨events ++ [event], ?_, ?_⟩, reports.lines⟩
  · rw [Array.toList_push, appended, List.append_assoc]
  · rw [List.filter_append, steps, List.filter_cons_of_neg (by simp [noStep]), List.filter_nil,
      List.append_nil]

/-- A step reports its dispatch. -/
theorem traceStep (console : machine.console = true) (observed : machine.observed = true)
    (frame : Frame) (op : String) :
    Reports [⟨frame, machine, op⟩] machine (machine.traceStep frame op) := by
  let dispatch : Moment ω π := ⟨frame, machine, op⟩
  obtain ⟨line, isLine⟩ : ∃ line, dispatch.line? = some line := ⟨_, rfl⟩
  have enabled : machine.consoleEnabled frame = dispatch.isLogged := by
    unfold Machine.consoleEnabled Moment.isLogged
    rw [console, Bool.true_and]
    cases frame.locals.get? "logging" <;> rfl
  have written : machine.writeStep frame op =
      { machine with
        lines := machine.lines ++ (if dispatch.isLogged then #[line] else #[]) } := by
    unfold Machine.writeStep
    rw [enabled, show (machine.stepEvent frame op).line? machine.elapsed = some line from isLine]
    cases dispatch.isLogged <;> simp
  have traced : machine.traceStep frame op =
      { machine with
        lines := machine.lines ++ (if dispatch.isLogged then #[line] else #[])
        events := machine.events.push dispatch.event } := by
    unfold Machine.traceStep
    rw [written]
    unfold Machine.emit
    rw [if_pos observed]
    rfl
  rw [traced]
  refine ⟨console, observed, ⟨[dispatch.event], Array.toList_push, rfl⟩, ?_⟩
  show _ = _ ++ ([dispatch].filter Moment.isLogged).filterMap Moment.line?
  cases logged : dispatch.isLogged with
  | true => simp [logged, isLine]
  | false => simp [logged]

end Machine.Reports

/-- What a turn leaves has reported the dispatches. -/
def Turn.Reports (dispatches : List (Moment ω π)) (machine : Machine ω π) : Turn ω π → Prop
  | .ended => dispatches = []
  | .next _ left => machine.Reports dispatches left
  | .stop _ _ left => machine.Reports dispatches left

namespace Frame

variable {frame : Frame} {machine traced : Machine ω π} {fuel : Nat}
  {done : List (Moment ω π)}

theorem perform_reports {act : Act ω π (List Value)}
    (lasting : ∀ call, (act.run.run call).2.lasting = call.lasting)
    (reports : machine.Reports done traced) (name : String) :
    (frame.perform act name traced).Reports done machine := by
  have kept := lasting ⟨traced, frame.spent, name⟩
  have left : machine.Reports done (act.run.run ⟨traced, frame.spent, name⟩).2.machine :=
    reports.silent (congrArg Lasting.console kept) (congrArg Lasting.observed kept)
      (congrArg Lasting.lines kept) (congrArg Lasting.events kept)
  obtain ⟨turn, comes, performs⟩ := perform_performs act name frame traced
  rw [comes]
  cases performs with
  | answered ran =>
    rw [ran] at left
    exact left.silent rfl rfl rfl rfl
  | refused ran =>
    rw [ran] at left
    exact left

/-- A call reports what is dispatched in it. -/
theorem enter_reports {child : Frame} {called : List (Moment ω π)}
    (reports : machine.Reports done traced)
    (calls : ¬ traced.maxDepth < child.depth →
      let entered := traced.emit (.enter child.name child.depth)
      entered.Reports called (child.run host fuel entered).machine)
    (deep : traced.maxDepth < child.depth → called = []) :
    (frame.enter (run host fuel) child traced).Reports (done ++ called) machine := by
  have announced : Event.isStep (.enter child.name child.depth) = false := rfl
  have inside (shallow : child.depth ≤ traced.maxDepth) :=
    (reports.emit announced).trans (calls (Nat.not_lt.mpr shallow))
  obtain ⟨turn, comes, enters⟩ := enter_enters (run host fuel) frame child traced
  rw [comes]
  cases enters with
  | deep tooDeep =>
    rw [deep tooDeep, List.append_nil]
    exact reports
  | returned shallow ran =>
    subst ran
    exact (inside shallow).emit rfl
  | failed shallow ran =>
    subst ran
    exact inside shallow
  | starved shallow ran =>
    subst ran
    exact inside shallow

/-- A turn reports what it takes up and what is dispatched in what it calls. -/
theorem turn_reports (facade : host.Facade) (console : machine.console = true)
    (observed : machine.observed = true)
    (inner : ∀ (child : Frame) (machine : Machine ω π), machine.console = true →
      machine.observed = true →
      machine.Reports (child.dispatches host fuel machine) (child.run host fuel machine).machine) :
    (frame.turn host (run host fuel) machine).Reports
      (frame.takenUp machine ++ frame.called host fuel machine) machine := by
  have traced := Machine.Reports.traceStep console observed frame
  obtain ⟨turn, comes, turns⟩ := turn_turns host (run host fuel) frame machine
  rw [comes]
  unfold takenUp called callee?
  cases turns with
  | ended nothing =>
    rw [nothing]
    rfl
  | element found takes =>
    rw [found]
    simp only [Option.map_some]
    cases takes with
    | malformed refused =>
      rw [refused]
      exact .refl console observed
    | @literal pushed classified =>
      rw [classified]
      exact (traced (Op.literal pushed).traceName).silent rfl rfl rfl rfl
    | @unknown name _ _ classified unknown =>
      rw [classified]
      simp only [unknown]
      exact traced name
    | @dispatched name params handler classified resolved =>
      rw [classified]
      simp only [resolved]
      cases handler with
      | builtin op =>
        exact perform_reports (Builtin.act_lasting facade op _) (traced name) name
      | foreign plug =>
        exact perform_reports (fun call => (facade.op plug _).keeps_lasting _ call rfl)
          (traced name) name
      | procedure procedure =>
        have announced : Event.isStep (.enter name (frame.depth + 1)) = false := rfl
        simp only
        refine enter_reports (traced name) (fun shallow => ?_) fun deep => ?_
        · rw [Machine.traceStep_maxDepth] at shallow
          rw [if_neg shallow]
          have entered := (traced name).emit announced
          exact inner _ _ entered.console entered.observed
        · rw [Machine.traceStep_maxDepth] at deep
          rw [if_pos deep]

/-- A run reports its dispatches. -/
theorem run_reports (facade : host.Facade) (fuel : Nat) (frame : Frame) (machine : Machine ω π)
    (console : machine.console = true) (observed : machine.observed = true) :
    machine.Reports (frame.dispatches host fuel machine) (frame.run host fuel machine).machine := by
  induction fuel generalizing frame machine with
  | zero => exact .refl console observed
  | succ fuel ih =>
    have turned : (frame.turn host (run host fuel) machine).Reports
        (frame.takenUp machine ++ frame.called host fuel machine) machine :=
      turn_reports facade console observed ih
    rw [run_succ, dispatches_succ]
    cases taken : frame.turn host (run host fuel) machine with
    | ended =>
      rw [taken] at turned
      have nothing : frame.takenUp machine ++ frame.called host fuel machine = [] := turned
      rw [nothing]
      exact .refl console observed
    | next after left =>
      rw [taken] at turned
      have reports : machine.Reports _ left := turned
      exact reports.trans (ih after left reports.console reports.observed)
    | stop reason after left =>
      rw [taken] at turned
      simp only [List.append_nil]
      exact turned

end Frame

/-! ## Documents -/

namespace Session

/-- What is dispatched in running a document. -/
def dispatches (host : Host ω π) (fuel : Nat) (document : Value) (session : Session ω π) :
    List (Moment ω π) :=
  match Procedure.ofValue document with
  | .error _ => []
  | .ok procedure =>
    match (load host fuel procedure).run.run session with
    | (.ok _, loaded) => (loaded.entry procedure).dispatches host fuel loaded.machine
    | (.error _, _) => []

variable {fuel : Nat} {document : Value} {session : Session ω π}

theorem dispatches_visits {dispatch : Moment ω π}
    (listed : dispatch ∈ session.dispatches host fuel document) :
    ∃ procedure loaded, Procedure.ofValue document = .ok procedure ∧
      (load host fuel procedure).run.run session = (.ok (), loaded) ∧
      Frame.Visits host (loaded.entry procedure, loaded.machine)
        (dispatch.frame, dispatch.machine) ∧
      ∃ value op, dispatch.frame.ops[dispatch.frame.pc]? = some value ∧
        Op.classify value = .ok op ∧ dispatch.op = op.traceName := by
  unfold dispatches at listed
  split at listed
  · cases listed
  · next procedure valid =>
    split at listed
    · next loaded loads =>
      exact ⟨procedure, loaded, valid, loads, Frame.dispatches_visits listed⟩
    · cases listed

/-- The same is dispatched with all tracing off. -/
theorem dispatches_untraced (facade : host.Facade) (fuel : Nat) (document : Value)
    (session : Session ω π) : session.untraced.dispatches host fuel document =
      (session.dispatches host fuel document).map Moment.untraced := by
  unfold dispatches
  cases Procedure.ofValue document with
  | error fault => rfl
  | ok procedure =>
    simp only [load_untraced facade]
    cases (load host fuel procedure).run.run session with
    | mk outcome loaded =>
      cases outcome with
      | error stop => rfl
      | ok _ =>
        exact Frame.dispatches_retraced Tracing.off_passive facade fuel (loaded.entry procedure)
          loaded.machine

/-- A document reports its dispatches, and loading reports nothing. -/
theorem exec_reports (facade : host.Facade) (console : session.machine.console = true)
    (observed : session.machine.observed = true) :
    session.machine.Reports (session.dispatches host fuel document)
      ((exec host fuel document).run.run session).2.machine := by
  rw [exec_run]
  unfold dispatches
  cases Procedure.ofValue document with
  | error fault => exact .refl console observed
  | ok procedure =>
    have lasting := load_lasting facade fuel procedure session
    simp only
    cases loads : (load host fuel procedure).run.run session with
    | mk outcome loaded =>
      rw [loads] at lasting
      have reports : session.machine.Reports [] loaded.machine :=
        (Machine.Reports.refl console observed).silent (congrArg Lasting.console lasting)
          (congrArg Lasting.observed lasting) (congrArg Lasting.lines lasting)
          (congrArg Lasting.events lasting)
      cases outcome with
      | error stop => exact reports
      | ok _ =>
        exact reports.trans (Frame.run_reports facade fuel _ _ reports.console reports.observed)

/-- Tracing observes and never influences: documents do the same in sessions that differ in their traces
and in what they trace. Where both the console and an observer are on, the recorded steps are the
dispatches of the run, each of an activation to which it comes, and the written lines are those of the
dispatches whose activation has no local `logging`, or one that reads as true. -/
theorem exec_traced (facade : host.Facade) {other : Session ω π}
    (same : session.untraced = other.untraced) :
    (((exec host fuel document).run.run session).1 = ((exec host fuel document).run.run other).1 ∧
      ((exec host fuel document).run.run session).2.untraced =
        ((exec host fuel document).run.run other).2.untraced ∧
      (session.dispatches host fuel document).map Moment.untraced =
        (other.dispatches host fuel document).map Moment.untraced) ∧
    (session.machine.console = true → session.machine.observed = true →
      session.machine.Reports (session.dispatches host fuel document)
        ((exec host fuel document).run.run session).2.machine) ∧
    ∀ dispatch ∈ session.dispatches host fuel document, ∃ procedure loaded,
      Procedure.ofValue document = .ok procedure ∧
      (load host fuel procedure).run.run session = (.ok (), loaded) ∧
      Frame.Visits host (loaded.entry procedure, loaded.machine)
        (dispatch.frame, dispatch.machine) ∧
      ∃ value op, dispatch.frame.ops[dispatch.frame.pc]? = some value ∧
        Op.classify value = .ok op ∧ dispatch.op = op.traceName := by
  refine ⟨?_, exec_reports facade, fun dispatch => dispatches_visits⟩
  have one := exec_untraced facade fuel document session
  rw [same] at one
  obtain ⟨outcome, left⟩ :=
    Prod.mk.inj (one.symm.trans (exec_untraced facade fuel document other))
  have dispatched := dispatches_untraced facade fuel document session
  rw [same] at dispatched
  exact ⟨outcome, left, dispatched.symm.trans (dispatches_untraced facade fuel document other)⟩

/-- A procedure is quiet until it turns its own `logging` on, and its caller is not. -/
theorem exec_traced_logging :
    let f : Value := .obj [("set", .obj [("logging", .bool false)]),
      ("run", .arr [.bool true, .obj [("op", .str "put"), ("uri", .str "locals:logging")], .int 2])]
    let document : Value :=
      .obj [("include", .obj [("f", f)]), ("run", .arr [.obj [("op", .str "f")], .int 3])]
    let host := Standard.host Standard.noGuests
    let session : Session (World Unit) (Plug Empty) :=
      { machine := { registry := Registry.builtins, observed := true, world := { guest := () } } }
    let ran := (exec host 5 document).run.run session
    let silent := (exec host 5 document).run.run session.untraced
    ((session.dispatches host 5 document).map fun dispatch => (dispatch.op, dispatch.isLogged)) =
        [("f", true), ("put", false), ("put", false), ("put", true), ("put", true)] ∧
      session.machine.Reports (session.dispatches host 5 document) ran.2.machine ∧
      ran.1 = silent.1 ∧ ran.2.untraced = silent.2.untraced := by
  intro f document host session ran silent
  have facade : host.Facade := Standard.host_facade Standard.noGuests_facade
  have untraced : session.untraced = session.untraced.untraced := rfl
  obtain ⟨⟨outcome, left, dispatched⟩, reports, -⟩ := exec_traced facade untraced
  refine ⟨?_, reports rfl rfl, outcome, left⟩
  -- What is dispatched is told in the session without a trace.
  have told := congrArg (List.map fun dispatch => (dispatch.op, dispatch.isLogged)) dispatched
  rw [List.map_map, List.map_map] at told
  refine Eq.trans told ?_
  cbv

end Session

end DocMachine
