import DocMachine.Proofs.Loading
import DocMachine.Proofs.Steps
import DocMachine.Proofs.Tables
import DocMachine.Proofs.Turns
import Mathlib

/-!
# Pending parameters

An op may set parameters for the op invocation that comes next in its activation. They count once,
whatever that invocation is, and no other activation ever sees them.

* `Dispatch` records an op invocation that was handed to its handler, and `Dispatch.leaves` is what
  it leaves for the next one.
* `Frame.Proceeds` and `Frame.Activates` follow a run, like `Frame.Reaches` and `Frame.Visits`, and
  keep the log of the activation.
* `Session.Past` keeps the log of the root activation from one request to the next.
* `Plugins.LeavesPending`: foreign handlers have no part in this.

Results:
1. `Frame.turn_pending`: what one op does to the pending parameters.
2. `Frame.Activates.pending`: in every activation, those of the latest dispatch are pending.
3. `Session.Past.pending`: so it is at the root, across requests, and `Session.Past.after` continues
   its log.
4. `Op.get?_bindings`: what an op invocation binds, by its object.
5. `Session.hands_latest`: what each op is handed.
-/

namespace DocMachine

variable {ω π : Type} {host : Host ω π}

/-- An op invocation that was handed to its handler.

* `stack` is the stack that it found.
* `succeeded` tells whether the activation went on after it. -/
structure Dispatch (π : Type) where
  handler : Handler π
  stack : List Value
  succeeded : Bool

namespace Dispatch

/-- What is pending after a dispatch: the object that was popped, if it was to be pending and that
succeeded. -/
def leaves : Dispatch π → Scope
  | ⟨.builtin .nextParams, .obj fields :: _, true⟩ => fields
  | _ => []

/-- What is pending after all the dispatches of an activation, which are listed from the latest
on. -/
def pending : List (Dispatch π) → Scope
  | [] => []
  | latest :: _ => latest.leaves

theorem leaves_failed (handler : Handler π) (stack : List Value) :
    leaves ⟨handler, stack, false⟩ = [] := by
  unfold leaves
  split
  · next same => cases same
  · rfl

theorem leaves_of_ne {handler : Handler π} (noNext : handler ≠ .builtin .nextParams)
    (stack : List Value) (succeeded : Bool) : leaves ⟨handler, stack, succeeded⟩ = [] := by
  unfold leaves
  split
  · next same =>
    cases same
    exact absurd rfl noNext
  · rfl

end Dispatch

namespace Frame

/-- The handler of the op that comes next, if that is an op invocation and there is one of its
name. -/
def handler? (frame : Frame) (machine : Machine ω π) : Option (Handler π) := do
  let .ok (.invoke name _) := Op.classify (← frame.ops[frame.pc]?) | none
  (machine.registry.op name).toOption

/-- The log after the op that comes next, given whether it succeeds. -/
def note (state : Frame × Machine ω π) (succeeded : Bool) (log : List (Dispatch π)) :
    List (Dispatch π) :=
  match state.1.handler? state.2 with
  | some handler => ⟨handler, state.2.stack, succeeded⟩ :: log
  | none => log

variable {frame : Frame} {machine : Machine ω π} {log : List (Dispatch π)} {succeeded : Bool}

theorem note_of_none (none : frame.handler? machine = none) :
    note (frame, machine) succeeded log = log := by
  rw [note, none]

theorem Invokes.note {name : String} {params : Scope} {handler : Handler π}
    (invokes : frame.Invokes machine name params handler) :
    Frame.note (frame, machine) succeeded log = ⟨handler, machine.stack, succeeded⟩ :: log := by
  obtain ⟨value, found, classified, resolved⟩ := invokes
  simp [Frame.note, handler?, found, classified, resolved, Except.toOption]

end Frame

/-! ## One op -/

/-- What is pending after the turn: `next` if the activation goes on, and `stop` if it stops. -/
def Turn.Pends (next stop : Scope) : Turn ω π → Prop
  | .ended => True
  | .next frame _ => frame.pending = next
  | .stop _ frame _ => frame.pending = stop

/-- Acts that work through the façade leave alone what is pending. -/
theorem Act.Facade.keeps_pending {α : Type} {act : Act ω π α} (facade : act.Facade)
    (pending : Scope) : act.Keeps fun call => call.frame.pending = pending := by
  rintro call rfl
  exact congrArg Inside.pending (facade.inside call)

/-- No foreign handler changes what is pending. -/
def Plugins.LeavesPending (host : Host ω π) : Prop :=
  ∀ pending, host.Keeps fun call => call.frame.pending = pending

theorem Plugins.Facade.leavesPending (facade : host.Facade) : host.LeavesPending := fun pending =>
  { op := fun plug scope => (facade.op plug scope).keeps_pending pending
    get := fun plug uri scope => (facade.get plug uri scope).keeps_pending pending
    put := fun plug value uri scope => (facade.put plug value uri scope).keeps_pending pending
    delete := fun plug uri scope => (facade.delete plug uri scope).keeps_pending pending }

namespace Frame

variable {frame : Frame} {machine : Machine ω π} {callee : Frame → Machine ω π → Run ω π}

/-- What was pending is spent, unless the act itself sets it. -/
theorem perform_pending {act : Act ω π (List Value)}
    (keeps : act.Keeps fun call => call.frame.pending = []) (name : String) :
    (frame.perform act name machine).Pends [] [] := by
  -- The handler starts with nothing pending.
  have kept := keeps ⟨machine, frame.spent, name⟩ rfl
  obtain ⟨turn, comes, performs⟩ := perform_performs act name frame machine
  rw [comes]
  cases performs with
  | answered ran =>
    rw [ran] at kept
    exact kept
  | refused ran =>
    rw [ran] at kept
    exact kept

theorem nextParams_pending (name : String) (bound : Scope) :
    (frame.perform (Shuffle.nextParams bound) name machine).Pends
      (Dispatch.leaves (π := π) ⟨.builtin .nextParams, machine.stack, true⟩) [] := by
  unfold perform
  rw [Shuffle.nextParams_run]
  cases bound with
  | cons entry rest => exact rfl
  | nil =>
    cases holds : machine.stack with
    | nil => exact rfl
    | cons top rest => cases top <;> exact rfl

theorem enter_pending (child : Frame) : (frame.enter callee child machine).Pends [] [] := by
  obtain ⟨turn, comes, enters⟩ := enter_enters callee frame child machine
  rw [comes]
  cases enters <;> exact rfl

theorem dispatch_pending (leaves : host.LeavesPending) (name : String) (bound : Scope)
    (handler : Handler π) : (frame.dispatch host callee name bound handler machine).Pends
      (Dispatch.leaves ⟨handler, machine.stack, true⟩) [] := by
  by_cases next : handler = .builtin .nextParams
  · subst next
    exact nextParams_pending name bound
  · rw [Dispatch.leaves_of_ne next]
    cases handler with
    | foreign plug => exact perform_pending ((leaves []).op plug bound) name
    | procedure procedure => exact enter_pending _
    | builtin op =>
      have noNext : op ≠ .nextParams := fun same => next (congrArg Handler.builtin same)
      exact perform_pending (Builtin.act_keeps (fun _ _ _ _ _ _ holds => holds)
        (leaves []) (fun isNext => absurd isNext noNext) bound) name

/-- The pending parameters are those that the latest dispatch leaves, from one op to the next. -/
theorem turn_pending (leaves : host.LeavesPending) (callee : Frame → Machine ω π → Run ω π)
    (machine : Machine ω π) {log : List (Dispatch π)}
    (holds : frame.pending = Dispatch.pending log) :
    (frame.turn host callee machine).Pends (Dispatch.pending (note (frame, machine) true log))
      (Dispatch.pending (note (frame, machine) false log)) := by
  obtain ⟨turn, comes, turns⟩ := turn_turns host callee frame machine
  rw [comes]
  cases turns with
  | ended => trivial
  | @element value _ found takes =>
    cases takes with
    | malformed refused =>
      have none : frame.handler? machine = none := by simp [handler?, found, refused]
      rw [note_of_none none, note_of_none none]
      exact holds
    | literal classified =>
      have none : frame.handler? machine = none := by simp [handler?, found, classified]
      rw [note_of_none none, note_of_none none]
      exact holds
    | unknown classified unknown =>
      have none : frame.handler? machine = none := by
        simp [handler?, found, classified, unknown, Except.toOption]
      rw [note_of_none none, note_of_none none]
      exact holds
    | @dispatched name params handler classified resolved =>
      have invokes : frame.Invokes machine name params handler :=
        ⟨value, found, classified, resolved⟩
      rw [invokes.note, invokes.note, ← machine.traceStep_stack frame name]
      simp only [Dispatch.pending, Dispatch.leaves_failed]
      exact dispatch_pending leaves name _ handler

/-! ## Runs -/

/-- From `start`, where it had the log `past`, an activation comes to a state and has a log
there. -/
inductive Proceeds (host : Host ω π) (past : List (Dispatch π)) (start : Frame × Machine ω π) :
    List (Dispatch π) → Frame × Machine ω π → Prop
  | refl : Proceeds host past start past start
  | step {log : List (Dispatch π)} {state next : Frame × Machine ω π} :
      Proceeds host past start log state → Steps host state next →
      Proceeds host past start (note state true log) next

/-- A run from `start` comes to a state of its own activation, or of one that it calls, which has
the log there. An activation that is called has an empty log at first. -/
inductive Activates (host : Host ω π) : List (Dispatch π) → Frame × Machine ω π →
    List (Dispatch π) → Frame × Machine ω π → Prop
  | own {past log : List (Dispatch π)} {start state : Frame × Machine ω π} :
      Proceeds host past start log state → Activates host past start log state
  | call {past reached log : List (Dispatch π)} {start state child inner : Frame × Machine ω π} :
      Proceeds host past start reached state → state.1.Calls state.2 child →
      child.1.depth ≤ state.2.maxDepth → Activates host [] child log inner →
      Activates host past start log inner

theorem Reaches.proceeds {start state : Frame × Machine ω π} (reach : Reaches host start state)
    (past : List (Dispatch π)) : ∃ log, Proceeds host past start log state := by
  induction reach with
  | refl => exact ⟨past, .refl⟩
  | tail _ step ih =>
    obtain ⟨log, proceeds⟩ := ih
    exact ⟨_, proceeds.step step⟩

/-- Wherever a run comes to, there is a log. -/
theorem Visits.activates {start state : Frame × Machine ω π} (visits : Visits host start state)
    (past : List (Dispatch π)) : ∃ log, Activates host past start log state := by
  induction visits generalizing past with
  | own reach =>
    obtain ⟨log, proceeds⟩ := reach.proceeds past
    exact ⟨log, .own proceeds⟩
  | call reach calls shallow _ ih =>
    obtain ⟨reached, proceeds⟩ := reach.proceeds past
    obtain ⟨log, activates⟩ := ih []
    exact ⟨log, .call proceeds calls shallow activates⟩

theorem Proceeds.head {past log : List (Dispatch π)} {start next state : Frame × Machine ω π}
    (proceeds : Proceeds host (note start true past) next log state)
    (step : Steps host start next) : Proceeds host past start log state := by
  induction proceeds with
  | refl => exact Proceeds.refl.step step
  | step _ later ih => exact ih.step later

theorem Proceeds.pending (leaves : host.LeavesPending) {past log : List (Dispatch π)}
    {start state : Frame × Machine ω π} (proceeds : Proceeds host past start log state)
    (holds : start.1.pending = Dispatch.pending past) :
    state.1.pending = Dispatch.pending log := by
  induction proceeds with
  | refl => exact holds
  | @step reached middle next _ step ih =>
    obtain ⟨fuel, taken⟩ := step
    have pends := turn_pending leaves (run host fuel) middle.2 ih
    rw [taken] at pends
    exact pends

/-- In whatever activation a run is, those parameters are pending that the latest dispatch of this
activation left. -/
theorem Activates.pending (leaves : host.LeavesPending) {past log : List (Dispatch π)}
    {start state : Frame × Machine ω π} (activates : Activates host past start log state)
    (holds : start.1.pending = Dispatch.pending past) :
    state.1.pending = Dispatch.pending log := by
  induction activates with
  | own proceeds => exact proceeds.pending leaves holds
  | call _ calls _ _ ih =>
    -- A callee starts with nothing pending, whatever its caller has.
    obtain ⟨_, _, _, _, _, _, _, isChild, _⟩ := calls
    exact ih (by rw [isChild]; rfl)

/-- A run stops, or comes to an end, where the activation is in the state `last`. -/
def Halts (host : Host ω π) (last : Frame × Machine ω π) (run : Run ω π) : Prop :=
  ∃ fuel, last.1.run host (fuel + 1) last.2 = run ∧
    ∀ after left, last.1.turn host (Frame.run host fuel) last.2 ≠ .next after left

/-- A run that came to an end of its own did so somewhere. -/
theorem proceeds_halts {fuel : Nat} {start : Frame × Machine ω π} {past : List (Dispatch π)}
    (finished : (start.1.run host fuel start.2).Finished) :
    ∃ log last, Proceeds host past start log last ∧
      Halts host last (start.1.run host fuel start.2) := by
  induction fuel generalizing start past with
  | zero => exact absurd finished (run_zero_not_finished _ _)
  | succ fuel ih =>
    cases taken : start.1.turn host (run host fuel) start.2 with
    | ended => exact ⟨past, start, .refl, fuel, rfl, fun _ _ => by rw [taken]; simp⟩
    | stop _ _ _ => exact ⟨past, start, .refl, fuel, rfl, fun _ _ => by rw [taken]; simp⟩
    | next after left =>
      have same : start.1.run host (fuel + 1) start.2 = after.run host fuel left := by
        rw [run_succ, taken]
      rw [same] at finished ⊢
      obtain ⟨log, last, proceeds, halts⟩ := @ih (after, left) (note start true past) finished
      exact ⟨log, last, proceeds.head ⟨fuel, taken⟩, halts⟩

theorem Halts.pending (leaves : host.LeavesPending) {last : Frame × Machine ω π} {run : Run ω π}
    (halts : Halts host last run) {log : List (Dispatch π)}
    (holds : last.1.pending = Dispatch.pending log) :
    run.frame.pending = Dispatch.pending (note last false log) := by
  obtain ⟨fuel, rfl, stays⟩ := halts
  have pends := turn_pending leaves (Frame.run host fuel) last.2 holds
  rw [run_succ]
  cases taken : last.1.turn host (Frame.run host fuel) last.2 with
  | ended =>
    -- The run list is done, so there is no op to note.
    have nothing : last.1.ops[last.1.pc]? = none := ops_of_ended taken
    rw [note_of_none (by simp [handler?, nothing])]
    exact holds
  | next after left => exact absurd taken (stays after left)
  | stop reason after left =>
    rw [taken] at pends
    exact pends

end Frame

/-! ## Requests -/

/-- What a session is asked for: to run a document, or to evaluate a line. -/
inductive Request where
  | exec (document : Value)
  | eval (line : String)

namespace Session

/-- The state in which the run of a document starts, if it comes to that. -/
def execStart? (host : Host ω π) (fuel : Nat) (document : Value) (session : Session ω π) :
    Option (Frame × Machine ω π) :=
  match Procedure.ofValue document with
  | .error _ => none
  | .ok procedure =>
    match (load host fuel procedure).run.run session with
    | (.error _, _) => none
    | (.ok _, loaded) => some (loaded.entry procedure, loaded.machine)

/-- The state in which the run of a line starts, if it comes to that. -/
def evalStart? (host : Host ω π) (fuel : Nat) (line : String) (session : Session ω π) :
    Option (Frame × Machine ω π) :=
  let line := Text.trim line
  if line.isEmpty then none
  else
    match importOf? line with
    | some _ => none
    | none =>
      if isProcedureUri line then
        match (fetch host line).run.run session with
        | (.ok document, got) => execStart? host fuel document got
        | (.error _, _) => none
      else (parseLiteral? line).map fun op => (session.root.start [op], session.machine)

end Session

namespace Request

/-- What is done for a request. -/
def task (host : Host ω π) (fuel : Nat) : Request → Task ω π Unit
  | exec document => Session.exec host fuel document
  | eval line => Session.eval host fuel line

/-- The state in which the run for a request starts, if it comes to that. -/
def start? (host : Host ω π) (fuel : Nat) : Request → Session ω π → Option (Frame × Machine ω π)
  | exec document => Session.execStart? host fuel document
  | eval line => Session.evalStart? host fuel line

end Request

namespace Session

/-- The answer to a request whose run starts as told: the root activation is what the run leaves or,
without a run, has the same parameters pending as before. -/
inductive Answers (host : Host ω π) (fuel : Nat) (session : Session ω π)
    (answer : Except Stop Unit × Session ω π) : Option (Frame × Machine ω π) → Prop
  | silent : answer.2.root.pending = session.root.pending → Answers host fuel session answer none
  | ran {start : Frame × Machine ω π} : start.1.pending = session.root.pending →
      answer.1 = (start.1.run host fuel start.2).outcome →
      answer.2.root = (start.1.run host fuel start.2).frame →
      Answers host fuel session answer (some start)

theorem pending_closed (leaves : host.LeavesPending) (pending : Scope) :
    Task.Closed host fun _ (task : Task ω π _) => task.Keeps (·.root.pending = pending) := by
  refine Task.Keeps.closed (fun _ _ holds => holds) (fun _ _ holds => holds) ?_
  intro uri session holds
  rw [Task.fetch_run]
  cases session.machine.registry.getter uri with
  | error fault => exact holds
  | ok plugin =>
    rcases plugin with reach | plug
    · exact (Act.Facade.blocks.closed.getVariable reach uri []).keeps_pending pending _ holds
    · exact (leaves pending).get plug uri [] _ holds

theorem exec_answers (leaves : host.LeavesPending) (fuel : Nat) (document : Value)
    (session : Session ω π) :
    session.Answers host fuel ((exec host fuel document).run.run session)
      (execStart? host fuel document session) := by
  rw [exec_run]
  unfold execStart?
  cases Procedure.ofValue document with
  | error fault => exact .silent rfl
  | ok procedure =>
    have kept := load_closed (pending_closed leaves session.root.pending) fuel procedure session rfl
    simp only
    cases loads : (load host fuel procedure).run.run session with
    | mk outcome loaded =>
      rw [loads] at kept
      cases outcome with
      | error stop => exact .silent kept
      | ok _ => exact .ran kept rfl rfl

theorem Answers.of_same {fuel : Nat} {session other : Session ω π}
    (same : other.root.pending = session.root.pending) {answer : Except Stop Unit × Session ω π}
    {start? : Option (Frame × Machine ω π)} (answers : other.Answers host fuel answer start?) :
    session.Answers host fuel answer start? := by
  cases answers with
  | silent kept => exact .silent (kept.trans same)
  | ran begun outcome root => exact .ran (begun.trans same) outcome root

theorem eval_answers (leaves : host.LeavesPending) (fuel : Nat) (line : String) (session : Session ω π) :
    session.Answers host fuel ((eval host fuel line).run.run session)
      (evalStart? host fuel line session) := by
  rw [eval_run]
  unfold evalStart?
  simp only
  generalize Text.trim line = text
  by_cases blank : text.isEmpty = true
  · rw [if_pos blank, if_pos blank]
    exact .silent rfl
  rw [if_neg blank, if_neg blank]
  cases importOf? text with
  | some name =>
    exact .silent ((pending_closed leaves session.root.pending).importModule name session rfl)
  | none =>
    simp only
    by_cases isUri : isProcedureUri text = true
    · rw [if_pos isUri, if_pos isUri]
      have kept := (pending_closed leaves session.root.pending).fetch text session rfl
      cases fetched : (fetch host text).run.run session with
      | mk outcome got =>
        rw [fetched] at kept
        cases outcome with
        | error stop => exact .silent kept
        | ok document => exact (exec_answers leaves fuel document got).of_same kept
    · rw [if_neg isUri, if_neg isUri]
      cases parseLiteral? text with
      | none => exact .silent rfl
      | some op =>
        simp only [runRoot_run]
        exact .ran rfl rfl rfl

/-- A session that came to be by requests, and the log of its root activation.

* `new`: a session to which no request was made.
* `silent`: nothing was run for a request.
* `ran`: the run for a request halted where the log says. -/
inductive Past (host : Host ω π) : List (Dispatch π) → Session ω π → Prop
  | new {session : Session ω π} : session.root.pending = [] → Past host [] session
  | silent {log : List (Dispatch π)} {session : Session ω π} {fuel : Nat} {request : Request} :
      Past host log session → request.start? host fuel session = none →
      Past host log ((request.task host fuel).run.run session).2
  | ran {past log : List (Dispatch π)} {session : Session ω π} {fuel : Nat} {request : Request}
      {start last : Frame × Machine ω π} :
      Past host past session → request.start? host fuel session = some start →
      Frame.Proceeds host past start log last →
      Frame.Halts host last (start.1.run host fuel start.2) →
      Past host (Frame.note last false log) ((request.task host fuel).run.run session).2

end Session

theorem Request.answers (leaves : host.LeavesPending) (fuel : Nat) (request : Request)
    (session : Session ω π) :
    session.Answers host fuel ((request.task host fuel).run.run session)
      (request.start? host fuel session) := by
  cases request with
  | exec document => exact Session.exec_answers leaves fuel document session
  | eval line => exact Session.eval_answers leaves fuel line session

namespace Session

/-- At the root those parameters are pending that its latest dispatch left, be it for an earlier
request. -/
theorem Past.pending (leaves : host.LeavesPending) {log : List (Dispatch π)} {session : Session ω π}
    (past : Past host log session) : session.root.pending = Dispatch.pending log := by
  induction past with
  | new fresh => exact fresh
  | @silent log session fuel request _ none ih =>
    have answers := request.answers leaves fuel session
    rw [none] at answers
    cases answers with
    | silent kept => exact kept.trans ih
  | @ran past log session fuel request start last _ starts proceeds halts ih =>
    have answers := request.answers leaves fuel session
    rw [starts] at answers
    cases answers with
    | ran begun _ root =>
      rw [root]
      exact halts.pending leaves (proceeds.pending leaves (begun.trans ih))

/-- A request that comes to an end continues the log. -/
theorem Past.after (leaves : host.LeavesPending) {log : List (Dispatch π)} {session : Session ω π}
    (past : Past host log session) (fuel : Nat) (request : Request)
    (finished : ((request.task host fuel).run.run session).1 ≠ .error .starved) :
    ∃ log', Past host log' ((request.task host fuel).run.run session).2 := by
  have answers := request.answers leaves fuel session
  cases starts : request.start? host fuel session with
  | none => exact ⟨log, past.silent starts⟩
  | some start =>
    rw [starts] at answers
    cases answers with
    | ran _ outcome _ =>
      rw [outcome] at finished
      obtain ⟨log', last, proceeds, halts⟩ := Frame.proceeds_halts finished
      exact ⟨_, past.ran starts proceeds halts⟩

end Session

/-! ## What is handed on -/

/-- An op invocation is written as an object with the op's name under `op`. -/
theorem Op.classify_invoke {value : Value} {name : String} {params : Scope}
    (classified : Op.classify value = .ok (.invoke name params)) :
    value = .obj params ∧ params.get? "op" = some (.str name) := by
  unfold classify at classified
  split at classified
  · split at classified
    · next named =>
      cases classified
      exact ⟨rfl, named⟩
    · cases classified
    · cases classified
  · cases classified

/-- It binds every key of the object but `op`, with its value. -/
theorem Op.get?_bindings (params : Scope) (key : String) :
    Table.get? (Op.bindings params).reverse key =
      if key = "op" then none else Table.get? params.reverse key := by
  unfold bindings
  rw [← List.filter_reverse]
  induction params.reverse with
  | nil => simp [Table.get?]
  | cons entry rest ih =>
    obtain ⟨first, value⟩ := entry
    by_cases isOp : first = "op"
    · subst isOp
      simp only [ne_eq, not_true_eq_false, decide_false, Bool.false_eq_true, not_false_eq_true,
        List.filter_cons_of_neg, ih, Table.get?]
      split
      · rfl
      · next other => rw [if_neg fun same => other same.symm]
    · simp only [ne_eq, isOp, not_false_eq_true, decide_true, List.filter_cons_of_pos, Table.get?, ih]
      split
      · next same => rw [if_neg (same ▸ isOp)]
      · rfl

/-- With these parameters the op that comes next is run: a handler of the host gets them, and a
procedure finds them among its local variables, after its own settings, with nothing pending. -/
def Frame.Hands (host : Host ω π) (frame : Frame) (machine : Machine ω π) (name : String)
    (bound : Scope) : Handler π → Prop
  | .builtin op => ∀ callee, frame.turn host callee machine =
      frame.perform (op.act host bound) name (machine.traceStep frame name)
  | .foreign plug => ∀ callee, frame.turn host callee machine =
      frame.perform (host.op plug bound) name (machine.traceStep frame name)
  | .procedure procedure => ∃ child : Frame,
      child.locals = (frame.locals.extend procedure.set).extend bound ∧ child.pending = [] ∧
      child.ops = procedure.run ∧ child.pc = 0 ∧ ∀ callee, frame.turn host callee machine =
        frame.enter callee child (machine.traceStep frame name)

theorem Frame.Invokes.hands {frame : Frame} {machine : Machine ω π} {name : String} {params : Scope}
    {handler : Handler π} (invokes : frame.Invokes machine name params handler) :
    frame.Hands host machine name (frame.pending.extend (Op.bindings params)) handler := by
  obtain ⟨value, found, classified, resolved⟩ := invokes
  have taken : ∀ callee, frame.turn host callee machine = frame.dispatch host callee name
      (frame.pending.extend (Op.bindings params)) handler (machine.traceStep frame name) := by
    intro callee
    rw [turn, found]
    simp only [takeUp, classified, Machine.traceStep_registry, resolved]
    rfl
  cases handler with
  | builtin op => exact taken
  | foreign plug => exact taken
  | procedure procedure => exact ⟨_, rfl, rfl, rfl, rfl, taken⟩

namespace Session

/-- Whatever op invocation a run comes to, in whatever activation, it is handed what the latest
dispatch of this activation left, overlaid by the entries of its own object but for the op's name. Where
it comes to, there is a log. -/
theorem hands_latest (leaves : host.LeavesPending) {past : List (Dispatch π)} {session : Session ω π}
    (history : Past host past session) {fuel : Nat} {request : Request}
    {start : Frame × Machine ω π} (starts : request.start? host fuel session = some start)
    {state : Frame × Machine ω π} (visits : Frame.Visits host start state) :
    (∃ log, Frame.Activates host past start log state) ∧
    ∀ log name params handler, Frame.Activates host past start log state →
      state.1.Invokes state.2 name params handler →
      let bound := (Dispatch.pending log).extend (Op.bindings params)
      state.1.Hands host state.2 name bound handler ∧
      state.1.ops[state.1.pc]? = some (.obj params) ∧
      ∀ key, bound.get? key =
        if key = "op" then (Dispatch.pending log).get? key
        else (Table.get? params.reverse key).or ((Dispatch.pending log).get? key) := by
  refine ⟨visits.activates past, fun log name params handler activates invokes => ?_⟩
  have answers := request.answers leaves fuel session
  rw [starts] at answers
  have begun : start.1.pending = Dispatch.pending past := by
    cases answers with
    | ran same _ _ => exact same.trans (history.pending leaves)
  have pending := activates.pending leaves begun
  refine ⟨by rw [← pending]; exact invokes.hands, ?_, fun key => ?_⟩
  · obtain ⟨value, found, classified, -⟩ := invokes
    rw [found, (Op.classify_invoke classified).1]
  · rw [Table.get?_extend, Op.get?_bindings]
    split <;> rfl

/-- What one document left pending is handed to the first op of the next, past a literal. Where the op has a
value of its own, that one counts. -/
theorem hands_latest_across_requests :
    let fields : Scope := [("n", .int 1), ("forward", .bool false)]
    let first : Value := .obj [("run", .arr [.obj fields, .obj [("op", .str "set_next_params")]])]
    let pack : Scope := [("op", .str "pack"), ("n", .int 2)]
    let second : Value := .obj [("run", .arr [.bool true, .obj pack])]
    let host := Standard.host Standard.noGuests
    let session : Session (World Unit) (Plug Empty) :=
      { machine := { registry := Registry.builtins, console := false, world := { guest := () } } }
    let later := ((exec host 3 first).run.run session).2
    ∃ start state bound, (Request.exec second).start? host 3 later = some start ∧
      Frame.Steps host start state ∧ state.1.Hands host state.2 "pack" bound (.builtin .pack) ∧
      bound.get? "n" = some (.int 2) ∧ bound.get? "forward" = some (.bool false) ∧
      bound.get? "op" = none := by
  intro fields first pack second host session later
  have leaves : host.LeavesPending := (Standard.host_facade Standard.noGuests_facade).leavesPending
  let frame := Frame.root.start [.obj fields, .obj [("op", .str "set_next_params")]]
  let pushed := session.machine.pushAll [.obj fields]
  have literal : Frame.Steps host (frame, session.machine) (frame.advance, pushed) := ⟨0, rfl⟩
  let last := { frame.advance.spent with pending := fields }
  have sets : Frame.Steps host (frame.advance, pushed) (last, session.machine) := ⟨0, by cbv⟩
  have history : Past host [⟨.builtin .nextParams, [.obj fields], true⟩] later := by
    have starts : (Request.exec first).start? host 3 session = some (frame, session.machine) := by
      cbv
    have halts : Frame.Halts host (last, session.machine) (frame.run host 3 session.machine) := by
      refine ⟨0, by cbv, fun after left taken => ?_⟩
      cases taken
    have logged : Frame.note (last, session.machine) false
        (Frame.note (frame.advance, pushed) true (Frame.note (frame, session.machine) true [])) =
          [⟨.builtin .nextParams, [.obj fields], true⟩] := by cbv
    rw [← logged]
    show Past host _ (((Request.exec first).task host 3).run.run session).2
    exact Past.ran (.new rfl) starts (.step (.step .refl literal) sets) halts
  have left : later = { session with root := last } := by cbv
  let next := last.start [.bool true, .obj pack]
  have starts : (Request.exec second).start? host 3 later = some (next, session.machine) := by
    rw [left]
    cbv
  have step : Frame.Steps host (next, session.machine)
      (next.advance, session.machine.pushAll [.bool true]) := ⟨0, rfl⟩
  obtain ⟨hands, -, told⟩ := (hands_latest leaves history starts (.own (.single step))).2 _ "pack" pack
    (.builtin .pack) (.own (.step .refl step)) ⟨_, rfl, rfl, by cbv⟩
  exact ⟨_, _, _, starts, step, hands, told "n", told "forward", told "op"⟩

end Session

end DocMachine
