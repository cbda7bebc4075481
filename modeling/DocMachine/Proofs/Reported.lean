import DocMachine.Proofs.Pending
import DocMachine.Proofs.Places
import DocMachine.Proofs.Retraced

/-!
# What was reported before

What a machine has written and recorded so far makes no difference to what it does next, and neither
does the place in its run list where the root activation of a session was left.

* `Reported` is what was written and recorded, and `Machine.after` a machine that reported some of it
  before.
* `Session.serve` answers requests in turn.
* `Session.Resumes` and `Session.AnswersAlike` compare a session and its answers with one that reported
  less, and whose root may stand in another place.

Results:
1. `Frame.run_after`: what was reported before does not matter to a run.
2. `Session.Resumes.serve`: a session answers all requests like one that it resumes, and adds the same
   to what it reported.
-/

namespace DocMachine

variable {ω π : Type} {host : Host ω π}

/-- What a machine has written and recorded. -/
structure Reported where
  lines : Array String := #[]
  events : Array Event := #[]

namespace Machine

/-- The machine, had it reported this before. -/
def after (machine : Machine ω π) (earlier : Reported) : Machine ω π :=
  { machine with
    lines := earlier.lines ++ machine.lines
    events := earlier.events ++ machine.events }

/-- What the machine has written and recorded. -/
def reported (machine : Machine ω π) : Reported where
  lines := machine.lines
  events := machine.events

variable (machine : Machine ω π)

theorem quiet_after_reported : machine.quiet.after machine.reported = machine := by
  simp [quiet, after, reported]

end Machine

namespace Reported

/-- What was reported before, as a change of the trace. -/
def before (earlier : Reported) (tracing : Tracing) : Tracing :=
  { tracing with
    lines := earlier.lines ++ tracing.lines
    events := earlier.events ++ tracing.events }

theorem before_passive (earlier : Reported) : Tracing.IsPassive ω π earlier.before where
  emit machine event := by
    have observed : (machine.retraced earlier.before).observed = machine.observed := rfl
    unfold Machine.emit
    rw [observed]
    split
    · simp [Machine.retraced, before, Machine.tracing]
    · rfl
  writeStep machine frame op := by
    have enabled : (machine.retraced earlier.before).consoleEnabled frame =
        machine.consoleEnabled frame := rfl
    have line : ((machine.retraced earlier.before).stepEvent frame op).line?
        (machine.retraced earlier.before).elapsed =
          (machine.stepEvent frame op).line? machine.elapsed := rfl
    unfold Machine.writeStep
    rw [enabled, line]
    split
    · cases (machine.stepEvent frame op).line? machine.elapsed with
      | none => rfl
      | some line => simp [Machine.retraced, before, Machine.tracing]
    · rfl

end Reported

/-- The run, had its machine reported this before. -/
def Run.after (run : Run ω π) (earlier : Reported) : Run ω π :=
  { run with machine := run.machine.after earlier }

/-- What was reported before does not matter to a run. -/
theorem Frame.run_after (facade : host.Facade) (earlier : Reported) (fuel : Nat) (frame : Frame)
    (machine : Machine ω π) : frame.run host fuel (machine.after earlier) =
      (frame.run host fuel machine).after earlier :=
  run_retraced earlier.before_passive facade fuel frame machine

namespace Session

variable {earlier : Reported}

/-! ## Requests -/

/-- The sessions are the same, but that `one` has reported more before, and that its root may stand in
another place. -/
structure Resumes (earlier : Reported) (one other : Session ω π) : Prop where
  root : one.root.Beside other.root
  machine : one.machine = other.machine.after earlier
  loading : one.loading = other.loading

/-- The answers to requests, each with its own budget, that are made one after the other. A request is
made whether or not those before it succeeded. -/
def serve (host : Host ω π) : List (Nat × Request) → Session ω π →
    List (Except Stop Unit) × Session ω π
  | [], session => ([], session)
  | (fuel, request) :: rest, session =>
    let answer := (request.task host fuel).run.run session
    let later := serve host rest answer.2
    (answer.1 :: later.1, later.2)

/-- The answers are the same, and so are the sessions that they leave, as far as sessions resume each
other. -/
structure AnswersAlike {α : Type} (earlier : Reported) (one other : α × Session ω π) : Prop where
  outcome : one.1 = other.1
  left : one.2.Resumes earlier other.2

namespace Resumes

variable {one other : Session ω π}

theorem eq_moved (resumes : one.Resumes earlier other) :
    one = other.moved earlier.before fun _ => one.root.place := by
  obtain ⟨machine, root, loading⟩ := one
  obtain ⟨⟨name, depth, locals, pending⟩, rfl, rfl⟩ := resumes
  simp only [moved, Frame.place, Session.mk.injEq, and_true]
  refine ⟨rfl, ?_⟩
  obtain ⟨_, _, _, _, _, _, _⟩ := root
  simp only at name depth locals pending
  subst name depth locals pending
  rfl

theorem moved (session : Session ω π) (place : List Value × Nat × List Nat) :
    (session.moved earlier.before fun _ => place).Resumes earlier session :=
  ⟨⟨rfl, rfl, rfl, rfl⟩, rfl, rfl⟩

/-- What does not depend on the place of the root is answered alike. -/
theorem of_unmoved {α : Type} {task : Task ω π α} (resumes : one.Resumes earlier other)
    (unmoved : ∀ go, IsUnmoved earlier.before go task other) :
    AnswersAlike earlier (task.run.run one) (task.run.run other) := by
  rw [resumes.eq_moved, unmoved fun _ => one.root.place]
  exact ⟨rfl, .moved _ _⟩

/-- The run of a frame. -/
theorem run (facade : host.Facade) (resumes : one.Resumes earlier other) (fuel : Nat)
    (start : Frame) :
    let run (session : Session ω π) := start.run host fuel session.machine
    AnswersAlike earlier
      ((run one).outcome, { one with machine := (run one).machine, root := (run one).frame })
      ((run other).outcome, { other with machine := (run other).machine, root := (run other).frame }) := by
  simp only
  rw [resumes.machine, Frame.run_after facade]
  exact ⟨rfl, ⟨rfl, rfl, rfl, rfl⟩, rfl, resumes.loading⟩

/-- A list of ops starts in the same frame, since that is set to its start. -/
theorem start (resumes : one.Resumes earlier other) (ops : List Value) :
    one.root.start ops = other.root.start ops := by
  obtain ⟨name, depth, locals, pending⟩ := resumes.root
  simp only [Frame.start, name, depth, locals, pending]

theorem entry (resumes : one.Resumes earlier other) (procedure : Procedure) :
    one.entry procedure = other.entry procedure := by
  obtain ⟨name, depth, locals, pending⟩ := resumes.root
  simp only [Session.entry, Frame.start, name, depth, locals, pending]

theorem exec (facade : host.Facade) (resumes : one.Resumes earlier other) (fuel : Nat)
    (document : Value) : AnswersAlike earlier ((Session.exec host fuel document).run.run one)
      ((Session.exec host fuel document).run.run other) := by
  rw [exec_run, exec_run]
  cases Procedure.ofValue document with
  | error fault => exact ⟨rfl, resumes⟩
  | ok procedure =>
    obtain ⟨outcome, left⟩ := resumes.of_unmoved fun _ => load_unmoved facade fuel procedure other
    simp only
    cases loads : (load host fuel procedure).run.run one with
    | mk loaded session =>
      cases loads' : (load host fuel procedure).run.run other with
      | mk loaded' session' =>
        rw [loads, loads'] at outcome left
        obtain rfl : loaded = loaded' := outcome
        cases loaded with
        | error stop => exact ⟨rfl, left⟩
        | ok _ =>
          simp only [left.entry procedure]
          exact left.run facade fuel (session'.entry procedure)

theorem eval (facade : host.Facade) (resumes : one.Resumes earlier other) (fuel : Nat)
    (line : String) : AnswersAlike earlier ((Session.eval host fuel line).run.run one)
      ((Session.eval host fuel line).run.run other) := by
  rw [eval_run, eval_run]
  generalize Text.trim line = text
  split
  · exact ⟨rfl, resumes⟩
  · split
    · next name _ => exact resumes.of_unmoved fun _ => importModule_unmoved name other
    · split
      · obtain ⟨outcome, left⟩ := resumes.of_unmoved fun _ => fetch_unmoved facade text other
        cases fetched : (fetch host text).run.run one with
        | mk got session =>
          cases fetched' : (fetch host text).run.run other with
          | mk got' session' =>
            rw [fetched, fetched'] at outcome left
            obtain rfl : got = got' := outcome
            cases got with
            | error stop => exact ⟨rfl, left⟩
            | ok document => exact left.exec facade fuel document
      · split
        · next op _ =>
          rw [runRoot_run, runRoot_run, resumes.start]
          exact resumes.run facade fuel (other.root.start [op])
        · exact ⟨rfl, resumes⟩

/-- Any request is answered alike. -/
theorem request (facade : host.Facade) (resumes : one.Resumes earlier other) (fuel : Nat)
    (request : Request) : AnswersAlike earlier ((request.task host fuel).run.run one)
      ((request.task host fuel).run.run other) := by
  cases request with
  | exec document => exact resumes.exec facade fuel document
  | eval line => exact resumes.eval facade fuel line

/-- So are any number of them. -/
theorem serve (facade : host.Facade) (resumes : one.Resumes earlier other)
    (requests : List (Nat × Request)) :
    AnswersAlike earlier (Session.serve host requests one) (Session.serve host requests other) := by
  induction requests generalizing one other with
  | nil => exact ⟨rfl, resumes⟩
  | cons first rest ih =>
    obtain ⟨fuel, request⟩ := first
    obtain ⟨outcome, left⟩ := resumes.request facade fuel request
    obtain ⟨later, last⟩ := ih left
    exact ⟨by simp only [Session.serve, outcome, later], last⟩

end Resumes

end Session

end DocMachine
