import DocMachine.Proofs.Reported

/-!
# What a failed run leaves behind

Parameters are pending from the op that sets them to the next op that is handed to its handler. If a
run fails at such an op, they are spent. An op without a handler does not spend them: it fails before,
so they are still pending when the next document or line is given to the session.

* `Failure.IsUnhandled`: the run failed at an op of its own list that has no handler.
* `Session.IsIdle`: the session waits for a request, so its root is the root of every new session.
* `Session.renewed` is a new session with the stack, the variables, the registry and the world of this
  one.

Results:
1. `Frame.run_spends` and `Session.exec_spends`: a failed run leaves nothing pending, or failed at an op
   without a handler.
2. `Session.IsIdle.request`: sessions are idle from one request to the next.
3. `Session.exec_leftover`: where a failed document leaves nothing pending, the session answers all later
   requests like a new one.
-/

namespace DocMachine

variable {ω π : Type} {host : Host ω π}

/-- All elements of the run list of a valid document are literals or op invocations. -/
theorem Procedure.ofValue_classifies {document : Value} {procedure : Procedure}
    (valid : ofValue document = .ok procedure) :
    ∀ value ∈ procedure.run, ∃ op, Op.classify value = .ok op := by
  obtain ⟨fields, rfl, read⟩ := ofValue_record valid
  rw [ofValue_obj, read] at valid
  simp only at valid
  split at valid
  · cases valid
  · split at valid
    · cases valid
    · next done checked =>
      clear read valid
      generalize procedure.run = values at checked
      induction values with
      | nil =>
        intro value listed
        cases listed
      | cons first rest ih =>
        have checked : (Op.classify first >>= fun _ => pure ()) >>=
            (fun _ => rest.forM fun value => Op.classify value >>= fun _ => pure ()) = .ok done :=
          checked
        cases classified : Op.classify first with
        | error fault =>
          rw [classified] at checked
          cases checked
        | ok op =>
          rw [classified] at checked
          intro value listed
          rcases List.mem_cons.mp listed with rfl | later
          · exact ⟨op, classified⟩
          · exact ih checked value later

/-! ## Runs -/

/-- The failure is that of an op in the run list of the activation, for which the machine has no
handler. -/
def Failure.IsUnhandled (machine : Machine ω π) (name : String) (ops : List Value)
    (failure : Failure) : Prop :=
  ∃ (pc : Nat) (value : Value) (op : String) (params : Scope), ops[pc]? = some value ∧
    Op.classify value = .ok (.invoke op params) ∧
    machine.registry.op op = .error (.unknownOp op) ∧ failure = ⟨.unknownOp op, [⟨name, pc⟩]⟩

namespace Frame

variable {frame : Frame} {machine left : Machine ω π} {failure : Failure} {after : Frame}

/-- An op that fails spends what was pending, unless it has no handler. -/
theorem turn_spends (facade : host.Facade) {callee : Frame → Machine ω π → Run ω π}
    (valid : ∀ value ∈ frame.ops, ∃ op, Op.classify value = .ok op)
    (taken : frame.turn host callee machine = .stop (.failed failure) after left) :
    after.pending = [] ∨ failure.IsUnhandled left frame.name frame.ops := by
  obtain ⟨turn, comes, turns⟩ := turn_turns host callee frame machine
  rw [comes] at taken
  cases turns with
  | ended => cases taken
  | @element value _ found takes =>
    cases takes with
    | malformed refused =>
      obtain ⟨op, classified⟩ := valid value (List.mem_of_getElem? found)
      rw [classified] at refused
      cases refused
    | literal => cases taken
    | @unknown name params _ classified unknown =>
      obtain rfl := Registry.op_error unknown
      cases taken
      refine .inr ⟨frame.pc, value, name, params, found, classified, ?_, ?_⟩
      · rw [Machine.traceStep_registry]
        exact unknown
      · rw [taken_advance]
        rfl
    | @dispatched name params handler =>
      have pends : (frame.dispatch host callee name (frame.pending.extend (Op.bindings params))
          handler (machine.traceStep frame name)).Pends _ [] :=
        dispatch_pending facade.leavesPending _ _ _
      rw [taken] at pends
      exact .inl pends

/-- A run that fails leaves nothing pending, unless it failed at an op of its own that has no
handler. -/
theorem run_spends (facade : host.Facade) {fuel : Nat}
    (valid : ∀ value ∈ frame.ops, ∃ op, Op.classify value = .ok op)
    (failed : (frame.run host fuel machine).outcome = .error (.failed failure)) :
    (frame.run host fuel machine).frame.pending = [] ∨
      failure.IsUnhandled (frame.run host fuel machine).machine frame.name frame.ops := by
  induction fuel generalizing frame machine with
  | zero => cases failed
  | succ fuel ih =>
    rw [run_succ] at failed ⊢
    cases taken : frame.turn host (run host fuel) machine with
    | ended =>
      rw [taken] at failed
      cases failed
    | stop reason after left =>
      rw [taken] at failed
      cases failed
      exact turn_spends facade valid taken
    | next after left =>
      rw [taken] at failed
      have same := turn_same facade taken
      rw [← same.name, ← same.ops]
      exact ih (by rwa [same.ops]) failed

end Frame

namespace Session

/-! ## Idle sessions -/

/-- The session waits for a request: its root is that of every new session, but for what it holds, and
nothing is being loaded. -/
structure IsIdle (session : Session ω π) : Prop where
  name : session.root.name = Frame.root.name
  depth : session.root.depth = Frame.root.depth
  loading : session.loading = []

namespace IsIdle

variable {session : Session ω π}

theorem new (machine : Machine ω π) : ({ machine } : Session ω π).IsIdle := ⟨rfl, rfl, rfl⟩

theorem of_lasting {left : Session ω π} (idle : session.IsIdle)
    (lasting : left.lasting = session.lasting) (loading : left.loading = session.loading) :
    left.IsIdle where
  name := (congrArg Lasting.name lasting).trans idle.name
  depth := (congrArg Lasting.depth lasting).trans idle.depth
  loading := loading.trans idle.loading

/-- A run in the root leaves the root. -/
theorem run (facade : host.Facade) (idle : session.IsIdle) (fuel : Nat) (start : Frame)
    (name : start.name = session.root.name) (depth : start.depth = session.root.depth) :
    let run := start.run host fuel session.machine
    { session with machine := run.machine, root := run.frame }.IsIdle := by
  have kept := Frame.run_same facade fuel start session.machine
  exact ⟨(kept.name.trans name).trans idle.name, (kept.depth.trans depth).trans idle.depth,
    idle.loading⟩

theorem exec (facade : host.Facade) (idle : session.IsIdle) (fuel : Nat) (document : Value) :
    ((Session.exec host fuel document).run.run session).2.IsIdle := by
  rw [exec_run]
  cases Procedure.ofValue document with
  | error fault => exact idle
  | ok procedure =>
    have loaded := idle.of_lasting (load_lasting facade fuel procedure session)
      (load_loading fuel procedure session)
    simp only
    cases loads : (load host fuel procedure).run.run session with
    | mk outcome left =>
      rw [loads] at loaded
      cases outcome with
      | error stop => exact loaded
      | ok _ => exact loaded.run facade fuel (left.entry procedure) rfl rfl

theorem eval (facade : host.Facade) (idle : session.IsIdle) (fuel : Nat) (line : String) :
    ((Session.eval host fuel line).run.run session).2.IsIdle := by
  rw [eval_run]
  generalize Text.trim line = text
  split
  · exact idle
  · split
    · next name _ =>
      exact idle.of_lasting ((lasting_closed facade _).importModule name session rfl)
        (loading_parts.importModule name session)
    · split
      · have got := idle.of_lasting ((lasting_closed facade _).fetch text session rfl)
          (loading_parts.fetch text session)
        cases fetched : (fetch host text).run.run session with
        | mk outcome left =>
          rw [fetched] at got
          cases outcome with
          | error stop => exact got
          | ok document => exact got.exec facade fuel document
      · split
        · next op _ =>
          rw [runRoot_run]
          exact idle.run facade fuel (session.root.start [op]) rfl rfl
        · exact idle

/-- Whatever comes of a request, the session waits for the next one. -/
theorem request (facade : host.Facade) (idle : session.IsIdle) (fuel : Nat) (request : Request) :
    ((request.task host fuel).run.run session).2.IsIdle := by
  cases request with
  | exec document => exact idle.exec facade fuel document
  | eval line => exact idle.eval facade fuel line

end IsIdle

/-! ## New sessions -/

/-- A new session with the stack, the variables, the registry, the settings and the world of this
one. -/
def renewed (session : Session ω π) : Session ω π where
  machine := session.machine.quiet
  root := { Frame.root with locals := session.root.locals }

/-- An idle session with nothing pending goes on like a new one. -/
theorem IsIdle.renewed {session : Session ω π} (idle : session.IsIdle)
    (spent : session.root.pending = []) :
    session.Resumes session.machine.reported session.renewed where
  root := ⟨idle.name, idle.depth, rfl, spent⟩
  machine := session.machine.quiet_after_reported.symm
  loading := idle.loading

section

variable {session left : Session ω π} {fuel : Nat} {document : Value} {failure : Failure}

/-- A document that fails while it is running leaves nothing pending, unless it fails at an op of its
own run list that has no handler. -/
theorem exec_spends (facade : host.Facade)
    (failed : (exec host fuel document).run.run session = (.error (.failed failure), left))
    (running : failure.sites ≠ []) :
    left.root.pending = [] ∨ ∃ procedure, Procedure.ofValue document = .ok procedure ∧
      failure.IsUnhandled left.machine session.root.name procedure.run := by
  rw [exec_run] at failed
  cases valid : Procedure.ofValue document with
  | error fault =>
    rw [valid] at failed
    cases failed
    exact absurd rfl running
  | ok procedure =>
    rw [valid] at failed
    simp only at failed
    have outside : (load host fuel procedure).IsOutside := load_outside fuel procedure
    have lasting := load_lasting facade fuel procedure session
    cases loads : (load host fuel procedure).run.run session with
    | mk outcome loaded =>
      rw [loads] at failed lasting
      cases outcome with
      | error stop =>
        cases failed
        exact absurd (outside session failure (by rw [loads])) running
      | ok _ =>
        obtain ⟨outcome, rfl⟩ := Prod.mk.inj failed
        have valid : ∀ value ∈ (loaded.entry procedure).ops, ∃ op, Op.classify value = .ok op :=
          Procedure.ofValue_classifies valid
        have name : (loaded.entry procedure).name = session.root.name :=
          congrArg Lasting.name lasting
        rcases Frame.run_spends facade valid outcome with spent | unhandled
        · exact .inl spent
        · rw [name] at unhandled
          exact .inr ⟨procedure, rfl, unhandled⟩

/-- If a document that fails while it is running leaves nothing pending, as all do that do not fail at an
op without a handler, then the session answers all later requests like a new one, and reports the same
of them. -/
theorem exec_leftover (facade : host.Facade) (idle : session.IsIdle)
    (failed : (exec host fuel document).run.run session = (.error (.failed failure), left))
    (running : failure.sites ≠ []) :
    (left.root.pending = [] ∨ ∃ procedure, Procedure.ofValue document = .ok procedure ∧
      failure.IsUnhandled left.machine session.root.name procedure.run) ∧
    (left.root.pending = [] → ∀ requests, AnswersAlike left.machine.reported
      (serve host requests left) (serve host requests left.renewed)) := by
  refine ⟨exec_spends facade failed running, ?_⟩
  intro spent requests
  have waits : left.IsIdle := by
    have kept := idle.exec facade fuel document
    rwa [failed] at kept
  exact (waits.renewed spent).serve facade requests

end

/-- Parameters that an unknown op was to get are still pending. The next document hands them to its first
op, which fails in a new session. -/
theorem exec_leftover_unknown_op :
    let fields : Scope := [("n", .num (.int 1))]
    let first : Value := .obj [("run", .arr [.obj fields, .obj [("op", .str "set_next_params")],
      .obj [("op", .str "nope")]])]
    let second : Value := .obj [("run", .arr [.int 1, .obj [("op", .str "pack")]])]
    let host := Standard.host Standard.noGuests
    let session : Session (World Unit) (Plug Empty) :=
      { machine := { registry := Registry.builtins, console := false, world := { guest := () } } }
    ∃ left, (exec host 3 first).run.run session =
        (.error (.failed ⟨.unknownOp "nope", [⟨"root", 2⟩]⟩), left) ∧
      left.root.pending = fields ∧
      ((exec host 3 second).run.run left).1 = .ok () ∧
      ((exec host 3 second).run.run left.renewed).1 =
        .error (.failed ⟨.invalidParams "pack" (.missing "n"), [⟨"root", 1⟩]⟩) := by
  intro fields first second host session
  refine ⟨{ session with root := { session.root with
    ops := [.obj fields, .obj [("op", .str "set_next_params")], .obj [("op", .str "nope")]]
    pc := 3, pending := fields } }, by cbv, rfl, by cbv, by cbv⟩

/-- An op that refuses the parameters has spent them, and the next document fails as in a new
session. -/
theorem exec_leftover_refused :
    let fields : Scope := [("n", .num (.int 1))]
    let first : Value := .obj [("run", .arr [.obj fields, .obj [("op", .str "set_next_params")],
      .obj [("op", .str "+")]])]
    let second : Value := .obj [("run", .arr [.int 1, .obj [("op", .str "pack")]])]
    let host := Standard.host Standard.noGuests
    let session : Session (World Unit) (Plug Empty) :=
      { machine := { registry := Registry.builtins, console := false, world := { guest := () } } }
    ∃ left, (exec host 3 first).run.run session =
        (.error (.failed ⟨.invalidParams "+" (.unexpected "n"), [⟨"root", 2⟩]⟩), left) ∧
      ((exec host 3 second).run.run left).1 =
        .error (.failed ⟨.invalidParams "pack" (.missing "n"), [⟨"root", 1⟩]⟩) ∧
      AnswersAlike left.machine.reported (serve host [(3, .exec second)] left)
        (serve host [(3, .exec second)] left.renewed) := by
  intro fields first second host session
  let left := { session with root := { session.root with
    ops := [.obj fields, .obj [("op", .str "set_next_params")], .obj [("op", .str "+")]], pc := 3 } }
  have failed : (exec host 3 first).run.run session =
      (.error (.failed ⟨.invalidParams "+" (.unexpected "n"), [⟨"root", 2⟩]⟩), left) := by cbv
  have facade : host.Facade := Standard.host_facade Standard.noGuests_facade
  have idle : session.IsIdle := .new session.machine
  have leftover := exec_leftover facade idle failed (by simp)
  exact ⟨left, failed, by cbv, leftover.2 rfl [(3, .exec second)]⟩

end Session

end DocMachine
