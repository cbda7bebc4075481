import DocMachine.Proofs.Native
import DocMachine.Proofs.Turns

/-!
# Programs that only go forward

Two control words take an activation back: one goes to the body of the innermost loop again, the
other one starts the run list over. A program without them comes to an end, whatever its procedures
call: an activation takes up its elements from the first to the last, and calls nest only so deep.

* `GoesForward`: no element of a run list invokes one of the two words.
* `Frame.Onward`: a state of a run that goes forward.

Results:
1. `Builtin.act_ahead` and `Frame.Steps.ahead`: from one op to the next the program counter grows.
2. `Frame.run_finishes`: a budget under which a run comes to an end.
3. `Session.exec_ends`: all this of a document.
-/

namespace DocMachine

variable {ω π : Type} {host : Host ω π}

/-- Whether an element of a run list invokes a control word that goes back. -/
def Op.goesBack (value : Value) : Bool :=
  Builtin.backward.any fun op => decide (Op.name? value = some op.name)

/-- No element of the run list invokes a control word that goes back. -/
def GoesForward (ops : List Value) : Prop :=
  ∀ value ∈ ops, Op.goesBack value = false

/-- The length of the run list that a name stands for. -/
def Handler.length : Handler π → Nat
  | .procedure callee => callee.run.length
  | _ => 0

namespace Registry

/-- No procedure invokes a control word that goes back. -/
def GoesForward (registry : Registry π) : Prop :=
  ∀ name procedure, registry.op name = .ok (.procedure procedure) →
    DocMachine.GoesForward procedure.run

/-- The length of the longest run list of a procedure. -/
def longest (registry : Registry π) : Nat :=
  (registry.ops.map fun entry => entry.2.length).foldr max 0

theorem le_longest {registry : Registry π} {name : String} {procedure : Procedure}
    (resolved : registry.op name = .ok (.procedure procedure)) :
    procedure.run.length ≤ registry.longest := by
  have listed : ∀ ops : Table String (Handler π), ops.get? name = some (.procedure procedure) →
      procedure.run.length ≤ (ops.map fun entry => entry.2.length).foldr max 0 := by
    intro ops found
    induction ops with
    | nil => cases found
    | cons entry rest ih =>
      simp only [Table.get?] at found
      simp only [List.map_cons, List.foldr_cons]
      split at found
      · rw [Option.some.inj found]
        exact Nat.le_max_left _ _
      · exact Nat.le_trans (ih found) (Nat.le_max_right _ _)
  unfold op at resolved
  split at resolved
  · next found =>
    cases resolved
    exact listed registry.ops found
  · cases resolved

/-- What an element stands for is no word that goes back, if it does not invoke one. -/
theorem NamesWords.ahead {registry : Registry π} (names : registry.NamesWords) {value : Value}
    {name : String} {params : Scope} {op : Builtin}
    (classified : Op.classify value = .ok (.invoke name params))
    (forward : Op.goesBack value = false) (resolved : registry.op name = .ok (.builtin op)) :
    op ∉ Builtin.backward := by
  intro back
  have isWord : op ∈ Builtin.words := by
    fin_cases back <;> decide
  have invokes : Op.goesBack value = true := by
    simp only [Op.goesBack, List.any_eq_true, decide_eq_true_eq]
    exact ⟨op, back, by rw [Op.name?_of_classify classified, names name op isWord resolved]⟩
  rw [invokes] at forward
  cases forward

end Registry

/-! ## One op -/

/-- A built-in op that works on variables only does not take the activation back, but for the two words
that do. -/
theorem Builtin.act_ahead {op : Builtin} {scope : Scope} (ahead : op ∉ backward) (call : Call ω π)
    (finds : op.FindsVariables call.machine.registry scope) :
    call.frame.pc ≤ ((op.act host scope).run.run call).2.frame.pc := by
  let I (after : Call ω π) : Prop :=
    after.machine.registry = call.machine.registry ∧ call.frame.pc ≤ after.frame.pc
  have advances : Act.Advances fun _ (act : Act ω π _) => act.Keeps I :=
    { look := fun _ each => .look each
      ahead := fun go le after holds => ⟨holds.1, Nat.le_trans holds.2 (le after.frame.place)⟩ }
  have kept : (op.act host scope).Keeps I :=
    act_advances (Act.Keeps.closed (fun _ _ _ _ holds => holds) fun _ holds => holds.1) advances ahead
      (fun _ => .look fun _ => .pure _) (fun _ _ _ holds => holds) finds.reaches
  exact (kept call ⟨rfl, Nat.le_refl _⟩).2

namespace Frame

variable {frame : Frame} {machine : Machine ω π} {callee : Frame → Machine ω π → Run ω π}

theorem perform_ahead {op : Builtin} (ahead : op ∉ Builtin.backward) {scope : Scope}
    (finds : op.FindsVariables machine.registry scope) {name : String} {after : Frame}
    {left : Machine ω π} (taken : frame.perform (op.act host scope) name machine = .next after left) :
    frame.pc < after.pc := by
  have further : frame.pc + 1 ≤
      ((op.act host scope).run.run ⟨machine, frame.spent, name⟩).2.frame.pc :=
    Builtin.act_ahead ahead ⟨machine, frame.spent, name⟩ finds
  obtain ⟨turn, comes, performs⟩ := perform_performs (op.act host scope) name frame machine
  rw [comes] at taken
  cases performs with
  | answered ran =>
    rw [ran] at further
    cases taken
    exact further
  | refused => cases taken

/-- After an element that does not go back, the activation goes on further down. -/
theorem turn_ahead (native : machine.registry.IsNative) (forward : GoesForward frame.ops)
    {after : Frame} {left : Machine ω π}
    (taken : frame.turn host callee machine = .next after left) : frame.pc < after.pc := by
  obtain ⟨turn, comes, turns⟩ := turn_turns host callee frame machine
  rw [comes] at taken
  cases turns with
  | ended => cases taken
  | @element value _ found takes =>
    cases takes with
    | malformed => cases taken
    | literal =>
      cases taken
      exact Nat.lt_succ_self _
    | unknown => cases taken
    | @dispatched name _ handler classified resolved =>
      cases handler with
      | builtin op =>
        have ahead :=
          native.words.ahead classified (forward value (List.mem_of_getElem? found)) resolved
        refine perform_ahead ahead ?_ taken
        rw [Machine.traceStep_registry]
        exact native.plugins.finds op _
      | foreign plug => exact absurd resolved (native.handlers name plug)
      | procedure procedure =>
        rw [enter_next taken]
        exact Nat.lt_succ_self _

/-- From one op to the next, the program counter grows. -/
theorem Steps.ahead (native : machine.registry.IsNative) (forward : GoesForward frame.ops)
    {after : Frame × Machine ω π} (step : Steps host (frame, machine) after) :
    frame.pc < after.1.pc := by
  obtain ⟨fuel, taken⟩ := step
  exact turn_ahead native forward taken

/-! ## The end of a run -/

/-- A turn settles if the call that it makes comes to an end. -/
theorem turn_settles {fuel : Nat}
    (inner : ∀ child : Frame × Machine ω π, frame.Calls machine child →
      child.1.depth ≤ machine.maxDepth → (child.1.run host fuel child.2).Finished) :
    (frame.turn host (run host fuel) machine).Settled := by
  have performed : ∀ (act : Act ω π (List Value)) name left,
      (frame.perform act name left).Settled := by
    intro act name left
    obtain ⟨turn, comes, performs⟩ := perform_performs act name frame left
    rw [comes]
    cases performs <;> trivial
  obtain ⟨turn, comes, turns⟩ := turn_turns host (run host fuel) frame machine
  rw [comes]
  cases turns with
  | ended => trivial
  | element found takes =>
    cases takes with
    | malformed => trivial
    | literal => trivial
    | unknown => trivial
    | @dispatched name params handler classified resolved =>
      cases handler with
      | builtin op => exact performed _ name _
      | foreign plug => exact performed _ name _
      | procedure procedure =>
        let child := frame.child name procedure (frame.pending.extend (Op.bindings params))
        obtain ⟨turn, comes, enters⟩ :=
          enter_enters (run host fuel) frame child (machine.traceStep frame name)
        rw [dispatch, comes]
        cases enters with
        | deep => trivial
        | returned => trivial
        | failed => trivial
        | starved shallow ran outcome =>
          rw [Machine.traceStep_maxDepth] at shallow
          subst ran
          exact inner (child, _)
            ⟨_, name, params, procedure, found, classified, resolved, rfl, rfl⟩ shallow outcome

theorem Calls.forward (procedures : machine.registry.GoesForward) {child : Frame × Machine ω π}
    (calls : frame.Calls machine child) : GoesForward child.1.ops := by
  obtain ⟨_, name, _, procedure, -, -, resolved, isChild, -⟩ := calls
  rw [isChild]
  exact procedures name procedure resolved

/-- A call starts a level deeper, with a run list that is not longer than the longest. -/
theorem Calls.measure {child : Frame × Machine ω π} (calls : frame.Calls machine child) :
    frame.pc < frame.ops.length ∧ child.1.depth = frame.depth + 1 ∧
      child.1.ops.length - child.1.pc ≤ machine.registry.longest := by
  obtain ⟨value, name, params, procedure, found, -, resolved, isChild, -⟩ := calls
  refine ⟨(List.getElem?_eq_some_iff.mp found).1, ?_, ?_⟩
  · rw [isChild]
    rfl
  · rw [isChild]
    exact Registry.le_longest resolved

/-- The budget for a run that goes forward: its elements from the program counter on, and for each
level that is left the longest of the run lists that may be called. -/
theorem run_finishes {fuel : Nat} (native : machine.registry.IsNative)
    (procedures : machine.registry.GoesForward) (forward : GoesForward frame.ops)
    (enough : (frame.ops.length - frame.pc) +
      (machine.maxDepth - frame.depth) * (machine.registry.longest + 1) < fuel) :
    (frame.run host fuel machine).Finished := by
  induction fuel generalizing frame machine with
  | zero => omega
  | succ fuel ih =>
    have settled : (frame.turn host (run host fuel) machine).Settled := by
      refine turn_settles fun child calls shallow => ?_
      have same := calls.same
      refine ih (same.registry ▸ native) (same.registry ▸ procedures) (calls.forward procedures) ?_
      obtain ⟨inside, deeper, length⟩ := calls.measure
      have levels : machine.maxDepth - frame.depth = (machine.maxDepth - child.1.depth) + 1 := by
        omega
      rw [levels, Nat.succ_mul] at enough
      rw [same.maxDepth, same.registry]
      omega
    rw [run_succ]
    cases taken : frame.turn host (run host fuel) machine with
    | ended => exact fun starved => by cases starved
    | next after left =>
      have step : Steps host (frame, machine) (after, left) := ⟨fuel, taken⟩
      obtain ⟨same, kept⟩ := step.confined native
      have further := step.ahead native forward
      have inside := lt_of_next taken
      refine ih (same.registry ▸ native) (same.registry ▸ procedures) (kept.ops ▸ forward) ?_
      rw [same.maxDepth, same.registry, kept.ops, kept.depth]
      simp only at further
      omega
    | stop stop after left =>
      rw [taken] at settled
      rintro ⟨⟩
      exact settled

/-! ## Visited activations -/

/-- A call that would be too deep is not made. -/
theorem Calls.overflows {child : Frame × Machine ω π} (calls : frame.Calls machine child)
    (deep : machine.maxDepth < child.1.depth) : ∃ left, frame.turn host callee machine =
      .stop (.failed ⟨.stackOverflow machine.maxDepth, [frame.site]⟩) frame.spent left := by
  obtain ⟨value, name, params, procedure, found, classified, resolved, isChild, -⟩ := calls
  rw [isChild] at deep
  refine ⟨machine.traceStep frame name, ?_⟩
  simp only [turn, found, takeUp, classified, Op.traceName, Machine.traceStep_registry, resolved,
    dispatch, enter, Machine.traceStep_maxDepth, if_pos deep]
  exact spent_fail rfl _

/-- The state is one of a run that goes forward, with this registry and limit. -/
structure Onward (base : Machine ω π) (state : Frame × Machine ω π) : Prop where
  same : state.2.IsSame base
  forward : GoesForward state.1.ops
  shallow : state.1.depth ≤ base.maxDepth

section

variable {base : Machine ω π} (native : base.registry.IsNative)
  {start state : Frame × Machine ω π}

include native

theorem Onward.reach (onward : Onward base start) (reach : Reaches host start state) :
    Onward base state := by
  induction reach with
  | refl => exact onward
  | tail _ step ih =>
    obtain ⟨same, kept⟩ := step.confined (ih.same.registry ▸ native)
    exact ⟨same.trans ih.same, kept.ops ▸ ih.forward, kept.depth ▸ ih.shallow⟩

/-- A run that goes forward goes forward in all activations. -/
theorem Onward.visit (procedures : base.registry.GoesForward) (onward : Onward base start)
    (visits : Visits host start state) : Onward base state := by
  induction visits with
  | own reach => exact onward.reach native reach
  | call reach calls shallow _ ih =>
    have reached := onward.reach native reach
    have forward := calls.forward (reached.same.registry ▸ procedures)
    exact ih ⟨calls.same.trans reached.same, forward, reached.same.maxDepth ▸ shallow⟩

end

end Frame

/-! ## Documents -/

namespace Session

/-- More fuel does not change what a document came to. -/
theorem exec_mono {fuel more : Nat} (le : fuel ≤ more) {document : Value} {session : Session ω π}
    (settled : ((exec host fuel document).run.run session).1 ≠ .error .starved) :
    (exec host more document).run.run session = (exec host fuel document).run.run session := by
  rw [exec_run] at settled ⊢
  rw [exec_run]
  cases valid : Procedure.ofValue document with
  | error fault => rfl
  | ok procedure =>
    simp only [valid] at settled ⊢
    cases loads : (load host fuel procedure).run.run session with
    | mk outcome loaded =>
      rw [loads] at settled
      cases outcome with
      | error stop =>
        have loaded : ((load host fuel procedure).run.run session).1 ≠ .error .starved := by
          rw [loads]
          exact settled
        rw [load_mono le loaded, loads]
      | ok _ =>
        have loaded : ((load host fuel procedure).run.run session).1 ≠ .error .starved := by
          rw [loads]
          simp
        rw [load_mono le loaded, loads]
        simp only
        rw [Frame.run_mono le settled]

/-- Neither the document nor any procedure that is registered when it starts to run invokes a control
word that goes back. -/
def GoesForward (host : Host ω π) (document : Value) (session : Session ω π) : Prop :=
  ∀ fuel procedure loaded, Procedure.ofValue document = .ok procedure →
    (load host fuel procedure).run.run session = (.ok (), loaded) →
      DocMachine.GoesForward procedure.run ∧ loaded.machine.registry.GoesForward

section

variable {document : Value} {session : Session ω π} (native : session.machine.registry.IsNative)
  (forward : session.GoesForward host document)

include native forward

theorem exec_settles : ∃ fuel, ((exec host fuel document).run.run session).1 ≠ .error .starved := by
  cases valid : Procedure.ofValue document with
  | error fault =>
    refine ⟨0, ?_⟩
    rw [exec_run, valid]
    simp
  | ok procedure =>
    obtain ⟨enough, settles⟩ : ∃ enough,
        (load host enough procedure).Settles (Grown Registry.IsNative session) :=
      load_native session procedure
    obtain ⟨settled, grown⟩ := settles session (.refl native)
    cases loads : (load host enough procedure).run.run session with
    | mk outcome loaded =>
      cases outcome with
      | error stop =>
        refine ⟨enough, ?_⟩
        rw [loads] at settled
        rw [exec_run, valid]
        simpa only [loads] using settled
      | ok _ =>
        rw [loads] at grown
        obtain ⟨own, procedures⟩ := forward enough procedure loaded valid loads
        let budget := (loaded.entry procedure).ops.length - (loaded.entry procedure).pc +
          (loaded.machine.maxDepth - (loaded.entry procedure).depth) *
            (loaded.machine.registry.longest + 1) + 1
        refine ⟨max enough budget, ?_⟩
        have finished : ((loaded.entry procedure).run host (max enough budget)
            loaded.machine).Finished :=
          Frame.run_finishes grown.possible procedures own
            (Nat.lt_of_lt_of_le (Nat.lt_succ_self _) (Nat.le_max_right enough budget))
        rw [exec_run, valid]
        simp only [load_mono (Nat.le_max_left enough budget) settled, loads]
        exact finished

/-- All that a document visits is of a run that goes forward. -/
theorem visits_onward (shallow : session.root.depth ≤ session.machine.maxDepth) {fuel : Nat}
    {procedure : Procedure} {loaded : Session ω π} {state : Frame × Machine ω π}
    (valid : Procedure.ofValue document = .ok procedure)
    (loads : (load host fuel procedure).run.run session = (.ok (), loaded))
    (visits : Frame.Visits host (loaded.entry procedure, loaded.machine) state) :
    state.2.registry.IsNative ∧ Frame.Onward loaded.machine state ∧
      loaded.machine.maxDepth = session.machine.maxDepth := by
  have grown : Grown Registry.IsNative session ((load host fuel procedure).run.run session).2 :=
    load_registers fuel procedure native
  rw [loads] at grown
  obtain ⟨own, procedures⟩ := forward fuel procedure loaded valid loads
  have limit : loaded.machine.maxDepth = session.machine.maxDepth := by
    rw [← grown.machine]
  have entered : Frame.Onward loaded.machine (loaded.entry procedure, loaded.machine) := by
    refine ⟨.refl _, own, ?_⟩
    show loaded.root.depth ≤ _
    rw [limit, grown.root]
    exact shallow
  have onward := entered.visit grown.possible procedures visits
  exact ⟨onward.same.registry ▸ grown.possible, onward, limit⟩

/-- A document that only goes forward comes to an end where there is nothing foreign, however its
procedures call each other, and what it comes to is the same under all larger budgets. From one op of
an activation to the next the program counter grows, no activation lies deeper than the limit, and a
call that would is a stack overflow. -/
theorem exec_ends (shallow : session.root.depth ≤ session.machine.maxDepth) :
    (∃ fuel, ((exec host fuel document).run.run session).1 ≠ .error .starved ∧
        ∀ more, fuel ≤ more → (exec host more document).run.run session =
          (exec host fuel document).run.run session) ∧
      ∀ fuel procedure loaded state, Procedure.ofValue document = .ok procedure →
        (load host fuel procedure).run.run session = (.ok (), loaded) →
        Frame.Visits host (loaded.entry procedure, loaded.machine) state →
          state.1.depth ≤ session.machine.maxDepth ∧
          (∀ next, Frame.Steps host state next → state.1.pc < next.1.pc) ∧
          ∀ child, state.1.Calls state.2 child → session.machine.maxDepth < child.1.depth →
            ∀ callee, ∃ left, state.1.turn host callee state.2 =
              .stop (.failed ⟨.stackOverflow session.machine.maxDepth, [state.1.site]⟩)
                state.1.spent left := by
  constructor
  · obtain ⟨fuel, settled⟩ := exec_settles native forward
    exact ⟨fuel, settled, fun more le => exec_mono le settled⟩
  · intro fuel procedure loaded state valid loads visits
    obtain ⟨possible, onward, limit⟩ := visits_onward native forward shallow valid loads visits
    rw [← limit]
    refine ⟨onward.shallow, fun next step => step.ahead possible onward.forward, ?_⟩
    intro child calls deep callee
    rw [← onward.same.maxDepth] at deep ⊢
    exact calls.overflows deep

end

/-- A procedure that does nothing but call itself is cut off by the limit to the depth of calls. -/
theorem exec_ends_recursion :
    let again : Value := .obj [("op", .str "again")]
    let document : Value := .obj [("run", .arr [again])]
    let session : Session (World Unit) (Plug Empty) :=
      { machine := { registry := Registry.builtins.withProcedure "again" { run := [again] },
                     console := false, maxDepth := 2, world := { guest := () } } }
    let host := Standard.host Standard.noGuests
    ((exec host 4 document).run.run session).1 =
        .error (.failed ⟨.stackOverflow 2, [⟨"again", 0⟩, ⟨"again", 0⟩, ⟨"root", 0⟩]⟩) ∧
      ∃ fuel, ((exec host fuel document).run.run session).1 ≠ .error .starved ∧
        ∀ more, fuel ≤ more → (exec host more document).run.run session =
          (exec host fuel document).run.run session := by
  intro again document session host
  have cut : ((exec host 4 document).run.run session).1 =
      .error (.failed ⟨.stackOverflow 2, [⟨"again", 0⟩, ⟨"again", 0⟩, ⟨"root", 0⟩]⟩) := by cbv
  have valid : Procedure.ofValue document = .ok { run := [again] } := by cbv
  have native : session.machine.registry.IsNative :=
    Registry.builtins_isNative.withProcedure "again" { run := [again] }
  have ahead : DocMachine.GoesForward [again] := by
    intro value listed
    obtain rfl : value = again := by simpa using listed
    cbv
  have procedures : session.machine.registry.GoesForward := by
    intro name procedure resolved
    rw [Registry.op_withProcedure] at resolved
    split at resolved
    · cases resolved
      exact ahead
    · obtain ⟨op, -, same⟩ := Registry.builtins_op resolved
      cases same
  have forward : session.GoesForward host document := by
    intro fuel procedure loaded valid' loads
    cases valid.symm.trans valid'
    cases fuel with
    | zero => cases loads
    | succ fuel =>
      cases loads
      exact ⟨ahead, procedures⟩
  exact ⟨cut, (exec_ends native forward (Nat.zero_le _)).1⟩

end Session

end DocMachine
