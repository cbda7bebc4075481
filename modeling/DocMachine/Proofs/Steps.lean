import DocMachine.Proofs.Faults
import DocMachine.Run
import Mathlib.Logic.Relation

/-!
# Steps of an activation

A run has a budget, and its steps do not: this module separates the two.

* `Frame.Steps` takes one activation from one op to the next, whatever its callees cost, and
  `Frame.Reaches` is any number of such steps.
* `Frame.Ends` is a run that came to an end of its own under some budget.
* `Frame.Calls` is what an op does that stands for a procedure, and `Frame.Visits` follows a run into
  the activations that it calls.

Results:
1. `Frame.run_mono`: more fuel does not change a run that has come to an end, so `Frame.Ends` is
   deterministic (`Frame.Ends.unique`).
2. `Frame.Reaches.ends_iff`: a run and what is left of it after some steps end alike.
3. `Frame.Reaches.shorter`: the rest of a run needs no more fuel than the run.
-/

namespace DocMachine

variable {ω π : Type}

/-- The run came to an end of its own. -/
def Run.Finished (run : Run ω π) : Prop := run.outcome ≠ .error .starved

/-- The turn did not use up the budget of a callee. -/
def Turn.Settled : Turn ω π → Prop
  | .stop .starved _ _ => False
  | _ => True

namespace Frame

variable {host : Host ω π}

/-! ## Failing -/

/-- An op that has been taken up is the one that was about to run. -/
@[simp] theorem taken_advance (frame : Frame) : frame.advance.taken = frame.site := by
  simp [taken, advance, site]

@[simp] theorem taken_spent (frame : Frame) : frame.spent.taken = frame.site :=
  taken_advance frame

/-- The turn of a fault at the op that `frame` is about to run, and in no other activation. -/
def stops (frame : Frame) (fault : Fault) (left : Frame) (machine : Machine ω π) : Turn ω π :=
  .stop (.failed ⟨fault, [frame.site]⟩) left machine

theorem fail_eq_stops {frame left : Frame} {fault : Fault} (plain : fault.isTraced = false)
    (stays : left.taken = frame.site) (machine : Machine ω π) :
    left.fail fault machine = frame.stops fault left machine := by
  rw [fail, stops, stays, Failure.raised_of_plain plain]

theorem spent_fail {frame : Frame} {fault : Fault} (plain : fault.isTraced = false)
    (machine : Machine ω π) : frame.spent.fail fault machine = frame.stops fault frame.spent machine :=
  fail_eq_stops plain (taken_spent frame) machine

theorem advance_fail {frame : Frame} {fault : Fault} (plain : fault.isTraced = false)
    (machine : Machine ω π) :
    frame.advance.fail fault machine = frame.stops fault frame.advance machine :=
  fail_eq_stops plain (taken_advance frame) machine

/-! ## More fuel -/

theorem dispatch_mono {callee callee' : Frame → Machine ω π → Run ω π}
    (agree : ∀ frame machine, (callee frame machine).Finished →
      callee' frame machine = callee frame machine)
    {name : String} {bound : Scope} {handler : Handler π} {frame : Frame} {machine : Machine ω π}
    (settled : (frame.dispatch host callee name bound handler machine).Settled) :
    frame.dispatch host callee' name bound handler machine =
      frame.dispatch host callee name bound handler machine := by
  cases handler with
  | builtin op => rfl
  | foreign plug => rfl
  | procedure procedure =>
    simp only [dispatch, enter] at settled ⊢
    split
    · rfl
    · next shallow =>
      rw [if_neg shallow] at settled
      rw [agree]
      intro starved
      rw [starved] at settled
      exact settled

theorem takeUp_mono {callee callee' : Frame → Machine ω π → Run ω π}
    (agree : ∀ frame machine, (callee frame machine).Finished →
      callee' frame machine = callee frame machine)
    {value : Value} {frame : Frame} {machine : Machine ω π}
    (settled : (frame.takeUp host callee value machine).Settled) :
    frame.takeUp host callee' value machine = frame.takeUp host callee value machine := by
  unfold takeUp at settled ⊢
  split
  · rfl
  · rfl
  · next name params classified =>
    rw [classified] at settled
    simp only at settled ⊢
    split
    · rfl
    · next handler found =>
      rw [found] at settled
      exact dispatch_mono agree settled

theorem turn_mono {callee callee' : Frame → Machine ω π → Run ω π}
    (agree : ∀ frame machine, (callee frame machine).Finished →
      callee' frame machine = callee frame machine)
    {frame : Frame} {machine : Machine ω π} (settled : (frame.turn host callee machine).Settled) :
    frame.turn host callee' machine = frame.turn host callee machine := by
  unfold turn at settled ⊢
  split
  · rfl
  · next value found =>
    rw [found] at settled
    exact takeUp_mono agree settled

theorem run_succ (fuel : Nat) (frame : Frame) (machine : Machine ω π) :
    frame.run host (fuel + 1) machine =
      match frame.turn host (run host fuel) machine with
      | .ended => ⟨.ok (), frame, machine⟩
      | .next frame machine => frame.run host fuel machine
      | .stop stop frame machine => ⟨.error stop, frame, machine⟩ := rfl

theorem run_zero_not_finished (frame : Frame) (machine : Machine ω π) :
    ¬ (frame.run host 0 machine).Finished :=
  fun finished => finished rfl

/-- A turn of a run that comes to an end settles. -/
theorem turn_settled {fuel : Nat} {frame : Frame} {machine : Machine ω π}
    (finished : (frame.run host (fuel + 1) machine).Finished) :
    (frame.turn host (run host fuel) machine).Settled := by
  rw [run_succ] at finished
  cases taken : frame.turn host (run host fuel) machine with
  | ended => trivial
  | next _ _ => trivial
  | stop stop _ _ =>
    rw [taken] at finished
    cases stop with
    | failed _ => trivial
    | starved => exact finished rfl

/-- More fuel does not change a run that has come to an end. -/
theorem run_mono {fuel more : Nat} (le : fuel ≤ more) {frame : Frame} {machine : Machine ω π}
    (finished : (frame.run host fuel machine).Finished) :
    frame.run host more machine = frame.run host fuel machine := by
  induction fuel generalizing more frame machine with
  | zero => exact absurd finished (run_zero_not_finished frame machine)
  | succ fuel ih =>
    obtain ⟨more, rfl⟩ : ∃ rest, more = rest + 1 := ⟨more - 1, by omega⟩
    have agree : ∀ frame machine, (run host fuel frame machine).Finished →
        run host more frame machine = run host fuel frame machine :=
      fun frame machine => ih (Nat.le_of_succ_le_succ le)
    have same := turn_mono agree (turn_settled finished)
    rw [run_succ] at finished ⊢
    rw [run_succ, same]
    cases taken : frame.turn host (run host fuel) machine with
    | ended => rfl
    | next after left =>
      rw [taken] at finished
      exact agree after left finished
    | stop _ _ _ => rfl

/-! ## Steps -/

/-- One step of an activation, whatever its callees cost. -/
def Steps (host : Host ω π) (before after : Frame × Machine ω π) : Prop :=
  ∃ fuel, before.1.turn host (run host fuel) before.2 = .next after.1 after.2

/-- Any number of steps of an activation. -/
abbrev Reaches (host : Host ω π) : Frame × Machine ω π → Frame × Machine ω π → Prop :=
  Relation.ReflTransGen (Steps host)

/-- The activation comes to an end as the run says. -/
def Ends (host : Host ω π) (start : Frame × Machine ω π) (run : Run ω π) : Prop :=
  (∃ fuel, start.1.run host fuel start.2 = run) ∧ run.Finished

theorem Ends.unique {start : Frame × Machine ω π} {one other : Run ω π}
    (first : Ends host start one) (second : Ends host start other) : one = other := by
  obtain ⟨⟨fuel, rfl⟩, finished⟩ := first
  obtain ⟨⟨fuel', rfl⟩, finished'⟩ := second
  rcases Nat.le_total fuel fuel' with le | le
  · exact (run_mono le finished).symm
  · exact run_mono le finished'

/-- A budget that settles the turn settles it as any other does. -/
theorem turn_eq_of_settled {fuel fuel' : Nat} {frame : Frame} {machine : Machine ω π}
    (settled : (frame.turn host (run host fuel) machine).Settled)
    (settled' : (frame.turn host (run host fuel') machine).Settled) :
    frame.turn host (run host fuel) machine = frame.turn host (run host fuel') machine := by
  rcases Nat.le_total fuel fuel' with le | le
  · exact (turn_mono (fun _ _ => run_mono le) settled).symm
  · exact turn_mono (fun _ _ => run_mono le) settled'

/-- The rest of a run after one step needs less fuel than the run. -/
theorem Steps.shorter {before after : Frame × Machine ω π} (step : Steps host before after)
    {fuel : Nat} (finished : (before.1.run host fuel before.2).Finished) :
    ∃ less, less < fuel ∧ after.1.run host less after.2 = before.1.run host fuel before.2 := by
  obtain ⟨enough, taken⟩ := step
  cases fuel with
  | zero => exact absurd finished (run_zero_not_finished _ _)
  | succ fuel =>
    have same := turn_eq_of_settled (turn_settled finished)
      (show (before.1.turn host (run host enough) before.2).Settled by rw [taken]; trivial)
    refine ⟨fuel, Nat.lt_succ_self fuel, ?_⟩
    rw [run_succ, same, taken]

/-- A run goes on where a step leads. -/
theorem Steps.ends {before after : Frame × Machine ω π} (step : Steps host before after)
    {run : Run ω π} (rest : Ends host after run) : Ends host before run := by
  obtain ⟨enough, taken⟩ := step
  obtain ⟨⟨fuel, rfl⟩, finished⟩ := rest
  refine ⟨⟨max enough fuel + 1, ?_⟩, finished⟩
  have same : before.1.turn host (Frame.run host (max enough fuel)) before.2 =
      before.1.turn host (Frame.run host enough) before.2 :=
    turn_mono (fun _ _ => run_mono (Nat.le_max_left enough fuel)) (by rw [taken]; trivial)
  rw [run_succ, same, taken]
  exact run_mono (Nat.le_max_right enough fuel) finished

/-- The rest of a run after some steps needs no more fuel than the run. -/
theorem Reaches.shorter {before after : Frame × Machine ω π} (reach : Reaches host before after)
    {fuel : Nat} (finished : (before.1.run host fuel before.2).Finished) :
    ∃ less, less ≤ fuel ∧ after.1.run host less after.2 = before.1.run host fuel before.2 := by
  induction reach with
  | refl => exact ⟨fuel, Nat.le_refl fuel, rfl⟩
  | tail _ step ih =>
    obtain ⟨less, le, same⟩ := ih
    obtain ⟨least, lt, same'⟩ := step.shorter (same ▸ finished)
    exact ⟨least, Nat.le_of_lt (Nat.lt_of_lt_of_le lt le), same'.trans same⟩

/-- The rest of a run after a step at least needs less fuel than the run. -/
theorem shorter_of_transGen {before after : Frame × Machine ω π}
    (reach : Relation.TransGen (Steps host) before after) {fuel : Nat}
    (finished : (before.1.run host fuel before.2).Finished) :
    ∃ less, less < fuel ∧ after.1.run host less after.2 = before.1.run host fuel before.2 := by
  obtain ⟨next, step, rest⟩ := Relation.TransGen.head'_iff.mp reach
  obtain ⟨less, lt, same⟩ := step.shorter finished
  obtain ⟨least, le, same'⟩ := Reaches.shorter rest (same ▸ finished)
  exact ⟨least, Nat.lt_of_le_of_lt le lt, same'.trans same⟩

/-- A run and what is left of it after some steps end alike. -/
theorem Reaches.ends_iff {before after : Frame × Machine ω π} (reach : Reaches host before after)
    {run : Run ω π} : Ends host before run ↔ Ends host after run := by
  constructor
  · rintro ⟨⟨fuel, rfl⟩, finished⟩
    obtain ⟨less, _, same⟩ := reach.shorter finished
    exact ⟨⟨less, same⟩, finished⟩
  · intro rest
    induction reach with
    | refl => exact rest
    | tail _ step ih => exact ih (step.ends rest)

/-! ## Calls -/

/-- Taking up its next op, `frame` calls a procedure, which starts as `child`. -/
def Calls (frame : Frame) (machine : Machine ω π) (child : Frame × Machine ω π) : Prop :=
  ∃ value name params procedure, frame.ops[frame.pc]? = some value ∧
    Op.classify value = .ok (.invoke name params) ∧
    machine.registry.op name = .ok (.procedure procedure) ∧
    child.1 = frame.child name procedure (frame.pending.extend (Op.bindings params)) ∧
    child.2 = (machine.traceStep frame name).emit (.enter child.1.name child.1.depth)

/-- A run from `start` comes to a state of its own activation, or of one that it calls. -/
inductive Visits (host : Host ω π) : Frame × Machine ω π → Frame × Machine ω π → Prop
  | own {start state : Frame × Machine ω π} : Reaches host start state → Visits host start state
  | call {start state child inner : Frame × Machine ω π} : Reaches host start state →
      state.1.Calls state.2 child → child.1.depth ≤ state.2.maxDepth → Visits host child inner →
      Visits host start inner

theorem Visits.after {start next state : Frame × Machine ω π} (step : Steps host start next)
    (visits : Visits host next state) : Visits host start state := by
  cases visits with
  | own reach => exact .own (.head step reach)
  | call reach calls shallow inner => exact .call (.head step reach) calls shallow inner

end Frame

end DocMachine
