import DocMachine.Proofs.Levels

/-!
# Structured programs run as they mean

A run of the flattened list follows the meaning of the structured program.

* `Ending.Follows` ties an ending of a part to the run: a part that comes to its end takes the run
  to the op after it, one that leaves the loop takes the run past the loop, and so on. A part that
  is starved keeps the run from coming to an end within the budget.
* `Structured.eval_follows` proves it for all parts, by induction over the syntax. Loops and
  restarts are inductions of their own, over the budget: each round takes a step at least.
* `Structured.turn_level` tells which loops are open after a turn, by the place of the op that comes
  next.
-/

namespace DocMachine

variable {ω π : Type} {host : Host ω π} {frame : Frame}

namespace Frame

/-- The activation in a scene, about to run the op at `pc` with these loops open. -/
def state (frame : Frame) (pc : Nat) (begins : List Nat) (scene : Scene ω π) :
    Frame × Machine ω π :=
  ({ frame with pc, begins, locals := scene.locals, pending := scene.pending }, scene.machine)

/-- The run from `start` comes to the op at `pc` in the scene. -/
structure Goes (host : Host ω π) (frame : Frame) (start : Frame × Machine ω π) (pc : Nat)
    (begins : List Nat) (scene : Scene ω π) : Prop where
  reach : Reaches host start (frame.state pc begins scene)
  binds : scene.machine.registry.BindsWords

/-- The run from `start` comes to the op at `pc` in the scene, with a step at least. -/
structure GoesOn (host : Host ω π) (frame : Frame) (start : Frame × Machine ω π) (pc : Nat)
    (begins : List Nat) (scene : Scene ω π) : Prop where
  reach : Relation.TransGen (Steps host) start (frame.state pc begins scene)
  binds : scene.machine.registry.BindsWords

end Frame

open DocMachine.Frame in
/-- The run from `start` does what the ending says. A part that is starved keeps the run from coming
to an end within the budget. -/
def Ending.Follows (host : Host ω π) (frame : Frame) (budget : Nat) (start : Frame × Machine ω π)
    (done left : Scene ω π → Prop) : Ending ω π → Prop
  | .done scene => done scene
  | .left scene => left scene
  | .restarted scene => GoesOn host frame start 0 [] scene
  | .failed failure scene => ∃ run, Ends host start run ∧ run.ending = .failed failure scene
  | .starved => ∀ fuel ≤ budget, ¬ (start.1.run host fuel start.2).Finished

/-! ## Steps -/

namespace Frame

variable {start : Frame × Machine ω π} {pc : Nat} {begins : List Nat} {scene : Scene ω π}
  {value : Value}

theorem turn_state {callee : Frame → Machine ω π → Run ω π} (placed : frame.ops[pc]? = some value) :
    (frame.state pc begins scene).1.turn host callee (frame.state pc begins scene).2 =
      (frame.state pc begins scene).1.takeUp host callee value scene.machine := by
  simp only [turn, state, placed]

theorem Goes.step (arrives : Goes host frame start pc begins scene) (fuel : Nat)
    (placed : frame.ops[pc]? = some value) {pc' : Nat} {begins' : List Nat} {scene' : Scene ω π}
    (taken : (frame.state pc begins scene).1.takeUp host (run host fuel) value scene.machine =
      .next (frame.state pc' begins' scene').1 scene'.machine)
    (binds : scene'.machine.registry.BindsWords) : GoesOn host frame start pc' begins' scene' :=
  ⟨.tail' arrives.reach ⟨fuel, (turn_state placed).trans taken⟩, binds⟩

theorem GoesOn.goes (arrives : GoesOn host frame start pc begins scene) :
    Goes host frame start pc begins scene :=
  ⟨arrives.reach.to_reflTransGen, arrives.binds⟩

theorem Goes.trans {pc' : Nat} {begins' : List Nat} {scene' : Scene ω π}
    (arrives : Goes host frame start pc begins scene)
    (goes : Goes host frame (frame.state pc begins scene) pc' begins' scene') :
    Goes host frame start pc' begins' scene' :=
  ⟨arrives.reach.trans goes.reach, goes.binds⟩

theorem Goes.stop (arrives : Goes host frame start pc begins scene) (fuel : Nat)
    (placed : frame.ops[pc]? = some value) {failure : Failure} {after : Frame}
    {machine : Machine ω π}
    (taken : (frame.state pc begins scene).1.takeUp host (run host fuel) value scene.machine =
      .stop (.failed failure) after machine) :
    ∃ run, Ends host start run ∧ run.ending = .failed failure (.of after machine) := by
  refine ⟨⟨.error (.failed failure), after, machine⟩, ?_, rfl⟩
  refine arrives.reach.ends_iff.mpr ⟨⟨fuel + 1, ?_⟩, fun starved => by cases starved⟩
  rw [run_succ, turn_state placed, taken]

/-- An op whose callee is starved is not over within the callee's budget. -/
theorem Goes.starve (arrives : Goes host frame start pc begins scene) {fuel : Nat}
    (placed : frame.ops[pc]? = some value) {after : Frame} {machine : Machine ω π}
    (taken : (frame.state pc begins scene).1.takeUp host (run host fuel) value scene.machine =
      .stop .starved after machine) :
    ∀ less ≤ fuel, ¬ (start.1.run host less start.2).Finished := by
  intro less le finished
  obtain ⟨least, le', same⟩ := arrives.reach.shorter finished
  rw [← same] at finished
  cases least with
  | zero => exact run_zero_not_finished _ _ finished
  | succ least =>
    have settled := turn_settled finished
    have grown := turn_mono (fun _ _ => run_mono (show least ≤ fuel by omega)) settled
    rw [← grown, turn_state placed, taken] at settled
    exact settled

end Frame

namespace Ending.Follows

open DocMachine.Frame

variable {budget : Nat} {start mid : Frame × Machine ω π} {done left done' left' : Scene ω π → Prop}
  {ending : Ending ω π}

theorem andThen {rest : Scene ω π → Ending ω π}
    (first : ending.Follows host frame budget start done left)
    (second : ∀ scene, done scene → (rest scene).Follows host frame budget start done' left) :
    (ending.andThen rest).Follows host frame budget start done' left := by
  cases ending with
  | done scene => exact second scene first
  | left scene => exact first
  | restarted scene => exact first
  | failed failure scene => exact first
  | starved => exact first

theorem mono {less : Nat} (follows : ending.Follows host frame budget start done left)
    (le : less ≤ budget) (isDone : ∀ scene, done scene → done' scene)
    (isLeft : ∀ scene, left scene → left' scene) :
    ending.Follows host frame less start done' left' := by
  cases ending with
  | done scene => exact isDone scene follows
  | left scene => exact isLeft scene follows
  | restarted scene => exact follows
  | failed failure scene => exact follows
  | starved => exact fun fuel le' => follows fuel (Nat.le_trans le' le)

/-- What follows after a step at least, follows from the start with more budget. -/
theorem after (reach : Relation.TransGen (Steps host) start mid)
    (follows : ending.Follows host frame budget mid done left) :
    ending.Follows host frame (budget + 1) start done left := by
  cases ending with
  | done scene => exact follows
  | left scene => exact follows
  | restarted scene => exact ⟨reach.trans follows.reach, follows.binds⟩
  | failed failure scene =>
    obtain ⟨run, ends, same⟩ := follows
    exact ⟨run, (Reaches.ends_iff reach.to_reflTransGen).mpr ends, same⟩
  | starved =>
    intro fuel le finished
    obtain ⟨less, lt, same⟩ := shorter_of_transGen reach finished
    exact follows less (by omega) (same ▸ finished)

end Ending.Follows

/-! ## Single ops -/

namespace Scene

open DocMachine.Frame

variable {start : Frame × Machine ω π} {pc : Nat} {begins : List Nat} {scene : Scene ω π}
  {fuel : Nat} {done left : Scene ω π → Prop}

/-- The scene after a control word was taken up. -/
def worded (scene : Scene ω π) (frame : Frame) (pc : Nat) (op : Builtin) : Scene ω π :=
  ⟨scene.locals, [], scene.machine.traceStep (frame.alone pc scene) op.name⟩

/-- The scene after a control word popped a condition. -/
def popped (scene : Scene ω π) (frame : Frame) (pc : Nat) (op : Builtin) (rest : List Value) :
    Scene ω π :=
  ⟨scene.locals, [], { (scene.worded frame pc op).machine with stack := rest }⟩

theorem plain_follows (facade : host.Facade) (keeps : host.KeepsRegistry Registry.BindsWords)
    (arrives : Goes host frame start pc begins scene) {op : Value}
    (placed : frame.ops[pc]? = some op) (isPlain : Op.isWord op = false) :
    (scene.plain host fuel frame pc op).Follows host frame fuel start
      (Goes host frame start (pc + 1) begins) left := by
  have taken : (frame.state pc begins scene).1.takeUp host (run host fuel) op scene.machine =
      ((frame.alone pc scene).takeUp host (run host fuel) op scene.machine).onFrame
        (relist frame.ops begins) := by
    rw [← takeUp_relist facade arrives.binds.only isPlain]
    rfl
  have kept : ((frame.alone pc scene).takeUp host (run host fuel) op scene.machine).Leaves
      fun left => left.registry.BindsWords :=
    takeUp_keeps keeps (fun _ _ => run_keeps keeps fuel) arrives.binds
  unfold plain
  cases alone : (frame.alone pc scene).takeUp host (run host fuel) op scene.machine with
  | ended => exact absurd alone takeUp_ne_ended
  | next after machine =>
    have same := takeUp_next facade arrives.binds.only isPlain alone
    rw [alone] at taken kept
    have moved : GoesOn host frame start (pc + 1) begins (.of after machine) := by
      refine arrives.step fuel placed ?_ kept
      rw [taken, same]
      rfl
    exact moved.goes
  | stop stop after machine =>
    have stops : (frame.state pc begins scene).1.takeUp host (run host fuel) op scene.machine =
        .stop stop (after.relist frame.ops begins) machine := by
      rw [taken, alone]
      rfl
    cases stop with
    | failed failure =>
      obtain ⟨run, ends, same⟩ := arrives.stop fuel placed stops
      exact ⟨run, ends, same⟩
    | starved => exact arrives.starve placed stops

section

variable {op : Builtin} (isWord : op ∈ Builtin.words)
  (arrives : Goes host frame start pc begins scene) (placed : frame.ops[pc]? = some op.word)

include isWord arrives placed

theorem word_follows (accepted : scene.pending = [] → done (scene.worded frame pc op)) :
    (scene.word frame pc op).Follows host frame fuel start done left := by
  unfold word
  cases pending : scene.pending with
  | nil => exact accepted pending
  | cons entry rest => exact arrives.stop fuel placed (takeUp_refused isWord arrives.binds pending)

/-- A control word that pops a condition goes on as one of its branches does. -/
theorem test_follows {yes no : Scene ω π → Ending ω π}
    (underflow : scene.pending = [] → scene.machine.stack = [] →
      (frame.state pc begins scene).1.takeUp host (run host fuel) op.word scene.machine =
        (frame.state pc begins scene).1.stops (.stackUnderflow 1 0)
          (frame.state pc begins scene).1.advance (scene.worded frame pc op).machine)
    (branches : ∀ top rest, scene.pending = [] → scene.machine.stack = top :: rest →
      (top.truthy = true →
        (yes (scene.popped frame pc op rest)).Follows host frame fuel start done left) ∧
      (top.truthy = false →
        (no (scene.popped frame pc op rest)).Follows host frame fuel start done left)) :
    (scene.test frame pc op yes no).Follows host frame fuel start done left := by
  have taken : (scene.word frame pc op).Follows host frame fuel start
      (fun after => scene.pending = [] ∧ after = scene.worded frame pc op) left :=
    word_follows isWord arrives placed fun pending => ⟨pending, rfl⟩
  refine taken.andThen ?_
  rintro after ⟨pending, rfl⟩
  have same : (scene.worded frame pc op).machine.stack = scene.machine.stack :=
    Machine.traceStep_stack _ _ _
  rw [same]
  cases holds : scene.machine.stack with
  | nil =>
    have stops := arrives.stop fuel placed (underflow pending holds)
    rw [show Scene.of (frame.state pc begins scene).1.advance (scene.worded frame pc op).machine =
      scene.worded frame pc op by rw [worded, ← pending]; rfl] at stops
    exact stops
  | cons top rest =>
    obtain ⟨onTrue, onFalse⟩ := branches top rest pending holds
    simp only
    cases truth : top.truthy with
    | true => exact onTrue truth
    | false => exact onFalse truth

end

end Scene

namespace Frame.Goes

variable {start : Frame × Machine ω π} {pc : Nat} {begins : List Nat} {scene : Scene ω π}
  (arrives : Goes host frame start pc begins scene) (pending : scene.pending = [])

include arrives pending

theorem openLoop (placed : frame.ops[pc]? = some Builtin.openLoop.word) :
    GoesOn host frame start (pc + 1) ((pc + 1) :: begins) (scene.worded frame pc .openLoop) := by
  obtain ⟨locals, _, machine⟩ := scene
  subst pending
  refine arrives.step 0 placed (takeUp_openLoop arrives.binds rfl) ?_
  simpa [Scene.worded] using arrives.binds

theorem closeLoop {body : Nat} {outer : List Nat} (opened : begins = body :: outer)
    (placed : frame.ops[pc]? = some Builtin.closeLoop.word) :
    GoesOn host frame start body begins (scene.worded frame pc .closeLoop) := by
  obtain ⟨locals, _, machine⟩ := scene
  subst pending
  refine arrives.step 0 placed (takeUp_closeLoop arrives.binds rfl opened) ?_
  simpa [Scene.worded] using arrives.binds

theorem closeIf (placed : frame.ops[pc]? = some Builtin.closeIf.word) :
    GoesOn host frame start (pc + 1) begins (scene.worded frame pc .closeIf) := by
  obtain ⟨locals, _, machine⟩ := scene
  subst pending
  refine arrives.step 0 placed (takeUp_closeIf arrives.binds rfl) ?_
  simpa [Scene.worded] using arrives.binds

theorem recurse (placed : frame.ops[pc]? = some Builtin.recurse.word) :
    GoesOn host frame start 0 [] (scene.worded frame pc .recurse) := by
  obtain ⟨locals, _, machine⟩ := scene
  subst pending
  refine arrives.step 0 placed (takeUp_recurse arrives.binds rfl) ?_
  simpa [Scene.worded] using arrives.binds

theorem otherwise {count : Nat} (placed : frame.ops[pc]? = some Builtin.otherwise.word)
    (found : Flow.blockEnd 0 (frame.ops.drop (pc + 1)) = .ok count) :
    GoesOn host frame start (pc + 1 + count) begins (scene.worded frame pc .otherwise) := by
  obtain ⟨locals, _, machine⟩ := scene
  subst pending
  refine arrives.step 0 placed (takeUp_otherwise arrives.binds rfl found) ?_
  simpa [Scene.worded] using arrives.binds

theorem leaveLoop {count : Nat} (placed : frame.ops[pc]? = some Builtin.leaveLoop.word)
    (found : Flow.loopEnd? 0 (frame.ops.drop (pc + 1)) = some count) :
    GoesOn host frame start (pc + 1 + count) begins.tail (scene.worded frame pc .leaveLoop) := by
  obtain ⟨locals, _, machine⟩ := scene
  subst pending
  refine arrives.step 0 placed (takeUp_leaveLoop arrives.binds rfl found) ?_
  simpa [Scene.worded] using arrives.binds

variable {top : Value} {rest : List Value} (holds : scene.machine.stack = top :: rest)

include holds

theorem continueIf_true (placed : frame.ops[pc]? = some Builtin.continueIf.word)
    (truth : top.truthy = true) :
    GoesOn host frame start (pc + 1) begins (scene.popped frame pc .continueIf rest) := by
  obtain ⟨locals, _, machine⟩ := scene
  subst pending
  refine arrives.step 0 placed (takeUp_continueIf_true arrives.binds rfl holds truth) ?_
  simpa [Scene.popped, Scene.worded] using arrives.binds

theorem continueIf_false {count : Nat} (placed : frame.ops[pc]? = some Builtin.continueIf.word)
    (untruth : top.truthy = false)
    (found : Flow.loopEnd? 0 (frame.ops.drop (pc + 1)) = some count) :
    GoesOn host frame start (pc + 1 + count) begins.tail
      (scene.popped frame pc .continueIf rest) := by
  obtain ⟨locals, _, machine⟩ := scene
  subst pending
  refine arrives.step 0 placed (takeUp_continueIf_false arrives.binds rfl holds untruth found) ?_
  simpa [Scene.popped, Scene.worded] using arrives.binds

theorem openIf_true (placed : frame.ops[pc]? = some Builtin.openIf.word)
    (truth : top.truthy = true) :
    GoesOn host frame start (pc + 1) begins (scene.popped frame pc .openIf rest) := by
  obtain ⟨locals, _, machine⟩ := scene
  subst pending
  refine arrives.step 0 placed (takeUp_openIf_true arrives.binds rfl holds truth) ?_
  simpa [Scene.popped, Scene.worded] using arrives.binds

theorem openIf_false {count : Nat} (placed : frame.ops[pc]? = some Builtin.openIf.word)
    (untruth : top.truthy = false)
    (found : Flow.branchEnd? 0 (frame.ops.drop (pc + 1)) = some count) :
    GoesOn host frame start (pc + 1 + count) begins (scene.popped frame pc .openIf rest) := by
  obtain ⟨locals, _, machine⟩ := scene
  subst pending
  refine arrives.step 0 placed (takeUp_openIf_false arrives.binds rfl holds untruth found) ?_
  simpa [Scene.popped, Scene.worded] using arrives.binds

end Frame.Goes

/-! ## Parts -/

/-- A loop follows its rounds, each of which takes a step at least. -/
theorem Ending.iterate_follows {body : Scene ω π → Ending ω π} {pc exit fuel : Nat}
    {begins outer : List Nat} {left : Scene ω π → Prop}
    (round : ∀ scene : Scene ω π, scene.machine.registry.BindsWords →
      (body scene).Follows host frame fuel (frame.state pc begins scene)
        (Frame.GoesOn host frame (frame.state pc begins scene) pc begins)
        (Frame.Goes host frame (frame.state pc begins scene) exit outer))
    (count : Nat) (le : count ≤ fuel) (scene : Scene ω π)
    (binds : scene.machine.registry.BindsWords) :
    (iterate body count scene).Follows host frame count (frame.state pc begins scene)
      (Frame.Goes host frame (frame.state pc begins scene) exit outer) left := by
  induction count generalizing scene with
  | zero =>
    intro fuel le finished
    obtain rfl : fuel = 0 := Nat.le_zero.mp le
    exact Frame.run_zero_not_finished _ _ finished
  | succ count ih =>
    have first := round scene binds
    unfold iterate
    cases ended : body scene with
    | done scene' =>
      rw [ended] at first
      have rest := (ih (Nat.le_of_succ_le le) scene' first.binds).after first.reach
      exact rest.mono (Nat.le_refl _) (fun _ goes => first.goes.trans goes) fun _ => id
    | left scene' =>
      rw [ended] at first
      exact first
    | restarted scene' =>
      rw [ended] at first
      exact first
    | failed failure scene' =>
      rw [ended] at first
      exact first
    | starved =>
      rw [ended] at first
      exact fun less le' => first less (Nat.le_trans le' le)

/-- A part of a program takes the run where its meaning says. -/
theorem Structured.eval_follows (facade : host.Facade)
    (keeps : host.KeepsRegistry Registry.BindsWords) {inLoop : Bool} (program : Structured inLoop)
    {fuel pc exit : Nat} {begins : List Nat} {post : List Value} {start : Frame × Machine ω π}
    {scene : Scene ω π}
    (placed : frame.ops.drop pc = program.flatten ++ post)
    (leaves : inLoop = true → frame.LeavesTo (pc + program.length) exit)
    (arrives : Frame.Goes host frame start pc begins scene) :
    (program.eval host fuel frame pc scene).Follows host frame fuel start
      (Frame.Goes host frame start (pc + program.length) begins)
      (fun scene => inLoop = true ∧ Frame.Goes host frame start exit begins.tail scene) := by
  induction program generalizing pc exit begins post start scene with
  | skip => exact arrives
  | plain op isPlain => exact Scene.plain_follows facade keeps arrives (drop_cons placed).1 isPlain
  | seq first second ihFirst ihSecond =>
    rw [flatten, List.append_assoc] at placed
    have placed' := drop_flatten placed
    rw [length_seq, ← Nat.add_assoc] at leaves ⊢
    -- A loop that is left from the first part is left past the second one as well.
    refine (ihFirst placed (fun inside => (leaves inside).before placed') arrives).andThen ?_
    exact fun scene arrives => ihSecond placed' leaves arrives
  | cond body ih =>
    have stands := cond_at placed
    rw [past_cond]
    refine Scene.test_follows (by decide) arrives stands.opens
      (fun pending empty => Frame.takeUp_openIf_nil arrives.binds pending empty)
      fun top rest pending holds => ⟨fun truth => ?_, fun untruth => ?_⟩
    · have inside := (arrives.openIf_true pending holds stands.opens truth).goes
      refine (ih stands.inside (fun inLoop => stands.leaves (leaves inLoop)) inside).andThen
        fun scene arrives => ?_
      exact Scene.word_follows (by decide) arrives stands.closes fun pending =>
        (arrives.closeIf pending stands.closes).goes
    · exact (arrives.openIf_false pending holds stands.opens untruth stands.skips).goes
  | choice yes no ihYes ihNo =>
    have stands := choice_at placed
    rw [past_choice]
    refine Scene.test_follows (by decide) arrives stands.opens
      (fun pending empty => Frame.takeUp_openIf_nil arrives.binds pending empty)
      fun top rest pending holds => ⟨fun truth => ?_, fun untruth => ?_⟩
    · have inside := (arrives.openIf_true pending holds stands.opens truth).goes
      refine (ihYes stands.insideYes (fun inLoop => stands.leavesYes (leaves inLoop)) inside).andThen
        fun scene arrives => ?_
      -- The first branch runs into the `else`, which skips the second.
      exact Scene.word_follows (by decide) arrives stands.turns fun pending =>
        (arrives.otherwise pending stands.turns stands.skipsNo).goes
    · have inside := (arrives.openIf_false pending holds stands.opens untruth stands.skipsYes).goes
      refine (ihNo stands.insideNo (fun inLoop => stands.leavesNo (leaves inLoop)) inside).andThen
        fun scene arrives => ?_
      exact Scene.word_follows (by decide) arrives stands.closes fun pending =>
        (arrives.closeIf pending stands.closes).goes
  | loop body ih =>
    have stands := loop_at placed
    rw [past_loop]
    refine (Scene.word_follows (by decide) arrives stands.opens fun pending =>
      arrives.openLoop pending stands.opens).andThen fun scene inside => ?_
    -- The rounds are counted from the first op of the body, not from where this part started.
    refine ((Ending.iterate_follows (fun scene binds => ?_) fuel (Nat.le_refl fuel) scene
      inside.binds).after inside.reach).mono (Nat.le_succ fuel)
      (fun _ goes => inside.goes.trans goes) fun _ => id
    refine ((ih stands.inside (fun _ => stands.leaves) ⟨.refl, binds⟩).andThen
      fun scene arrives => ?_).mono (Nat.le_refl fuel) (fun _ => id) fun _ left => left.2
    exact Scene.word_follows (by decide) arrives stands.closes fun pending =>
      arrives.closeLoop pending rfl stands.closes
  | leave =>
    obtain ⟨atBreak, placed⟩ := drop_cons placed
    obtain ⟨count, found, rfl⟩ := leaves rfl
    refine (Scene.word_follows (by decide) arrives atBreak fun pending =>
      (arrives.leaveLoop pending atBreak found).goes).andThen fun scene goes => ?_
    exact ⟨rfl, goes⟩
  | leaveUnless =>
    obtain ⟨atWhile, placed⟩ := drop_cons placed
    obtain ⟨count, found, rfl⟩ := leaves rfl
    refine Scene.test_follows (by decide) arrives atWhile
      (fun pending empty => Frame.takeUp_continueIf_nil arrives.binds pending empty)
      fun top rest pending holds => ⟨fun truth => ?_, fun untruth => ?_⟩
    · exact (arrives.continueIf_true pending holds atWhile truth).goes
    · exact ⟨rfl, (arrives.continueIf_false pending holds atWhile untruth found).goes⟩
  | recurse =>
    obtain ⟨atRecurse, placed⟩ := drop_cons placed
    refine (Scene.word_follows (by decide) arrives atRecurse fun pending =>
      arrives.recurse pending atRecurse).andThen fun scene goes => ?_
    exact goes

/-! ## Whole programs -/

/-- The run list that an activation starts from does not matter to what a program means in it. -/
theorem Structured.eval_start {inLoop : Bool} (program : Structured inLoop) (fuel : Nat)
    (frame : Frame) (ops : List Value) :
    program.eval host fuel (frame.start ops) = program.eval host fuel frame := by
  induction program with
  | skip | plain | leave | leaveUnless | recurse => rfl
  | seq first second ihFirst ihSecond =>
    funext pc scene
    simp only [eval, ihFirst, ihSecond]
  | cond body ih =>
    funext pc scene
    simp only [eval, ih]
    rfl
  | choice yes no ihYes ihNo =>
    funext pc scene
    simp only [eval, ihYes, ihNo]
    rfl
  | loop body ih =>
    funext pc scene
    simp only [eval, ih]
    rfl

/-- A run that comes to the end of its list is over. -/
theorem Frame.Goes.ends {start : Frame × Machine ω π} {pc : Nat} {begins : List Nat}
    {scene : Scene ω π} (arrives : Goes host frame start pc begins scene)
    (atEnd : frame.ops[pc]? = none) :
    ∃ run, Ends host start run ∧ run.ending = .done scene := by
  refine ⟨⟨.ok (), (frame.state pc begins scene).1, scene.machine⟩, ?_, rfl⟩
  refine arrives.reach.ends_iff.mpr ⟨⟨1, ?_⟩, fun starved => by cases starved⟩
  simp only [Frame.run_succ, turn, state, atEnd]

/-- A whole program either ends as its run does, or is starved, and then its run does not come to an
end within the budget. -/
theorem Structured.restart_ends (facade : host.Facade)
    (keeps : host.KeepsRegistry Registry.BindsWords) (program : Structured false) (frame : Frame)
    (listed : frame.ops = program.flatten) {fuel : Nat} (count : Nat) (le : count ≤ fuel)
    (scene : Scene ω π) (binds : scene.machine.registry.BindsWords) :
    (Ending.restart (program.eval host fuel frame 0) count scene = .starved ∧
      ∀ less ≤ count,
        ¬ ((frame.state 0 [] scene).1.run host less (frame.state 0 [] scene).2).Finished) ∨
    ∃ run, Frame.Ends host (frame.state 0 [] scene) run ∧
      run.ending = Ending.restart (program.eval host fuel frame 0) count scene := by
  induction count generalizing scene with
  | zero =>
    refine .inl ⟨rfl, fun less le finished => ?_⟩
    obtain rfl : less = 0 := Nat.le_zero.mp le
    exact Frame.run_zero_not_finished _ _ finished
  | succ count ih =>
    have placed : frame.ops.drop 0 = program.flatten ++ [] := by
      rw [listed, List.append_nil]
      rfl
    have outside : false = true → frame.LeavesTo (0 + program.length) 0 := fun inside => by
      cases inside
    have arrives : Frame.Goes host frame (frame.state 0 [] scene) 0 [] scene := ⟨.refl, binds⟩
    have follows : (program.eval host fuel frame 0 scene).Follows host frame fuel _ _ _ :=
      program.eval_follows facade keeps placed outside arrives
    unfold Ending.restart
    cases ended : program.eval host fuel frame 0 scene with
    | done scene' =>
      rw [ended] at follows
      exact .inr (follows.ends (by simp [listed, length]))
    | left scene' =>
      rw [ended] at follows
      exact absurd follows.1 (by decide)
    | restarted scene' =>
      rw [ended] at follows
      simp only
      rcases ih (Nat.le_of_succ_le le) scene' follows.binds with ⟨starved, never⟩ | ⟨run, ends, same⟩
      · refine .inl ⟨starved, fun less le' finished => ?_⟩
        obtain ⟨fewer, lt, same⟩ := Frame.shorter_of_transGen follows.reach finished
        exact never fewer (by omega) (same ▸ finished)
      · exact .inr ⟨run, (Frame.Reaches.ends_iff follows.reach.to_reflTransGen).mpr ends, same⟩
    | failed failure scene' =>
      rw [ended] at follows
      exact .inr follows
    | starved =>
      rw [ended] at follows
      exact .inl ⟨rfl, fun less le' => follows less (Nat.le_trans le' le)⟩

theorem Run.ending_ne_starved {run : Run ω π} : run.ending ≠ .starved ↔ run.Finished := by
  unfold ending Finished
  cases run.outcome with
  | ok _ => simp
  | error stop => cases stop <;> simp

/-- The run of the flattened list ends exactly when the structured program does, and with the same
ending. Whatever op comes next on the way, the open loops are those around it. -/
theorem Structured.run_flatten (facade : host.Facade)
    (keeps : host.KeepsRegistry Registry.BindsWords) (program : Structured false) (frame : Frame)
    (machine : Machine ω π) (binds : machine.registry.BindsWords) :
    (∀ ending : Ending ω π, ending ≠ .starved →
      ((∃ fuel, ((frame.start program.flatten).run host fuel machine).ending = ending) ↔
        ∃ fuel, program.exec host fuel frame machine = ending)) ∧
    ∀ after left, Frame.Reaches host (frame.start program.flatten, machine) (after, left) →
      after.pc < program.length →
        ∃ around, (program.loops [] 0)[after.pc]? = some around ∧
          after.begins = around.map (· + 1) := by
  have ends := fun fuel => restart_ends facade keeps program (frame.start program.flatten) rfl fuel
    (Nat.le_refl fuel) (.of frame machine) binds
  simp only [eval_start] at ends
  refine ⟨fun ending settled => ⟨?_, ?_⟩, ?_⟩
  · rintro ⟨fuel, rfl⟩
    have finished := Run.ending_ne_starved.mp settled
    refine ⟨fuel, ?_⟩
    rcases ends fuel with ⟨-, never⟩ | ⟨run, ends, same⟩
    · exact absurd finished (never fuel (Nat.le_refl fuel))
    · rw [exec, ← same, ends.unique ⟨⟨fuel, rfl⟩, finished⟩]
      rfl
  · rintro ⟨fuel, rfl⟩
    rcases ends fuel with ⟨starved, -⟩ | ⟨run, ⟨⟨budget, rfl⟩, -⟩, same⟩
    · exact absurd starved settled
    · exact ⟨budget, same⟩
  · intro after left reach inside
    obtain ⟨-, ⟨around, marked, opened⟩, -⟩ := reaches_level facade keeps program binds reach
    refine ⟨around, ?_, opened⟩
    rwa [List.getElem?_append_left (by rwa [length_loops])] at marked

/-- The loop of `true begin while false repeat` is left in its second round. -/
theorem Structured.run_flatten_second_round :
    let program : Structured false := .seq (.plain (.bool true) (by decide))
      (.loop (.seq .leaveUnless (.plain (.bool false) (by decide))))
    let machine : Machine (World Unit) (Plug Empty) :=
      { registry := Registry.builtins, console := false, world := { guest := () } }
    ∃ fuel, ((Frame.root.start program.flatten).run (Standard.host Standard.noGuests) fuel
      machine).ending = .done ⟨[], [], machine⟩ := by
  intro program machine
  have correct := program.run_flatten (Standard.host_facade Standard.noGuests_facade)
    (Standard.host_keeps Standard.noGuests_keeps) Frame.root machine Registry.builtins_bindsWords
  exact (correct.1 (.done ⟨[], [], machine⟩) (by simp)).mpr ⟨3, by cbv⟩

end DocMachine
