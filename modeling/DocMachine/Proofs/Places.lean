import DocMachine.Proofs.Steps
import DocMachine.Proofs.Turns

/-!
# Ops in other places

What an op does depends neither on the trace of the machine nor, unless it is a control word, on the
place of the activation in its run list.

* `Machine.quiet` is a machine without its trace.
* `Frame.Beside`: the frames are the same but for their places.
* `Frame.Likeness` is what equal frames and frames beside each other have in common.
* `Act.Alike`, `Turn.Alike` and `Run.Alike` compare what is done in like frames.

Results:
1. `Frame.takeUp_alike`: an op does the same in like frames.
2. `Frame.run_alike`: a run does the same whatever the trace.
-/

namespace DocMachine

variable {ω π : Type} {host : Host ω π}

/-- The machine without its trace. -/
def Machine.quiet (machine : Machine ω π) : Machine ω π :=
  { machine with lines := #[], events := #[] }

namespace Frame

/-- The frames are the same but for their run lists and where they stand in them. -/
structure Beside (one other : Frame) : Prop where
  name : one.name = other.name
  depth : one.depth = other.depth
  locals : one.locals = other.locals
  pending : one.pending = other.pending

/-- Like frames are the same but for their places, and stay alike when both are changed. -/
structure Likeness (Like : Frame → Frame → Prop) : Prop where
  beside : ∀ {one other}, Like one other → one.Beside other
  locals : ∀ {one other}, Like one other → ∀ locals,
    Like { one with locals } { other with locals }
  pending : ∀ {one other}, Like one other → ∀ pending,
    Like { one with pending } { other with pending }
  advance : ∀ {one other}, Like one other → Like one.advance other.advance

theorem likeness_eq : Likeness Eq where
  beside := by
    rintro one _ rfl
    exact ⟨rfl, rfl, rfl, rfl⟩
  locals := by
    rintro one _ rfl locals
    rfl
  pending := by
    rintro one _ rfl pending
    rfl
  advance := congrArg advance

theorem likeness_beside : Likeness Beside where
  beside := id
  locals beside _ := ⟨beside.name, beside.depth, rfl, beside.pending⟩
  pending beside _ := ⟨beside.name, beside.depth, beside.locals, rfl⟩
  advance beside := ⟨beside.name, beside.depth, beside.locals, beside.pending⟩

variable {one other : Frame}

theorem Beside.child (beside : one.Beside other) (name : String) (procedure : Procedure)
    (bound : Scope) : one.child name procedure bound = other.child name procedure bound := by
  unfold Frame.child
  rw [beside.depth, beside.locals]

theorem Likeness.spent {Like : Frame → Frame → Prop} (likeness : Likeness Like)
    (like : Like one other) : Like one.spent other.spent :=
  likeness.pending (likeness.advance like) []

end Frame

/-! ## Machines without traces -/

namespace Machine

variable {machine other : Machine ω π}

theorem quiet_emit (machine : Machine ω π) (event : Event) :
    (machine.emit event).quiet = machine.quiet := by
  unfold emit
  split <;> rfl

theorem quiet_traceStep (machine : Machine ω π) (frame : Frame) (op : String) :
    (machine.traceStep frame op).quiet = machine.quiet := by
  have written : (machine.writeStep frame op).quiet = machine.quiet := by
    unfold writeStep
    split
    · split <;> rfl
    · rfl
  rw [traceStep, quiet_emit, written]

theorem quiet_pushAll (quiet : machine.quiet = other.quiet) (values : List Value) :
    (machine.pushAll values).quiet = (other.pushAll values).quiet := by
  have same := congrArg (pushAll · values) quiet
  exact same

section

variable (quiet : machine.quiet = other.quiet)

include quiet

theorem quiet_registry : machine.registry = other.registry := by
  have same := congrArg Machine.registry quiet
  exact same

theorem quiet_stack : machine.stack = other.stack := by
  have same := congrArg Machine.stack quiet
  exact same

theorem quiet_maxDepth : machine.maxDepth = other.maxDepth := by
  have same := congrArg Machine.maxDepth quiet
  exact same

end

end Machine

/-! ## Acts -/

/-- The calls are of the same op, in like frames of machines that only differ in their traces. -/
structure Call.Alike (Like : Frame → Frame → Prop) (one other : Call ω π) : Prop where
  frame : Like one.frame other.frame
  machine : one.machine.quiet = other.machine.quiet
  op : one.op = other.op

/-- The act does the same in calls that are alike. -/
def Act.Alike {α : Type} (Like : Frame → Frame → Prop) (act : Act ω π α) : Prop :=
  ∀ one other : Call ω π, one.Alike Like other →
    (act.run.run one).1 = (act.run.run other).1 ∧
      (act.run.run one).2.Alike Like (act.run.run other).2

namespace Act

variable {α β : Type} {Like : Frame → Frame → Prop}

theorem Alike.bind {act : Act ω π α} {rest : α → Act ω π β} (first : act.Alike Like)
    (second : ∀ a, (rest a).Alike Like) : (act >>= rest).Alike Like := by
  intro one other alike
  obtain ⟨same, alike⟩ := first one other alike
  rw [run_bind, run_bind]
  cases ran : act.run.run one with
  | mk outcome left =>
    cases ran' : act.run.run other with
    | mk outcome' left' =>
      rw [ran, ran'] at same alike
      obtain rfl : outcome = outcome' := same
      cases outcome with
      | ok a => exact second a left left' alike
      | error fault => exact ⟨rfl, alike⟩

end Act

/-- A call that is alike is the same call with another inside. -/
theorem Call.Alike.eq_withInside {Like : Frame → Frame → Prop} (likeness : Frame.Likeness Like)
    {one other : Call ω π} (alike : one.Alike Like other) : other = one.withInside other.inside := by
  obtain ⟨-, depth, locals, -⟩ := likeness.beside alike.frame
  have quiet := alike.machine
  have op := alike.op
  obtain ⟨⟨_, _, _, _, _, _, _, _, _, _⟩, ⟨_, _, _, _, _, _, _⟩, _⟩ := one
  obtain ⟨⟨_, _, _, _, _, _, _, _, _, _⟩, ⟨_, _, _, _, _, _, _⟩, _⟩ := other
  simp only [Machine.quiet, Machine.mk.injEq] at quiet
  simp only at depth locals op
  obtain ⟨rfl, rfl, rfl, -, -, -, -, -, rfl, rfl⟩ := quiet
  subst depth locals op
  rfl

/-- What a handler does through the façade it does in like frames. -/
theorem Act.Facade.alike {α : Type} {act : Act ω π α} (facade : act.Facade)
    {Like : Frame → Frame → Prop} (likeness : Frame.Likeness Like) : act.Alike Like := by
  intro one other alike
  -- The handler does not see where the calls differ.
  have blind := facade.blind one other.inside
  rw [← alike.eq_withInside likeness] at blind
  have inside := facade.inside one
  have frame := facade.frame one
  have frame' := facade.frame other
  rw [blind] at frame' ⊢
  refine ⟨rfl, ?_, ?_, rfl⟩
  · simp only at frame'
    rw [frame, frame']
    exact likeness.locals alike.frame _
  · have quiet := alike.machine
    simp only [Machine.quiet, Machine.mk.injEq] at quiet
    obtain ⟨-, -, -, console, observed, maxDepth, -⟩ := quiet
    simp only [Call.inside, Inside.mk.injEq] at inside
    obtain ⟨-, -, -, -, -, console', observed', maxDepth', -⟩ := inside
    simp only [Machine.quiet, Call.withInside, Call.inside, console'.trans console,
      observed'.trans observed, maxDepth'.trans maxDepth]

/-- Setting the pending parameters does the same in like frames. -/
theorem Shuffle.nextParams_alike {Like : Frame → Frame → Prop} (likeness : Frame.Likeness Like)
    (scope : Scope) : (nextParams scope : Act ω π (List Value)).Alike Like := by
  intro one other alike
  have stack := Machine.quiet_stack alike.machine
  have popped : ∀ rest, { one.machine with stack := rest }.quiet =
      { other.machine with stack := rest }.quiet := by
    intro rest
    have same := congrArg (fun machine : Machine ω π => { machine with stack := rest }) alike.machine
    exact same
  rw [nextParams_run, nextParams_run, ← stack, alike.op]
  cases scope with
  | cons entry rest => exact ⟨rfl, alike⟩
  | nil =>
    cases one.machine.stack with
    | nil => exact ⟨rfl, alike⟩
    | cons top rest =>
      cases top with
      | obj fields => exact ⟨rfl, likeness.pending alike.frame fields, popped rest, rfl⟩
      | _ => exact ⟨rfl, alike.frame, popped rest, rfl⟩

namespace Act.Alike

variable {α : Type}

/-- An act that first looks at the call, and not at the trace. -/
theorem look {rest : Call ω π → Act ω π α}
    (same : ∀ one other : Call ω π, one.Alike Eq other → rest one = rest other)
    (each : ∀ call, (rest call).Alike Eq) : (get >>= rest : Act ω π α).Alike Eq := by
  intro one other alike
  show ((rest one).run.run one).1 = ((rest other).run.run other).1 ∧
    ((rest one).run.run one).2.Alike Eq ((rest other).run.run other).2
  rw [same one other alike]
  exact each other one other alike

/-- The building blocks of acts do not look at the trace. -/
theorem blocks : StackBlocks fun _ (act : Act ω π _) => act.Alike Eq where
  pure _ _ _ alike := ⟨rfl, alike⟩
  throw _ _ _ _ alike := ⟨rfl, alike⟩
  bind := bind
  blame _ := look (fun _ _ alike => by rw [alike.op]) fun _ _ _ alike => ⟨rfl, alike⟩
  registry _ each :=
    look (fun _ _ alike => by rw [Machine.quiet_registry alike.machine]) fun call =>
      each call.machine.registry
  stack := Facade.stack.alike Frame.likeness_eq
  setStack values := (Facade.setStack values).alike Frame.likeness_eq

theorem moves : Moves fun _ (act : Act ω π _) => act.Alike Eq where
  look same each := look (fun _ _ alike => same _ _ (congrArg Frame.place alike.frame)) each
  move go := by
    intro one other alike
    exact ⟨rfl, congrArg (Frame.gone · go) alike.frame, alike.machine, alike.op⟩

end Act.Alike

/-- A built-in op does the same in like frames, unless it is a control word; then it does so if only
the traces differ. -/
theorem Builtin.act_alike (facade : host.Facade) {Like : Frame → Frame → Prop}
    (likeness : Frame.Likeness Like) {op : Builtin} (plain : op ∈ words → Like = Eq) (scope : Scope) :
    (op.act host scope).Alike Like := by
  -- Control words look at the place, one op sets the pending parameters, and all others see no more
  -- of the frame than its variables.
  by_cases isWord : op ∈ words
  · rw [plain isWord]
    exact Act.Alike.blocks.core.word Act.Alike.moves isWord scope
  by_cases next : op = .nextParams
  · subst next
    exact Shuffle.nextParams_alike likeness scope
  · exact (act_facade facade isWord next scope).alike likeness

/-! ## Turns -/

/-- The turns are the same, of like frames at the sites `one` and `other`. -/
inductive Turn.Alike (Like : Frame → Frame → Prop) (one other : Site) : Turn ω π → Turn ω π → Prop
  | ended : Alike Like one other .ended .ended
  | next {frame frame' : Frame} {machine machine' : Machine ω π} : Like frame frame' →
      machine.quiet = machine'.quiet → Alike Like one other (.next frame machine)
        (.next frame' machine')
  | failed (fault : Fault) (inner : List Site) {frame frame' : Frame}
      {machine machine' : Machine ω π} : Like frame frame' → machine.quiet = machine'.quiet →
      Alike Like one other (.stop (.failed ⟨fault, inner ++ [one]⟩) frame machine)
        (.stop (.failed ⟨fault, inner ++ [other]⟩) frame' machine')
  | starved {frame frame' : Frame} {machine machine' : Machine ω π} : Like frame frame' →
      machine.quiet = machine'.quiet →
      Alike Like one other (.stop .starved frame machine) (.stop .starved frame' machine')

/-- The runs are the same but for the traces. -/
structure Run.Alike (one other : Run ω π) : Prop where
  outcome : one.outcome = other.outcome
  frame : one.frame = other.frame
  machine : one.machine.quiet = other.machine.quiet

namespace Frame

variable {Like : Frame → Frame → Prop} {one other : Frame} {machine machine' : Machine ω π}

theorem perform_alike (likeness : Likeness Like) {act : Act ω π (List Value)} (alike : act.Alike Like)
    (stays : act.Stays) (name : String) (like : Like one other)
    (quiet : machine.quiet = machine'.quiet) :
    Turn.Alike Like one.site other.site (one.perform act name machine)
      (other.perform act name machine') := by
  obtain ⟨same, left⟩ :=
    alike ⟨machine, one.spent, name⟩ ⟨machine', other.spent, name⟩ ⟨likeness.spent like, quiet, rfl⟩
  unfold perform
  cases ran : act.run.run ⟨machine, one.spent, name⟩ with
  | mk outcome call =>
    cases ran' : act.run.run ⟨machine', other.spent, name⟩ with
    | mk outcome' call' =>
      rw [ran, ran'] at same left
      obtain rfl : outcome = outcome' := same
      cases outcome with
      | ok values => exact .next left.frame (Machine.quiet_pushAll left.machine values)
      | error fault =>
        have site := (stays _ _ _ ran).trans (taken_spent one)
        have site' := (stays _ _ _ ran').trans (taken_spent other)
        rw [← site, ← site']
        exact .failed _ _ left.frame left.machine

theorem enter_alike (likeness : Likeness Like) {callee : Frame → Machine ω π → Run ω π}
    (calls : ∀ frame (machine machine' : Machine ω π), machine.quiet = machine'.quiet →
      (callee frame machine).Alike (callee frame machine'))
    (child : Frame) (like : Like one other) (quiet : machine.quiet = machine'.quiet) :
    Turn.Alike Like one.site other.site (one.enter callee child machine)
      (other.enter callee child machine') := by
  have inner := calls child (machine.emit (.enter child.name child.depth))
    (machine'.emit (.enter child.name child.depth))
    (by rw [Machine.quiet_emit, Machine.quiet_emit, quiet])
  unfold enter
  rw [← Machine.quiet_maxDepth quiet]
  by_cases deep : machine.maxDepth < child.depth
  · rw [if_pos deep, if_pos deep]
    rw [← taken_spent one, ← taken_spent other]
    exact .failed _ _ (likeness.spent like) quiet
  · rw [if_neg deep, if_neg deep]
    simp only
    rw [← inner.outcome]
    cases (callee child (machine.emit (.enter child.name child.depth))).outcome with
    | ok _ =>
      refine .next (likeness.spent like) ?_
      rw [Machine.quiet_emit, Machine.quiet_emit]
      exact inner.machine
    | error stop =>
      cases stop with
      | failed failure =>
        rw [← taken_spent one, ← taken_spent other]
        exact .failed _ _ (likeness.spent like) inner.machine
      | starved => exact .starved (likeness.spent like) inner.machine

theorem dispatch_alike (facade : host.Facade) (likeness : Likeness Like)
    {callee : Frame → Machine ω π → Run ω π}
    (calls : ∀ frame (machine machine' : Machine ω π), machine.quiet = machine'.quiet →
      (callee frame machine).Alike (callee frame machine'))
    {handler : Handler π} (plain : Like = Eq ∨ handler.IsPlain) (name : String) (bound : Scope)
    (like : Like one other) (quiet : machine.quiet = machine'.quiet) :
    Turn.Alike Like one.site other.site (one.dispatch host callee name bound handler machine)
      (other.dispatch host callee name bound handler machine') := by
  cases handler with
  | foreign plug =>
    exact perform_alike likeness ((facade.op plug bound).alike likeness) (facade.op plug bound).stays
      name like quiet
  | procedure procedure =>
    simp only [dispatch]
    rw [(likeness.beside like).child name procedure bound]
    exact enter_alike likeness calls _ like quiet
  | builtin op =>
    have plain : op ∈ Builtin.words → Like = Eq := fun isWord =>
      plain.resolve_right fun isPlain => isPlain op isWord rfl
    exact perform_alike likeness (Builtin.act_alike facade likeness plain bound)
      (Builtin.act_stays facade op bound) name like quiet

/-- An op does the same in like frames, unless it is a control word; then it does so if only the
traces differ. -/
theorem takeUp_alike (facade : host.Facade) (likeness : Likeness Like)
    {callee : Frame → Machine ω π → Run ω π}
    (calls : ∀ frame (machine machine' : Machine ω π), machine.quiet = machine'.quiet →
      (callee frame machine).Alike (callee frame machine'))
    {value : Value} (plain : Like = Eq ∨ machine.registry.NamesWords ∧ Op.isWord value = false)
    (like : Like one other) (quiet : machine.quiet = machine'.quiet) :
    Turn.Alike Like one.site other.site (one.takeUp host callee value machine)
      (other.takeUp host callee value machine') := by
  have traced : ∀ op, (machine.traceStep one op).quiet = (machine'.traceStep other op).quiet := by
    intro op
    rw [Machine.quiet_traceStep, Machine.quiet_traceStep, quiet]
  unfold takeUp
  split
  · rw [← taken_advance one, ← taken_advance other]
    exact .failed _ _ (likeness.advance like) quiet
  · exact .next (likeness.advance like) (Machine.quiet_pushAll (traced _) _)
  · next name params classified =>
    simp only
    rw [Machine.traceStep_registry, Machine.traceStep_registry, ← Machine.quiet_registry quiet,
      (likeness.beside like).pending]
    split
    · rw [← taken_advance one, ← taken_advance other]
      exact .failed _ _ (likeness.advance like) (traced _)
    · next handler found =>
      have plain : Like = Eq ∨ handler.IsPlain := plain.imp_right fun isPlain =>
        isPlain_of_name isPlain.1 classified isPlain.2 found
      exact dispatch_alike facade likeness calls plain _ _ like (traced _)

/-- A run does the same whatever the trace. -/
theorem run_alike (facade : host.Facade) (fuel : Nat) (frame : Frame)
    (machine machine' : Machine ω π) (quiet : machine.quiet = machine'.quiet) :
    (frame.run host fuel machine).Alike (frame.run host fuel machine') := by
  induction fuel generalizing frame machine machine' with
  | zero => exact ⟨rfl, rfl, quiet⟩
  | succ fuel ih =>
    -- The same frame takes its turn on both machines, so control words do the same as well.
    have turns : Turn.Alike Eq frame.site frame.site (frame.turn host (run host fuel) machine)
        (frame.turn host (run host fuel) machine') := by
      unfold turn
      split
      · exact .ended
      · exact takeUp_alike facade likeness_eq ih (.inl rfl) rfl quiet
    rw [run_succ, run_succ]
    generalize frame.turn host (run host fuel) machine = taken at turns
    generalize frame.turn host (run host fuel) machine' = taken' at turns
    cases turns with
    | ended => exact ⟨rfl, rfl, quiet⟩
    | next same quiet =>
      subst same
      exact ih _ _ _ quiet
    | failed _ _ same quiet => exact ⟨rfl, same, quiet⟩
    | starved same quiet => exact ⟨rfl, same, quiet⟩

end Frame

end DocMachine
