import DocMachine.Proofs.Loading
import DocMachine.Proofs.Steps
import DocMachine.Proofs.Tables
import Mathlib

/-!
# Locality

A program that does not ask for the height of the stack does not notice what lies beneath the values
that it works on. On a higher stack it does the same, unless it came to the ground before.

* `Machine.above` puts values beneath the stack. What was written and reported may differ as well,
  since steps report the height of the stack.
* `Act.IsLocal`: an act does the same above anything, unless it finds too few values.
* `Frame.TakesLocal`: the op that comes next is a built-in one other than `size`, and reads and
  writes nothing but variables, or it is a procedure.

Results:
1. `Builtin.act_local`: the built-in ops are local.
2. `Frame.run_above`: so are runs that only take up such ops.
3. `Frame.Visits.takesLocal`: a run only takes up such ops if its run list and those of all
   procedures only name such ops.
4. `Session.exec_above`: documents are local, if what they load and run is.
-/

namespace DocMachine

variable {ω π : Type} {host : Host ω π}

/-- What lies beneath a stack, and what was written and reported. -/
structure Beneath where
  bottom : List Value
  lines : Array String
  events : Array Event

/-- The machine with values beneath its stack, and another trace. -/
def Machine.above (machine : Machine ω π) (beneath : Beneath) : Machine ω π :=
  { machine with
    stack := machine.stack ++ beneath.bottom, lines := beneath.lines, events := beneath.events }

/-- The call on a machine with values beneath its stack. -/
def Call.above (call : Call ω π) (beneath : Beneath) : Call ω π :=
  { call with machine := call.machine.above beneath }

/-- Whether the fault says that there are too few values. -/
def Fault.isUnderflow : Fault → Bool
  | .stackUnderflow _ _ => true
  | _ => false

theorem Fault.isTraced_of_isUnderflow {fault : Fault} (short : fault.isUnderflow = true) :
    fault.isTraced = false := by
  cases fault with
  | traced source sites => cases short
  | _ => rfl

/-- Whether something failed because there were too few values. -/
def Fault.Underflows {α : Type} (result : Except Fault α) : Prop :=
  ∃ fault, result = .error fault ∧ fault.isUnderflow = true

/-- With this registry, the act does the same above anything, unless it finds too few values. It
keeps the registry and the run list. -/
def Act.IsLocal {α : Type} (registry : Registry π) (act : Act ω π α) : Prop :=
  ∀ call beneath, call.machine.registry = registry →
    ((act.run.run call).2.machine.registry = registry ∧
      (act.run.run call).2.frame.ops = call.frame.ops) ∧
    (Fault.Underflows (act.run.run call).1 ∨
      act.run.run (call.above beneath) =
        ((act.run.run call).1, (act.run.run call).2.above beneath))

/-! ## Acts -/

namespace Act.IsLocal

variable {registry : Registry π} {α β : Type}

theorem pure (a : α) : (Pure.pure a : Act ω π α).IsLocal registry :=
  fun _ _ same => ⟨⟨same, rfl⟩, .inr rfl⟩

theorem throw (fault : Fault) : (MonadExcept.throw fault : Act ω π α).IsLocal registry :=
  fun _ _ same => ⟨⟨same, rfl⟩, .inr rfl⟩

theorem bind {act : Act ω π α} {rest : α → Act ω π β} (first : act.IsLocal registry)
    (second : ∀ a, (rest a).IsLocal registry) : (act >>= rest).IsLocal registry := by
  intro call beneath same
  obtain ⟨⟨kept, listed⟩, isLocal⟩ := first call beneath same
  rw [run_bind, run_bind]
  cases ran : act.run.run call with
  | mk outcome left =>
    rw [ran] at kept listed isLocal
    cases outcome with
    | error fault =>
      refine ⟨⟨kept, listed⟩, ?_⟩
      rcases isLocal with ⟨fault', failed, underflow⟩ | above
      · cases failed
        exact .inl ⟨fault, rfl, underflow⟩
      · rw [above]
        exact .inr rfl
    | ok a =>
      rcases isLocal with ⟨fault, failed, -⟩ | above
      · cases failed
      · rw [above]
        obtain ⟨⟨kept', listed'⟩, isLocal'⟩ := second a left beneath kept
        exact ⟨⟨kept', listed'.trans listed⟩, isLocal'⟩

theorem pop : (Act.pop : Act ω π Value).IsLocal registry := by
  intro call beneath same
  cases holds : call.machine.stack with
  | nil =>
    rw [pop_run_nil holds]
    exact ⟨⟨same, rfl⟩, .inl ⟨_, rfl, rfl⟩⟩
  | cons top rest =>
    have holds' : (call.above beneath).machine.stack = top :: (rest ++ beneath.bottom) := by
      show call.machine.stack ++ beneath.bottom = _
      rw [holds]
      rfl
    rw [pop_run_cons holds, pop_run_cons holds']
    exact ⟨⟨same, rfl⟩, .inr rfl⟩

theorem popMany_run (count : Nat) (call : Call ω π) :
    (Act.popMany count : Act ω π (List Value)).run.run call =
      if call.machine.stack.length < count then
        (.error (.stackUnderflow count call.machine.stack.length), call)
      else
        (.ok (call.machine.stack.take count).reverse, { call with
          machine := { call.machine with stack := call.machine.stack.drop count } }) := by
  unfold Act.popMany
  rw [run_bind, show (Act.stack : Act ω π _).run.run call = (.ok call.machine.stack, call) from rfl]
  simp only
  split <;> rfl

theorem popMany (count : Nat) : (Act.popMany count : Act ω π (List Value)).IsLocal registry := by
  intro call beneath same
  rw [popMany_run, popMany_run]
  by_cases few : call.machine.stack.length < count
  · rw [if_pos few]
    exact ⟨⟨same, rfl⟩, .inl ⟨_, rfl, rfl⟩⟩
  · have enough : count ≤ call.machine.stack.length := Nat.le_of_not_lt few
    have holds : (call.above beneath).machine.stack = call.machine.stack ++ beneath.bottom := rfl
    have enough' : ¬ (call.above beneath).machine.stack.length < count := by
      rw [holds, List.length_append]
      omega
    rw [if_neg few, if_neg enough', holds, List.take_append_of_le_length enough,
      List.drop_append_of_le_length enough]
    exact ⟨⟨same, rfl⟩, .inr rfl⟩

theorem popPair_run_short {call : Call ω π} (few : call.machine.stack.length < 2) :
    (Act.popPair : Act ω π (Value × Value)).run.run call =
      (.error (.stackUnderflow 2 call.machine.stack.length), call) := by
  unfold Act.popPair
  rw [run_bind, show (Act.stack : Act ω π _).run.run call = (.ok call.machine.stack, call) from rfl]
  match holds : call.machine.stack with
  | [] => rfl
  | [_] => rfl
  | y :: x :: rest =>
    simp only [holds, List.length_cons] at few
    omega

theorem popPair_run_cons {call : Call ω π} {x y : Value} {rest : List Value}
    (holds : call.machine.stack = y :: x :: rest) :
    (Act.popPair : Act ω π (Value × Value)).run.run call =
      (.ok (x, y), { call with machine := { call.machine with stack := rest } }) := by
  unfold Act.popPair
  rw [run_bind, show (Act.stack : Act ω π _).run.run call = (.ok call.machine.stack, call) from rfl,
    holds]
  rfl

theorem popPair : (Act.popPair : Act ω π (Value × Value)).IsLocal registry := by
  intro call beneath same
  by_cases few : call.machine.stack.length < 2
  · rw [popPair_run_short few]
    exact ⟨⟨same, rfl⟩, .inl ⟨_, rfl, rfl⟩⟩
  · obtain ⟨y, x, rest, holds⟩ : ∃ y x rest, call.machine.stack = y :: x :: rest := by
      cases holds : call.machine.stack with
      | nil => simp [holds] at few
      | cons y below =>
        cases below with
        | nil => simp [holds] at few
        | cons x rest => exact ⟨y, x, rest, rfl⟩
    have holds' : (call.above beneath).machine.stack = y :: x :: (rest ++ beneath.bottom) := by
      show call.machine.stack ++ beneath.bottom = _
      rw [holds]
      rfl
    rw [popPair_run_cons holds, popPair_run_cons holds']
    exact ⟨⟨same, rfl⟩, .inr rfl⟩

theorem peek_run (offset : Nat) (call : Call ω π) :
    (Act.peek offset : Act ω π Value).run.run call =
      if maxCount ≤ offset then (.error .countOverflow, call)
      else match call.machine.stack[offset]? with
        | some value => (.ok value, call)
        | none => (.error (.stackUnderflow (offset + 1) call.machine.stack.length), call) := by
  unfold Act.peek
  split
  · rfl
  · rw [run_bind, show (Act.stack : Act ω π _).run.run call = (.ok call.machine.stack, call) from rfl]
    simp only
    cases call.machine.stack[offset]? <;> rfl

theorem peek (offset : Nat) : (Act.peek offset : Act ω π Value).IsLocal registry := by
  intro call beneath same
  rw [peek_run, peek_run]
  split
  · exact ⟨⟨same, rfl⟩, .inr rfl⟩
  · cases found : call.machine.stack[offset]? with
    | none => exact ⟨⟨same, rfl⟩, .inl ⟨_, rfl, rfl⟩⟩
    | some value =>
      have within := (List.getElem?_eq_some_iff.mp found).1
      have found' : (call.above beneath).machine.stack[offset]? = some value := by
        show (call.machine.stack ++ beneath.bottom)[offset]? = some value
        rw [List.getElem?_append_left within, found]
      rw [found']
      exact ⟨⟨same, rfl⟩, .inr rfl⟩

/-- The building blocks of the built-in ops are local. -/
theorem closed (registry : Registry π) :
    Closed (· = registry) fun _ (act : Act ω π _) => act.IsLocal registry where
  pure := pure
  throw fault _ := throw fault
  bind := bind
  blame _ _ _ same := ⟨⟨same, rfl⟩, .inr rfl⟩
  registry rest each call beneath same := each call.machine.registry same call beneath same
  pop := pop
  popMany := popMany
  popPair := popPair
  peek := peek
  scope reach _ _ same := by
    cases reach with
    | locals => exact ⟨⟨same, rfl⟩, .inr rfl⟩
    | globals => exact ⟨⟨same, rfl⟩, .inr rfl⟩
  setScope reach _ _ _ same := by
    cases reach with
    | locals => exact ⟨⟨same, rfl⟩, .inr rfl⟩
    | globals => exact ⟨⟨same, rfl⟩, .inr rfl⟩

theorem moves (registry : Registry π) :
    Moves fun _ (act : Act ω π _) => act.IsLocal registry where
  look {_ rest} same each call beneath kept := by
    obtain ⟨kept', isLocal⟩ := each call call beneath kept
    refine ⟨kept', isLocal.imp id fun above => ?_⟩
    show (rest (call.above beneath)).run.run (call.above beneath) = _
    rw [same (call.above beneath) call rfl]
    exact above
  move _ _ _ same := ⟨⟨same, rfl⟩, .inr rfl⟩

end Act.IsLocal

/-- The plugins that an op finds with these parameters serve variables. -/
def Builtin.FindsVariables (registry : Registry π) (scope : Scope) (op : Builtin) : Prop :=
  ∀ role, op.role? = some role → ∀ plugin uri rest,
    Resource.Finds registry role scope plugin uri rest → ∃ reach, plugin = .variables reach

theorem Builtin.findsVariables_of_role {op : Builtin} (none : op.role? = none)
    (registry : Registry π) (scope : Scope) : op.FindsVariables registry scope := by
  intro role isRole
  rw [none] at isRole
  cases isRole

/-- An op that finds variables reaches no foreign plugin. -/
theorem Builtin.FindsVariables.reaches {registry : Registry π} {scope : Scope} {op : Builtin}
    (finds : op.FindsVariables registry scope) {P : (α : Type) → Act ω π α → Prop} :
    Act.Reaches (· = registry) P host op scope where
  getter := by
    rintro rfl _ rfl plug uri rest found
    obtain ⟨reach, foreign⟩ := finds .getter rfl _ uri rest found
    cases foreign
  putter := by
    rintro rfl _ rfl plug uri rest found
    obtain ⟨reach, foreign⟩ := finds .putter rfl _ uri rest found
    cases foreign
  deleter := by
    rintro rfl _ rfl plug uri rest found
    obtain ⟨reach, foreign⟩ := finds .deleter rfl _ uri rest found
    cases foreign

namespace Registry

/-- All plugins serve variables, and only requests without a media type. -/
def OnlyVariables (registry : Registry π) : Prop :=
  ∀ role scheme media plugin, registry.plugin role scheme media = .ok plugin →
    media = none ∧ ∃ reach, plugin = .variables reach

theorem OnlyVariables.finds {registry : Registry π} (only : registry.OnlyVariables) (op : Builtin)
    (scope : Scope) : op.FindsVariables registry scope := by
  rintro role - plugin uri rest ⟨request, url, -, -, -, -, served⟩
  exact (only role url.scheme request.media plugin served).2

theorem builtins_onlyVariables : (builtins : Registry π).OnlyVariables := by
  intro role scheme media plugin served
  have listed : (builtins : Registry π).plugins role = [(("locals", none), .variables .locals),
      (("globals", none), .variables .globals)] := by
    cases role <;> rfl
  unfold Registry.plugin at served
  rw [listed] at served
  simp only [Table.get?, Prod.mk.injEq] at served
  split at served
  · next found =>
    cases served
    split at found
    · next same => exact ⟨same.2.symm, _, (Option.some.inj found).symm⟩
    · split at found
      · next same => exact ⟨same.2.symm, _, (Option.some.inj found).symm⟩
      · cases found
  · cases served

end Registry

/-- A built-in op other than `size` that works on variables only is local. -/
theorem Builtin.act_local {registry : Registry π} {op : Builtin} {scope : Scope}
    (noSize : op ≠ .size) (isPlain : op.FindsVariables registry scope) :
    (op.act host scope).IsLocal registry :=
  act_moves (Act.IsLocal.closed registry) (Act.IsLocal.moves registry)
    (fun isSize => absurd isSize noSize) (fun _ _ _ _ same => ⟨⟨same, rfl⟩, .inr rfl⟩)
    isPlain.reaches

/-! ## Runs -/

/-- The handler is a procedure, or a built-in op other than `size` that works on variables only. -/
def Handler.IsLocal (registry : Registry π) (scope : Scope) : Handler π → Prop
  | .builtin op => op ≠ .size ∧ op.FindsVariables registry scope
  | .procedure _ => True
  | .foreign _ => False

/-- The op that comes next is local, if there is one of its name. -/
def Frame.TakesLocal (frame : Frame) (machine : Machine ω π) : Prop :=
  ∀ value name params handler, frame.ops[frame.pc]? = some value →
    Op.classify value = .ok (.invoke name params) → machine.registry.op name = .ok handler →
    handler.IsLocal machine.registry (frame.pending.extend (Op.bindings params))

/-- The failure says that there are too few values. -/
def Stop.Underflows : Stop → Prop
  | .failed failure => failure.fault.isUnderflow = true
  | .starved => False

/-- The turn stops because there are too few values. -/
def Turn.Underflows : Turn ω π → Prop
  | .stop reason _ _ => reason.Underflows
  | _ => False

/-- Whether something stopped because there were too few values. -/
def Stop.IsShort {α : Type} (outcome : Except Stop α) : Prop :=
  ∃ reason, outcome = .error reason ∧ reason.Underflows

/-- The other turn is the same, above the same bottom. -/
inductive Turn.IsAbove (bottom : List Value) : Turn ω π → Turn ω π → Prop
  | ended : IsAbove bottom .ended .ended
  | next (frame : Frame) (machine : Machine ω π) (beneath : Beneath) :
      beneath.bottom = bottom →
      IsAbove bottom (.next frame machine) (.next frame (machine.above beneath))
  | stop (reason : Stop) (frame : Frame) (machine : Machine ω π) (beneath : Beneath) :
      beneath.bottom = bottom →
      IsAbove bottom (.stop reason frame machine) (.stop reason frame (machine.above beneath))

/-- The other run is the same, above the same bottom. -/
def Run.IsAbove (bottom : List Value) (run other : Run ω π) : Prop :=
  ∃ beneath : Beneath, beneath.bottom = bottom ∧
    other = { run with machine := run.machine.above beneath }

namespace Machine

theorem above_registry (machine : Machine ω π) (beneath : Beneath) :
    (machine.above beneath).registry = machine.registry := rfl

theorem above_emit (machine : Machine ω π) (beneath : Beneath) (event other : Event) :
    ∃ beneath' : Beneath, beneath'.bottom = beneath.bottom ∧
      (machine.above beneath).emit other = (machine.emit event).above beneath' := by
  by_cases observed : machine.observed = true
  · have observed' : (machine.above beneath).observed = true := observed
    refine ⟨{ beneath with events := beneath.events.push other }, rfl, ?_⟩
    rw [emit, emit, if_pos observed, if_pos observed']
    rfl
  · have observed' : ¬ (machine.above beneath).observed = true := observed
    refine ⟨beneath, rfl, ?_⟩
    rw [emit, emit, if_neg observed, if_neg observed']

theorem above_writeStep (machine : Machine ω π) (beneath : Beneath) (frame : Frame) (op : String) :
    ∃ beneath' : Beneath, beneath'.bottom = beneath.bottom ∧
      (machine.above beneath).writeStep frame op = (machine.writeStep frame op).above beneath' := by
  by_cases enabled : machine.consoleEnabled frame = true
  · refine ⟨⟨beneath.bottom, ((machine.above beneath).writeStep frame op).lines, beneath.events⟩,
      rfl, ?_⟩
    have enabled' : (machine.above beneath).consoleEnabled frame = true := enabled
    rw [writeStep, writeStep, if_pos enabled, if_pos enabled']
    rfl
  · refine ⟨beneath, rfl, ?_⟩
    have enabled' : ¬ (machine.above beneath).consoleEnabled frame = true := enabled
    rw [writeStep, writeStep, if_neg enabled, if_neg enabled']

theorem above_traceStep (machine : Machine ω π) (beneath : Beneath) (frame : Frame) (op : String) :
    ∃ beneath' : Beneath, beneath'.bottom = beneath.bottom ∧
      (machine.above beneath).traceStep frame op = (machine.traceStep frame op).above beneath' := by
  obtain ⟨first, same, written⟩ := above_writeStep machine beneath frame op
  obtain ⟨second, same', emitted⟩ := above_emit (machine.writeStep frame op) first
    (machine.stepEvent frame op) ((machine.above beneath).stepEvent frame op)
  refine ⟨second, same'.trans same, ?_⟩
  rw [traceStep, traceStep, written, emitted]

theorem above_pushAll (machine : Machine ω π) (beneath : Beneath) (values : List Value) :
    (machine.above beneath).pushAll values = (machine.pushAll values).above beneath := by
  have pushed : ∀ (values stack : List Value),
      values.foldl (fun stack v => v :: stack) (stack ++ beneath.bottom) =
        values.foldl (fun stack v => v :: stack) stack ++ beneath.bottom := by
    intro values
    induction values with
    | nil => exact fun _ => rfl
    | cons value rest ih => exact fun stack => ih (value :: stack)
  simp only [pushAll, above, pushed]

end Machine

namespace Frame

variable {frame : Frame} {machine : Machine ω π} {beneath : Beneath}

/-- Performing a local act is local. -/
theorem perform_above {act : Act ω π (List Value)} (isLocal : act.IsLocal machine.registry)
    (name : String) :
    (frame.perform act name machine).Underflows ∨
      Turn.IsAbove beneath.bottom (frame.perform act name machine)
        (frame.perform act name (machine.above beneath)) := by
  obtain ⟨-, done⟩ := isLocal ⟨machine, frame.spent, name⟩ beneath rfl
  unfold perform
  cases ran : act.run.run ⟨machine, frame.spent, name⟩ with
  | mk outcome left =>
    rw [ran] at done
    rcases done with ⟨fault, failed, underflow⟩ | above
    · obtain rfl : outcome = .error fault := failed
      refine .inl ?_
      show (Failure.raised fault left.frame.taken).fault.isUnderflow = true
      rw [Failure.raised_of_plain (Fault.isTraced_of_isUnderflow underflow)]
      exact underflow
    · refine .inr ?_
      rw [show (⟨machine.above beneath, frame.spent, name⟩ : Call ω π) =
        Call.above ⟨machine, frame.spent, name⟩ beneath from rfl, above]
      cases outcome with
      | ok values =>
        simp only [Call.above, Machine.above_pushAll]
        exact .next _ _ beneath rfl
      | error fault => exact .stop _ _ _ beneath rfl

/-- Entering a procedure is local if the procedure is. -/
theorem enter_above {callee : Frame → Machine ω π → Run ω π} {child : Frame}
    (inner : child.depth ≤ machine.maxDepth → ∀ beneath : Beneath,
      let started := machine.emit (.enter child.name child.depth)
      Stop.IsShort (callee child started).outcome ∨
        Run.IsAbove beneath.bottom (callee child started)
          (callee child (started.above beneath))) :
    (frame.enter callee child machine).Underflows ∨
      Turn.IsAbove beneath.bottom (frame.enter callee child machine)
        (frame.enter callee child (machine.above beneath)) := by
  unfold enter
  by_cases deep : machine.maxDepth < child.depth
  · rw [if_pos deep, if_pos (show (machine.above beneath).maxDepth < child.depth from deep)]
    exact .inr (.stop _ _ _ beneath rfl)
  · rw [if_neg deep, if_neg (show ¬ (machine.above beneath).maxDepth < child.depth from deep)]
    -- The callee starts on machines that differ by what lies beneath and by their traces.
    obtain ⟨first, same, entered⟩ := machine.above_emit beneath (.enter child.name child.depth)
      (.enter child.name child.depth)
    have ran := inner (Nat.le_of_not_lt deep) first
    simp only [same, ← entered] at ran
    revert ran
    generalize callee child (machine.emit (.enter child.name child.depth)) = run
    generalize callee child ((machine.above beneath).emit (.enter child.name child.depth)) = other
    intro ran
    simp only
    rcases ran with ⟨reason, failed, underflow⟩ | ⟨left, isBottom, rfl⟩
    · rw [failed]
      cases reason with
      | failed failure =>
        refine .inl ?_
        show (failure.through frame.spent.taken).fault.isUnderflow = true
        rw [Failure.through_of_plain (Fault.isTraced_of_isUnderflow underflow)]
        exact underflow
      | starved => exact underflow.elim
    · refine .inr ?_
      simp only
      cases run.outcome with
      | ok _ =>
        obtain ⟨last, same', emitted⟩ := run.machine.above_emit left (.exit child.name child.depth)
          (.exit child.name child.depth)
        simp only [emitted]
        exact .next _ _ last (same'.trans isBottom)
      | error reason =>
        cases reason with
        | failed failure => exact .stop _ _ _ left isBottom
        | starved => exact .stop _ _ _ left isBottom

/-- Taking up a local op is local if the procedure that it may call is. -/
theorem turn_above {callee : Frame → Machine ω π → Run ω π} (takes : frame.TakesLocal machine)
    (inner : ∀ child : Frame × Machine ω π, frame.Calls machine child →
      child.1.depth ≤ machine.maxDepth → ∀ beneath : Beneath,
        Stop.IsShort (callee child.1 child.2).outcome ∨
          Run.IsAbove beneath.bottom (callee child.1 child.2)
            (callee child.1 (child.2.above beneath))) :
    (frame.turn host callee machine).Underflows ∨
      Turn.IsAbove beneath.bottom (frame.turn host callee machine)
        (frame.turn host callee (machine.above beneath)) := by
  unfold turn
  cases found : frame.ops[frame.pc]? with
  | none => exact .inr .ended
  | some value =>
    simp only
    unfold takeUp
    cases classified : Op.classify value with
    | error fault => exact .inr (.stop _ _ _ beneath rfl)
    | ok op =>
      -- The step tells the height of the stack, so from here on the traces differ.
      obtain ⟨traced, same, reported⟩ := machine.above_traceStep beneath frame op.traceName
      cases op with
      | literal value =>
        simp only [reported, Machine.above_pushAll]
        exact .inr (.next _ _ traced same)
      | invoke name params =>
        simp only [reported, Machine.traceStep_registry]
        rw [Machine.above_registry, Machine.traceStep_registry]
        cases resolved : machine.registry.op name with
        | error fault => exact .inr (.stop _ _ _ traced same)
        | ok handler =>
          have allowed := takes value name params handler found classified resolved
          rw [← same]
          cases handler with
          | builtin op =>
            obtain ⟨noSize, isPlain⟩ := allowed
            refine perform_above ?_ name
            rw [Machine.traceStep_registry]
            exact Builtin.act_local noSize isPlain
          | foreign plug => exact allowed.elim
          | procedure procedure =>
            refine enter_above fun shallow beneath => ?_
            rw [Machine.traceStep_maxDepth] at shallow
            refine inner (_, _) ⟨value, name, params, procedure, found, classified, resolved, ?_⟩
              shallow beneath
            exact ⟨rfl, rfl⟩

/-- A run that only takes up local ops does the same above anything, unless it finds too few
values. -/
theorem run_above (fuel : Nat) {frame : Frame} {machine : Machine ω π}
    (takes : ∀ state, Visits host (frame, machine) state → state.1.TakesLocal state.2)
    (beneath : Beneath) :
    Stop.IsShort (frame.run host fuel machine).outcome ∨
      Run.IsAbove beneath.bottom (frame.run host fuel machine)
        (frame.run host fuel (machine.above beneath)) := by
  induction fuel generalizing frame machine beneath with
  | zero => exact .inr ⟨beneath, rfl, rfl⟩
  | succ fuel ih =>
    have turned : (frame.turn host (run host fuel) machine).Underflows ∨
        Turn.IsAbove beneath.bottom (frame.turn host (run host fuel) machine)
          (frame.turn host (run host fuel) (machine.above beneath)) := by
      -- What a callee comes to, this run comes to.
      refine turn_above (takes _ (.own .refl)) fun child calls shallow beneath => ih ?_ beneath
      exact fun state visits => takes state (.call .refl calls shallow visits)
    rw [run_succ, run_succ]
    cases taken : frame.turn host (run host fuel) machine with
    | ended =>
      rw [taken] at turned
      rcases turned with underflow | above
      · exact underflow.elim
      · generalize frame.turn host (run host fuel) (machine.above beneath) = other at above
        cases above
        exact .inr ⟨beneath, rfl, rfl⟩
    | next after left =>
      rw [taken] at turned
      have step : Steps host (frame, machine) (after, left) := ⟨fuel, taken⟩
      rcases turned with underflow | above
      · exact underflow.elim
      · generalize frame.turn host (run host fuel) (machine.above beneath) = other at above
        cases above with
        | next _ _ beneath' same =>
          rw [← same]
          exact ih (fun state visits => takes state (visits.after step)) beneath'
    | stop reason after left =>
      rw [taken] at turned
      rcases turned with underflow | above
      · exact .inl ⟨reason, rfl, underflow⟩
      · generalize frame.turn host (run host fuel) (machine.above beneath) = other at above
        cases above with
        | stop _ _ _ beneath' same => exact .inr ⟨beneath', same, rfl⟩

end Frame

/-! ## Loading -/

/-- The session on a machine with values beneath its stack. -/
def Session.above (session : Session ω π) (beneath : Beneath) : Session ω π :=
  { session with machine := session.machine.above beneath }

/-- From this session, the task does the same above anything, unless it finds too few values. -/
def Task.IsLocal {α : Type} (task : Task ω π α) (session : Session ω π) : Prop :=
  ∀ beneath, Stop.IsShort (task.run.run session).1 ∨
    task.run.run (session.above beneath) =
      ((task.run.run session).1, (task.run.run session).2.above beneath)

namespace Task.IsLocal

variable {α β : Type} {session : Session ω π}

theorem pure (a : α) : (Pure.pure a : Task ω π α).IsLocal session := fun _ => .inr rfl

theorem fail (fault : Fault) : (Task.fail fault : Task ω π α).IsLocal session := fun _ => .inr rfl

theorem ofExcept (result : Except Fault α) :
    (Task.ofExcept result : Task ω π α).IsLocal session := by
  cases result with
  | ok a => exact pure a
  | error fault => exact fail fault

theorem onRegistry (change : Registry π → Registry π) :
    (Task.onRegistry change : Task ω π Unit).IsLocal session := fun _ => .inr rfl

theorem bind {task : Task ω π α} {rest : α → Task ω π β} (first : task.IsLocal session)
    (second : ∀ a left, task.run.run session = (.ok a, left) → (rest a).IsLocal left) :
    (task >>= rest).IsLocal session := by
  intro beneath
  have done := first beneath
  rw [run_bind, run_bind]
  cases ran : task.run.run session with
  | mk outcome left =>
    rw [ran] at done
    rcases done with ⟨reason, failed, underflow⟩ | above
    · obtain rfl : outcome = .error reason := failed
      exact .inl ⟨reason, rfl, underflow⟩
    · rw [above]
      cases outcome with
      | ok a => exact second a left ran beneath
      | error reason => exact .inr rfl

theorem look {rest : Session ω π → Task ω π α}
    (same : ∀ beneath, rest (session.above beneath) = rest session)
    (each : (rest session).IsLocal session) : (get >>= rest).IsLocal session := by
  intro beneath
  refine (each beneath).imp id fun above => ?_
  show (rest (session.above beneath)).run.run (session.above beneath) = _
  rw [same beneath]
  exact above

theorem importModule (name : String) : (Session.importModule host name).IsLocal session := by
  refine look (fun _ => rfl) ?_
  simp only
  split
  · exact fail _
  · exact bind (onRegistry _) fun _ _ _ => ofExcept _

theorem whileLoading (uri : String) {task : Task ω π Unit}
    (inner : task.IsLocal { session with loading := uri :: session.loading }) :
    (Task.whileLoading uri task).IsLocal session := by
  intro beneath
  rw [whileLoading_run, whileLoading_run]
  rcases inner beneath with short | above
  · exact .inl short
  · refine .inr ?_
    simp only
    rw [show ({ session.above beneath with loading := uri :: (session.above beneath).loading } :
      Session ω π) = Session.above { session with loading := uri :: session.loading } beneath
      from rfl, above]
    rfl

theorem parts : PartsAt host fun _ (task : Task ω π _) session => task.IsLocal session where
  pure a _ := pure a
  fail fault _ := fail fault
  starve _ _ := .inr rfl
  bind := bind
  guard _ {_ _ _} each := look (fun _ => rfl) each
  importModule name _ := importModule name
  register _ _ _ := onRegistry _
  whileLoading uri {_ _} inner := whileLoading uri inner

theorem fetch {uri : String}
    (isPlain : ∀ plugin, session.machine.registry.getter uri = .ok plugin →
      ∃ reach, plugin = .variables reach) : (Session.fetch host uri).IsLocal session := by
  intro beneath
  rw [fetch_run, fetch_run,
    show (session.above beneath).machine.registry = session.machine.registry from rfl]
  cases found : session.machine.registry.getter uri with
  | error fault => exact .inr rfl
  | ok plugin =>
    have isLocal : (plugin.get host uri []).IsLocal session.machine.registry := by
      obtain ⟨reach, rfl⟩ := isPlain plugin found
      exact (Act.IsLocal.closed session.machine.registry).getVariable reach uri []
    simp only
    generalize plugin.get host uri [] = act at isLocal ⊢
    obtain ⟨-, done⟩ := isLocal ⟨session.machine, session.root, "get"⟩ beneath rfl
    rcases done with ⟨fault, failed, underflow⟩ | above
    · refine .inl ⟨.failed ⟨fault, []⟩, ?_, underflow⟩
      rw [failed]
      rfl
    · refine .inr ?_
      rw [show (⟨(session.above beneath).machine, (session.above beneath).root, "get"⟩ : Call ω π) =
        Call.above ⟨session.machine, session.root, "get"⟩ beneath from rfl, above]
      rfl

end Task.IsLocal

namespace Session

/-- Loading only fetches what variables hold. -/
def LoadsVariables (host : Host ω π) (fuel : Nat) (procedure : Procedure)
    (session : Session ω π) : Prop :=
  ∀ uri found plugin, Fetches host fuel procedure session uri found →
    found.machine.registry.getter uri = .ok plugin → ∃ reach, plugin = .variables reach

theorem loadsVariables_of_no_includes {procedure : Procedure} (none : procedure.includes = [])
    (fuel : Nat) (session : Session ω π) : LoadsVariables host fuel procedure session := by
  intro uri found plugin fetches
  cases fetches <;> simp_all

/-- Loading is local if it only fetches what variables hold. -/
theorem load_local (fuel : Nat) {procedure : Procedure} {session : Session ω π}
    (loads : LoadsVariables host fuel procedure session) :
    (load host fuel procedure).IsLocal session :=
  load_at Task.IsLocal.parts fuel fun uri found fetches =>
    .fetch fun plugin resolved => loads uri found plugin fetches resolved

end Session

/-! ## Programs that stay local -/

/-- Every op of the list that there is is local, whatever its parameters. -/
def Registry.Admits (registry : Registry π) (ops : List Value) : Prop :=
  ∀ value ∈ ops, ∀ name params handler scope, Op.classify value = .ok (.invoke name params) →
    registry.op name = .ok handler → handler.IsLocal registry scope

theorem Registry.Admits.nil (registry : Registry π) : registry.Admits [] := by
  intro value listed
  cases listed

theorem Registry.Admits.cons {registry : Registry π} {value : Value} {name : String}
    {params : Scope} {handler : Handler π} {rest : List Value}
    (classified : Op.classify value = .ok (.invoke name params))
    (resolved : registry.op name = .ok handler) (isLocal : ∀ scope, handler.IsLocal registry scope)
    (admits : registry.Admits rest) : registry.Admits (value :: rest) := by
  intro value' listed name' params' handler' scope classified' resolved'
  cases listed with
  | head =>
    cases classified.symm.trans classified'
    cases resolved.symm.trans resolved'
    exact isLocal scope
  | tail _ later => exact admits value' later name' params' handler' scope classified' resolved'

/-- The turn keeps the registry and, as long as the activation goes on, its run list. -/
def Turn.Stays (registry : Registry π) (ops : List Value) : Turn ω π → Prop
  | .ended => True
  | .next after left => left.registry = registry ∧ after.ops = ops
  | .stop _ _ left => left.registry = registry

namespace Frame

variable {frame : Frame} {machine : Machine ω π} {callee : Frame → Machine ω π → Run ω π}

theorem perform_stays {act : Act ω π (List Value)} (isLocal : act.IsLocal machine.registry)
    (name : String) :
    (frame.perform act name machine).Stays machine.registry frame.ops := by
  obtain ⟨kept, -⟩ := isLocal ⟨machine, frame.spent, name⟩ ⟨[], #[], #[]⟩ rfl
  obtain ⟨turn, comes, performs⟩ := perform_performs act name frame machine
  rw [comes]
  cases performs with
  | answered ran =>
    rw [ran] at kept
    exact kept
  | refused ran =>
    rw [ran] at kept
    exact kept.1

theorem enter_stays {child : Frame}
    (inner : (callee child (machine.emit (.enter child.name child.depth))).machine.registry =
      machine.registry) :
    (frame.enter callee child machine).Stays machine.registry frame.ops := by
  obtain ⟨turn, comes, enters⟩ := enter_enters callee frame child machine
  rw [comes]
  cases enters with
  | deep => exact rfl
  | returned _ ran =>
    subst ran
    exact ⟨by rw [Machine.emit_registry, inner], rfl⟩
  | failed _ ran =>
    subst ran
    exact inner
  | starved _ ran =>
    subst ran
    exact inner

/-- A local op keeps the registry and the run list if the procedure that it may call keeps the
registry. -/
theorem turn_stays (takes : frame.TakesLocal machine)
    (inner : ∀ child : Frame × Machine ω π, frame.Calls machine child →
      (callee child.1 child.2).machine.registry = machine.registry) :
    (frame.turn host callee machine).Stays machine.registry frame.ops := by
  obtain ⟨turn, comes, turns⟩ := turn_turns host callee frame machine
  rw [comes]
  cases turns with
  | ended => trivial
  | @element value _ found takesUp =>
    cases takesUp with
    | malformed => exact rfl
    | literal => exact ⟨machine.traceStep_registry frame _, rfl⟩
    | unknown => exact machine.traceStep_registry frame _
    | @dispatched name params handler classified resolved =>
      have allowed := takes value name params handler found classified resolved
      rw [← machine.traceStep_registry frame name]
      cases handler with
      | builtin op =>
        obtain ⟨noSize, isPlain⟩ := allowed
        refine perform_stays ?_ name
        rw [Machine.traceStep_registry]
        exact Builtin.act_local noSize isPlain
      | foreign plug => exact allowed.elim
      | procedure procedure =>
        refine enter_stays ?_
        rw [Machine.traceStep_registry]
        exact inner (_, _) ⟨value, name, params, procedure, found, classified, resolved, rfl, rfl⟩

section

variable {registry : Registry π}

theorem takesLocal_of_admits (same : machine.registry = registry)
    (admits : registry.Admits frame.ops) : frame.TakesLocal machine := by
  subst same
  intro value name params handler found classified resolved
  exact admits value (List.mem_of_getElem? found) name params handler _ classified resolved

variable (procedures : ∀ name procedure, registry.op name = .ok (.procedure procedure) →
  registry.Admits procedure.run)

include procedures

theorem Calls.admits (same : machine.registry = registry) {child : Frame × Machine ω π}
    (calls : frame.Calls machine child) :
    child.2.registry = registry ∧ registry.Admits child.1.ops := by
  obtain ⟨_, name, _, procedure, -, -, resolved, isChild, isMachine⟩ := calls
  constructor
  · rw [isMachine, Machine.emit_registry, Machine.traceStep_registry, same]
  · rw [isChild]
    exact procedures name procedure (same ▸ resolved)

theorem run_stays (fuel : Nat) {frame : Frame} {machine : Machine ω π}
    (same : machine.registry = registry) (admits : registry.Admits frame.ops) :
    (frame.run host fuel machine).machine.registry = registry := by
  induction fuel generalizing frame machine with
  | zero => exact same
  | succ fuel ih =>
    have stays : (frame.turn host (run host fuel) machine).Stays machine.registry frame.ops := by
      refine turn_stays (takesLocal_of_admits same admits) fun child calls => ?_
      obtain ⟨same', admits'⟩ := calls.admits procedures same
      rw [same]
      exact ih same' admits'
    rw [run_succ]
    cases taken : frame.turn host (run host fuel) machine with
    | ended => exact same
    | next after left =>
      rw [taken] at stays
      obtain ⟨kept, listed⟩ := stays
      exact ih (kept.trans same) (listed ▸ admits)
    | stop reason after left =>
      rw [taken] at stays
      exact stays.trans same

theorem Reaches.admits {start state : Frame × Machine ω π} (reach : Reaches host start state)
    (same : start.2.registry = registry) (admits : registry.Admits start.1.ops) :
    state.2.registry = registry ∧ registry.Admits state.1.ops := by
  induction reach with
  | refl => exact ⟨same, admits⟩
  | @tail middle next _ step ih =>
    obtain ⟨same', admits'⟩ := ih
    obtain ⟨fuel, taken⟩ := step
    have stays : (middle.1.turn host (run host fuel) middle.2).Stays middle.2.registry
        middle.1.ops := by
      refine turn_stays (takesLocal_of_admits same' admits') fun child calls => ?_
      obtain ⟨sameChild, admitsChild⟩ := calls.admits procedures same'
      rw [same']
      exact run_stays procedures fuel sameChild admitsChild
    rw [taken] at stays
    exact ⟨stays.1.trans same', stays.2 ▸ admits'⟩

/-- If the ops of a run and of all procedures are local, so is what the run takes up. -/
theorem Visits.takesLocal {start state : Frame × Machine ω π} (visits : Visits host start state)
    (same : start.2.registry = registry) (admits : registry.Admits start.1.ops) :
    state.1.TakesLocal state.2 := by
  induction visits with
  | own reach =>
    obtain ⟨same', admits'⟩ := reach.admits procedures same admits
    exact takesLocal_of_admits same' admits'
  | call reach calls _ _ ih =>
    obtain ⟨same', -⟩ := reach.admits procedures same admits
    obtain ⟨sameChild, admitsChild⟩ := calls.admits procedures same'
    exact ih sameChild admitsChild

end

end Frame

namespace Session

/-! ## Documents -/

/-- What a document loads comes from variables, and each op that it runs, in whatever activation, is
local. -/
structure StaysLocal (host : Host ω π) (fuel : Nat) (document : Value) (session : Session ω π) :
    Prop where
  loads : ∀ procedure, Procedure.ofValue document = .ok procedure →
    LoadsVariables host fuel procedure session
  takes : ∀ procedure loaded state, Procedure.ofValue document = .ok procedure →
    (load host fuel procedure).run.run session = (.ok (), loaded) →
    Frame.Visits host (loaded.entry procedure, loaded.machine) state → state.1.TakesLocal state.2

/-- A document that stays local does the same whatever lies beneath the stack, unless it finds too
few values: it comes to the same outcome, and leaves the same but for the trace, above the same
values. -/
theorem exec_above (fuel : Nat) (document : Value) (session : Session ω π) (bottom : List Value)
    (stays : session.StaysLocal host fuel document)
    (enough : ¬ Stop.IsShort ((exec host fuel document).run.run session).1) :
    ∃ lines events,
      (exec host fuel document).run.run
          (session.above ⟨bottom, session.machine.lines, session.machine.events⟩) =
        (((exec host fuel document).run.run session).1,
          ((exec host fuel document).run.run session).2.above ⟨bottom, lines, events⟩) := by
  generalize same : (⟨bottom, session.machine.lines, session.machine.events⟩ : Beneath) = beneath
  obtain rfl : beneath.bottom = bottom := by rw [← same]
  rw [exec_run] at enough ⊢
  rw [exec_run]
  cases valid : Procedure.ofValue document with
  | error fault => exact ⟨beneath.lines, beneath.events, rfl⟩
  | ok procedure =>
    simp only [valid] at enough ⊢
    have loads := load_local fuel (stays.loads procedure valid) beneath
    cases loaded : (load host fuel procedure).run.run session with
    | mk outcome left =>
      simp only [loaded] at enough loads ⊢
      cases outcome with
      | error stop =>
        rw [(loads.resolve_left enough)]
        exact ⟨beneath.lines, beneath.events, rfl⟩
      | ok _ =>
        have above := loads.resolve_left fun ⟨_, failed, _⟩ => by cases failed
        rw [above]
        have takes := fun state => stays.takes procedure left state valid loaded
        have ran := Frame.run_above fuel takes beneath
        obtain ⟨⟨_, lines, events⟩, rfl, other⟩ := ran.resolve_left enough
        refine ⟨lines, events, ?_⟩
        simp only
        rw [show (left.above beneath).entry procedure = left.entry procedure from rfl,
          show (left.above beneath).machine = left.machine.above beneath from rfl, other]
        rfl

/-- The procedure `clear` turns whatever is on the top into `false`, and notices nothing else. -/
theorem exec_above_clear :
    let document : Value := .obj [("run", .arr [.obj [("op", .str "clear")]])]
    let clear : Procedure := { run := [.obj [("op", .str "dup")], .obj [("op", .str "xor")]] }
    let session : Session (World Unit) (Plug Empty) :=
      { machine := { registry := Registry.builtins.withProcedure "clear" clear, console := false,
                     stack := [.bool true], world := { guest := () } } }
    let host := Standard.host Standard.noGuests
    ((exec host 4 document).run.run session).2.machine.stack = [.bool false] ∧
      ∃ lines events,
        (exec host 4 document).run.run (session.above ⟨[.null], #[], #[]⟩) =
          (.ok (), ((exec host 4 document).run.run session).2.above ⟨[.null], lines, events⟩) := by
  intro document clear session host
  have done : ((exec host 4 document).run.run session).1 = .ok () := by cbv
  have valid : Procedure.ofValue document = .ok { run := [.obj [("op", .str "clear")]] } := by cbv
  have isPlain : ∀ op : Builtin, op ≠ .size → op.role? = none →
      ∀ scope, (Handler.builtin op).IsLocal session.machine.registry scope :=
    fun op noSize noRole scope => ⟨noSize, Builtin.findsVariables_of_role noRole _ scope⟩
  have procedures : ∀ name procedure,
      session.machine.registry.op name = .ok (.procedure procedure) →
        session.machine.registry.Admits procedure.run := by
    intro name procedure resolved
    rw [Registry.op_withProcedure] at resolved
    split at resolved
    · cases resolved
      exact .cons rfl (by cbv) (isPlain .dup (by decide) rfl)
        (.cons rfl (by cbv) (isPlain .differ (by decide) rfl) (.nil _))
    · obtain ⟨op, -, same⟩ := Registry.builtins_op resolved
      cases same
  have called : session.machine.registry.op "clear" = .ok (.procedure clear) := by cbv
  have stays : session.StaysLocal host 4 document := by
    refine ⟨fun procedure valid' => ?_, fun procedure loaded state valid' loads visits => ?_⟩
    · cases valid.symm.trans valid'
      exact loadsVariables_of_no_includes rfl 4 session
    · cases valid.symm.trans valid'
      cases loads
      exact visits.takesLocal procedures rfl
        (.cons rfl called (fun _ => trivial) (.nil _))
  refine ⟨by cbv, ?_⟩
  have above := exec_above 4 document session [.null] stays (by
    rintro ⟨_, failed, _⟩
    rw [done] at failed
    cases failed)
  rw [done] at above
  exact above
end Session

end DocMachine
