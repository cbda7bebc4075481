import DocMachine.Proofs.Containment
import DocMachine.Proofs.Cycles

/-!
# Machines with nothing foreign

Where names stand for built-in ops and procedures only, and plugins serve variables only, there are few
things that a program can change. It does not reach the registry once it runs, nor the world at any
time, and loading it registers procedures and does nothing else.

* `Registry.IsNative`: there are built-in ops and procedures, and nothing foreign.
* `Machine.IsSame`: the registry, the limit to the depth of calls and the world are the same.

Results:
1. `Builtin.act_native`: the built-in ops keep all that, and stay in their activation.
2. `Frame.run_native`: so do runs.
3. `Session.load_registers`: loading only registers procedures, and `Session.load_native`: it comes to
   an end.
-/

namespace DocMachine

variable {ω π : Type} {host : Host ω π}

namespace Registry

/-- Names stand for built-in ops and procedures, and for a control word only its own. Plugins serve
variables, and there are no modules. -/
structure IsNative (registry : Registry π) : Prop where
  handlers : ∀ name plug, registry.op name ≠ .ok (.foreign plug)
  words : registry.NamesWords
  plugins : registry.OnlyVariables
  modules : registry.modules = []

theorem builtins_isNative : (builtins : Registry π).IsNative where
  handlers name plug found := by
    obtain ⟨op, -, same⟩ := builtins_op found
    cases same
  words := builtins_bindsWords.only
  plugins := builtins_onlyVariables
  modules := rfl

theorem IsNative.withProcedure {registry : Registry π} (native : registry.IsNative) (name : String)
    (procedure : Procedure) : (registry.withProcedure name procedure).IsNative where
  handlers name' plug found := by
    rw [op_withProcedure] at found
    split at found
    · cases found
    · exact native.handlers name' plug found
  words name' op isWord found := by
    rw [op_withProcedure] at found
    split at found
    · cases found
    · exact native.words name' op isWord found
  plugins := native.plugins
  modules := native.modules

theorem OnlyVariables.getter {registry : Registry π} (only : registry.OnlyVariables) (uri : String)
    (plugin : Plugin π) : registry.getter uri ≠ .ok plugin := by
  intro found
  unfold Registry.getter at found
  cases parsed : Resource.parseUri uri with
  | error fault =>
    rw [parsed] at found
    cases found
  | ok url =>
    rw [parsed] at found
    obtain ⟨noMedia, -⟩ := only .getter url.scheme _ plugin found
    cases noMedia

end Registry

/-! ## Acts -/

/-- The invariant does not speak of the stack, or of variables. -/
def Call.IgnoresData (I : Call ω π → Prop) : Prop :=
  ∀ (call : Call ω π) stack globals locals, I call →
    I { call with
      machine := { call.machine with stack, globals }
      frame := { call.frame with locals } }

namespace Act.Keeps

variable {I : Call ω π → Prop} (ignores : Call.IgnoresData I)

include ignores

theorem takes {α : Type} {act : Act ω π α} (takes : act.Takes) : act.Keeps I := by
  intro call holds
  rcases takes call with ⟨a, count, ran⟩ | ⟨fault, ran, -⟩
  · rw [ran]
    exact ignores call (call.machine.stack.drop count) call.machine.globals call.frame.locals holds
  · rw [ran]
    exact holds

/-- The building blocks keep such an invariant, and if it tells the registry they are met with no
other. -/
theorem closed {registry : Registry π} (tells : ∀ call, I call → call.machine.registry = registry) :
    Closed (· = registry) fun _ (act : Act ω π _) => act.Keeps I where
  pure := pure
  throw fault _ := throw fault
  bind := bind
  blame _ := look fun _ => throw _
  registry _ each call holds := each call.machine.registry (tells call holds) call holds
  pop := takes ignores .pop
  popMany count := takes ignores (.popMany count)
  popPair := takes ignores .popPair
  peek offset := takes ignores (.peek offset)
  scope reach := by
    cases reach with
    | locals => exact look fun _ => pure _
    | globals => exact look fun _ => pure _
  setScope reach scope call holds := by
    cases reach with
    | locals => exact ignores call _ _ scope holds
    | globals => exact ignores call _ scope _ holds

end Act.Keeps

/-- A built-in op that works on variables only keeps the registry and the world, stays in its
activation and reports nothing. -/
theorem Builtin.act_native {op : Builtin} {scope : Scope} (call : Call ω π)
    (finds : op.FindsVariables call.machine.registry scope) :
    ((op.act host scope).run.run call).2.machine.registry = call.machine.registry ∧
      ((op.act host scope).run.run call).2.machine.world = call.machine.world ∧
      ((op.act host scope).run.run call).2.lasting = call.lasting := by
  have steady : Call.Steady fun after : Call ω π =>
      after.machine.registry = call.machine.registry ∧ after.machine.world = call.machine.world ∧
        after.lasting = call.lasting := fun _ _ _ _ _ _ holds => holds
  exact act_moves (Act.Keeps.closed (fun call stack globals locals => steady call stack globals locals _ _)
    fun _ holds => holds.1) (Act.Keeps.moves steady) (fun _ => Act.Keeps.look fun _ => Act.Keeps.pure _)
    (fun _ _ _ holds => holds) finds.reaches call ⟨rfl, rfl, rfl⟩

/-! ## Runs -/

/-- The machines have the same registry, the same limit to the depth of calls, and the same world. -/
structure Machine.IsSame (left machine : Machine ω π) : Prop where
  registry : left.registry = machine.registry
  maxDepth : left.maxDepth = machine.maxDepth
  world : left.world = machine.world

namespace Machine.IsSame

theorem refl (machine : Machine ω π) : machine.IsSame machine := ⟨rfl, rfl, rfl⟩

theorem trans {last left machine : Machine ω π} (second : last.IsSame left)
    (first : left.IsSame machine) : last.IsSame machine where
  registry := second.registry.trans first.registry
  maxDepth := second.maxDepth.trans first.maxDepth
  world := second.world.trans first.world

theorem emit (machine : Machine ω π) (event : Event) : (machine.emit event).IsSame machine := by
  unfold Machine.emit
  split <;> exact ⟨rfl, rfl, rfl⟩

theorem traceStep (machine : Machine ω π) (frame : Frame) (op : String) :
    (machine.traceStep frame op).IsSame machine := by
  refine .trans (emit _ _) ?_
  unfold Machine.writeStep
  split
  · split <;> exact ⟨rfl, rfl, rfl⟩
  · exact .refl machine

end Machine.IsSame

/-- The turn keeps the registry, the limit to the depth of calls and the world. As long as the
activation goes on, it is the same one. -/
def Turn.IsConfined (frame : Frame) (machine : Machine ω π) : Turn ω π → Prop
  | .ended => True
  | .next after left => left.IsSame machine ∧ after.IsSame frame
  | .stop _ _ left => left.IsSame machine

/-- Something may be reported before the turn. -/
theorem Turn.IsConfined.traced {frame : Frame} {machine traced : Machine ω π}
    (same : traced.IsSame machine) {turn : Turn ω π} (confined : turn.IsConfined frame traced) :
    turn.IsConfined frame machine := by
  cases turn with
  | ended => trivial
  | next after left => exact ⟨confined.1.trans same, confined.2⟩
  | stop stop after left => exact Machine.IsSame.trans confined same

namespace Frame

variable {frame : Frame} {machine : Machine ω π} {callee : Frame → Machine ω π → Run ω π}

theorem perform_native {op : Builtin} {scope : Scope}
    (finds : op.FindsVariables machine.registry scope) (name : String) :
    (frame.perform (op.act host scope) name machine).IsConfined frame machine := by
  obtain ⟨registry, world, lasting⟩ :=
    Builtin.act_native ⟨machine, frame.spent, name⟩ finds
  have limit := congrArg Lasting.maxDepth lasting
  obtain ⟨turn, comes, performs⟩ := perform_performs (op.act host scope) name frame machine
  rw [comes]
  cases performs with
  | answered ran =>
    rw [ran] at registry world lasting limit
    exact ⟨⟨registry, limit, world⟩, congrArg Lasting.name lasting, congrArg Lasting.depth lasting,
      congrArg Lasting.ops lasting⟩
  | refused ran =>
    rw [ran] at registry world limit
    exact ⟨registry, limit, world⟩

theorem enter_native {child : Frame}
    (inner : (callee child (machine.emit (.enter child.name child.depth))).machine.IsSame machine) :
    (frame.enter callee child machine).IsConfined frame machine := by
  obtain ⟨turn, comes, enters⟩ := enter_enters callee frame child machine
  rw [comes]
  cases enters with
  | deep => exact .refl machine
  | returned _ ran =>
    subst ran
    exact ⟨(Machine.IsSame.emit _ _).trans inner, rfl, rfl, rfl⟩
  | failed _ ran =>
    subst ran
    exact inner
  | starved _ ran =>
    subst ran
    exact inner

theorem Calls.same {child : Frame × Machine ω π} (calls : frame.Calls machine child) :
    child.2.IsSame machine := by
  obtain ⟨_, _, _, _, -, -, -, -, isMachine⟩ := calls
  rw [isMachine]
  exact .trans (.emit _ _) (.traceStep _ _ _)

/-- The elements of a run list are confined if what they call is. -/
theorem turn_confined (native : machine.registry.IsNative)
    (inner : ∀ child : Frame × Machine ω π, frame.Calls machine child →
      (callee child.1 child.2).machine.IsSame child.2) :
    (frame.turn host callee machine).IsConfined frame machine := by
  have traced := Machine.IsSame.traceStep machine frame
  obtain ⟨turn, comes, turns⟩ := turn_turns host callee frame machine
  rw [comes]
  cases turns with
  | ended => trivial
  | element found takes =>
    cases takes with
    | malformed => exact .refl machine
    | literal => exact ⟨⟨(traced _).registry, (traced _).maxDepth, (traced _).world⟩, rfl, rfl, rfl⟩
    | unknown => exact traced _
    | @dispatched name _ handler classified resolved =>
      refine .traced (traced name) ?_
      cases handler with
      | builtin op =>
        refine perform_native ?_ name
        rw [Machine.traceStep_registry]
        exact native.plugins.finds op _
      | foreign plug => exact absurd resolved (native.handlers name plug)
      | procedure procedure =>
        refine enter_native (.trans (inner (_, _) ?_) (.emit _ _))
        exact ⟨_, name, _, procedure, found, classified, resolved, rfl, rfl⟩

/-- A run keeps the registry, the limit to the depth of calls and the world. -/
theorem run_native (native : machine.registry.IsNative) (fuel : Nat) :
    (frame.run host fuel machine).machine.IsSame machine := by
  induction fuel generalizing frame machine with
  | zero => exact .refl machine
  | succ fuel ih =>
    have confined : (frame.turn host (run host fuel) machine).IsConfined frame machine :=
      turn_confined native fun child calls => ih (calls.same.registry ▸ native)
    rw [run_succ]
    cases taken : frame.turn host (run host fuel) machine with
    | ended => exact .refl machine
    | next after left =>
      rw [taken] at confined
      exact .trans (ih (confined.1.registry ▸ native)) confined.1
    | stop stop after left =>
      rw [taken] at confined
      exact confined

/-- From one op to the next an activation stays the same, and so does what programs do not reach. -/
theorem Steps.confined (native : machine.registry.IsNative) {after : Frame × Machine ω π}
    (step : Steps host (frame, machine) after) :
    after.2.IsSame machine ∧ after.1.IsSame frame := by
  obtain ⟨fuel, taken⟩ := step
  have confined : (frame.turn host (run host fuel) machine).IsConfined frame machine :=
    turn_confined native fun child calls => run_native (calls.same.registry ▸ native) fuel
  rw [taken] at confined
  exact confined

end Frame

/-! ## Loading -/

namespace Session

/-- Where plugins only serve variables, no URI has a document. -/
theorem fetch_native {session : Session ω π} (only : session.machine.registry.OnlyVariables)
    (uri : String) : ∃ fault,
      (fetch host uri).run.run session = (.error (.failed ⟨fault, []⟩), session) := by
  rw [Task.fetch_run]
  cases found : session.machine.registry.getter uri with
  | error fault => exact ⟨fault, rfl⟩
  | ok plugin => exact absurd found (only.getter uri plugin)

theorem importModule_native (base : Session ω π) (name : String) :
    (importModule host name).Settles (Grown Registry.IsNative base) := by
  intro session grown
  rw [importModule_run, grown.possible.modules]
  exact ⟨by simp [Table.get?], grown⟩

/-- Where there is nothing foreign, loading only registers procedures, also if it fails. -/
theorem load_registers (fuel : Nat) (procedure : Procedure) {session : Session ω π}
    (native : session.machine.registry.IsNative) :
    Grown Registry.IsNative session ((load host fuel procedure).run.run session).2 := by
  have parts : Task.Parts host fun _ (task : Task ω π _) =>
      task.Keeps (Grown Registry.IsNative session) :=
    { pure := fun _ _ grown => grown
      fail := fun _ _ grown => grown
      starve := fun _ grown => grown
      bind := .bind
      look := fun each session grown => each session session grown
      importModule := fun name session grown => (importModule_native _ name session grown).2
      register := fun name procedure _ grown =>
        grown.registry (grown.possible.withProcedure name procedure)
      fetch := by
        intro uri session grown
        obtain ⟨fault, failed⟩ := fetch_native grown.possible.plugins uri
        rw [failed]
        exact grown
      whileLoading := by
        intro uri task keeps session grown
        rw [Task.whileLoading_run]
        exact (keeps _ (grown.loading _)).loading _ }
  exact load_parts parts fuel procedure session (.refl native)

theorem bring_native (base : Session ω π) (name : String) {reference : Value}
    (inside : ∀ inner, Procedure.ofValue reference = .ok inner →
      ∃ fuel, (load host fuel inner).Settles (Grown Registry.IsNative base)) :
    ∃ fuel, (bring host (load host fuel) name reference).Settles
      (Grown Registry.IsNative base) := by
  obtain ⟨fuel, settles⟩ :=
    exists_budget (fun _ _ valid valid' => Except.ok.inj (valid.symm.trans valid')) inside
  refine ⟨fuel, fun session grown => ?_⟩
  obtain ⟨result, ran, brings⟩ := bring_brings host (load host fuel) name reference session
  rw [ran]
  cases brings with
  | inline _ takes =>
    exact takes.settles grown settles fun inner _ kept =>
      kept.registry (kept.possible.withProcedure name inner)
  | cyclic _ => exact ⟨by simp, grown⟩
  | @missed uri _ _ _ _ fetched =>
    obtain ⟨fault, failed⟩ := fetch_native grown.possible.plugins uri
    cases failed.symm.trans fetched
    exact ⟨by simp, grown⟩
  | @got uri _ _ _ _ _ _ fetched _ =>
    obtain ⟨fault, failed⟩ := fetch_native grown.possible.plugins uri
    cases failed.symm.trans fetched

/-- Where there is nothing foreign, loading comes to an end. -/
theorem load_native (base : Session ω π) (procedure : Procedure) :
    ∃ fuel, (load host fuel procedure).Settles (Grown Registry.IsNative base) := by
  induction size : sizeOf procedure.includes using Nat.strong_induction_on
    generalizing procedure with
  | _ size nesting =>
    have each : ∀ entry ∈ procedure.includes, ∃ fuel,
        (bring host (load host fuel) entry.1 entry.2).Settles (Grown Registry.IsNative base) := by
      intro entry listed
      refine bring_native base entry.1 fun inner valid => ?_
      have smaller := Procedure.ofValue_includes_lt valid
      have within := List.sizeOf_lt_of_mem listed
      obtain ⟨name, document⟩ := entry
      simp only [Prod.mk.sizeOf_spec] at within smaller
      exact nesting (sizeOf inner.includes) (by omega) inner rfl
    obtain ⟨fuel, settles⟩ := bringAll_settles each
    exact ⟨fuel + 1, .bind (.forM fun name _ => importModule_native base name) fun _ =>
      .forM settles⟩

end Session

end DocMachine
