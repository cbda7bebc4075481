import DocMachine.Proofs.Includes
import DocMachine.Proofs.Steps

/-!
# What handlers do not see of the world

A world may hold things that no handler looks at: which places of a file tree were looked up, or which
requests a server was sent. Reading a document may change them. Here two worlds are alike if no handler
tells them apart, and a machine does the same in either. If worlds are alike only where they are equal, no
handler tells them apart, whatever it does.

* `Plugins.Overlooks`: in worlds that are alike, foreign handlers do the same, and leave worlds that are
  alike.
* `Machine.Akin`, `Call.Akin`, `Turn.Akin`, `Run.Akin` and `Session.Akin`: the same but for worlds that
  are alike.
* `Session.ReadsUnseen`: what a load fetches, it fetches unseen.
* `Session.Undisturbed`: nothing but the registry has changed, and what no handler sees of the world.

Results:
1. `Builtin.act_overlooks` and `Frame.run_akin`: built-in ops and runs do the same in worlds that are
   alike.
2. `Session.load_akin`: so does loading.
3. `Session.load_undisturbed`: a load that fetches unseen disturbs nothing.
-/

namespace DocMachine

variable {ω π : Type} {host : Host ω π} {alike : ω → ω → Prop}

/-- The machine in another world. -/
def Machine.inWorld (machine : Machine ω π) (world : ω) : Machine ω π :=
  { machine with world }

/-- The machines are the same, but for worlds that are alike. -/
inductive Machine.Akin (alike : ω → ω → Prop) (machine : Machine ω π) : Machine ω π → Prop
  | intro {world : ω} : alike machine.world world → Akin alike machine (machine.inWorld world)

/-- The calls are the same, but for worlds that are alike. -/
structure Call.Akin (alike : ω → ω → Prop) (call call' : Call ω π) : Prop where
  machine : call.machine.Akin alike call'.machine
  frame : call'.frame = call.frame
  op : call'.op = call.op

/-- In worlds that are alike the act does the same, and leaves worlds that are alike. -/
def Act.Overlooks {α : Type} (alike : ω → ω → Prop) (act : Act ω π α) : Prop :=
  ∀ call call', call.Akin alike call' → (act.run.run call').1 = (act.run.run call).1 ∧
    (act.run.run call).2.Akin alike (act.run.run call').2

/-- In worlds that are alike foreign handlers do the same, and leave worlds that are alike. -/
structure Plugins.Overlooks {γ : Type} (alike : ω → ω → Prop) (plugins : Plugins ω π γ) : Prop where
  op : ∀ plug scope, (plugins.op plug scope).Overlooks alike
  get : ∀ plug uri scope, (plugins.get plug uri scope).Overlooks alike
  put : ∀ plug value uri scope, (plugins.put plug value uri scope).Overlooks alike
  delete : ∀ plug uri scope, (plugins.delete plug uri scope).Overlooks alike

/-! ## Machines -/

namespace Machine.Akin

variable {machine machine' : Machine ω π}

theorem refl (equivalence : Equivalence alike) (machine : Machine ω π) :
    machine.Akin alike machine :=
  .intro (equivalence.refl machine.world)

theorem trans (equivalence : Equivalence alike) {machine'' : Machine ω π}
    (first : machine.Akin alike machine') (second : machine'.Akin alike machine'') :
    machine.Akin alike machine'' := by
  obtain ⟨worlds⟩ := first
  obtain ⟨worlds'⟩ := second
  exact .intro (equivalence.trans worlds worlds')

/-- What is done to a machine without regard to its world keeps machines alike. -/
theorem map (alikes : machine.Akin alike machine') (change : Machine ω π → Machine ω π)
    (world : ∀ machine, (change machine).world = machine.world)
    (blind : ∀ machine world, change (machine.inWorld world) = (change machine).inWorld world) :
    (change machine).Akin alike (change machine') := by
  obtain ⟨worlds⟩ := alikes
  rw [blind]
  exact .intro (by rwa [world])

theorem registry (alikes : machine.Akin alike machine') : machine'.registry = machine.registry := by
  obtain ⟨_⟩ := alikes
  rfl

theorem stack (alikes : machine.Akin alike machine') : machine'.stack = machine.stack := by
  obtain ⟨_⟩ := alikes
  rfl

theorem globals (alikes : machine.Akin alike machine') : machine'.globals = machine.globals := by
  obtain ⟨_⟩ := alikes
  rfl

theorem maxDepth (alikes : machine.Akin alike machine') : machine'.maxDepth = machine.maxDepth := by
  obtain ⟨_⟩ := alikes
  rfl

theorem pushAll (alikes : machine.Akin alike machine') (values : List Value) :
    (machine.pushAll values).Akin alike (machine'.pushAll values) :=
  alikes.map (fun machine => machine.pushAll values) (fun _ => rfl) fun _ _ => rfl

theorem emit (alikes : machine.Akin alike machine') (event : Event) :
    (machine.emit event).Akin alike (machine'.emit event) := by
  refine alikes.map (fun machine => machine.emit event) (fun machine => ?_) fun machine world => ?_
  · unfold Machine.emit
    split <;> rfl
  · unfold Machine.emit
    rw [apply_ite fun machine : Machine ω π => machine.inWorld world]
    rfl

theorem traceStep (alikes : machine.Akin alike machine') (frame : Frame) (op : String) :
    (machine.traceStep frame op).Akin alike (machine'.traceStep frame op) := by
  have event : machine'.stepEvent frame op = machine.stepEvent frame op := by
    obtain ⟨_⟩ := alikes
    rfl
  unfold Machine.traceStep
  rw [event]
  refine (alikes.map (fun machine => machine.writeStep frame op) (fun machine => ?_)
    fun machine world => ?_).emit _
  · unfold writeStep
    split
    · split <;> rfl
    · rfl
  · have console : (machine.inWorld world).consoleEnabled frame = machine.consoleEnabled frame := rfl
    unfold writeStep
    rw [console, show (machine.inWorld world).stepEvent frame op = machine.stepEvent frame op from rfl,
      show (machine.inWorld world).elapsed = machine.elapsed from rfl]
    split
    · split <;> rfl
    · rfl

end Machine.Akin

/-! ## Acts -/

namespace Act.Overlooks

variable {α β : Type}

theorem pure (a : α) : (Pure.pure a : Act ω π α).Overlooks alike :=
  fun _ _ alikes => ⟨rfl, alikes⟩

theorem throw (fault : Fault) : (MonadExcept.throw fault : Act ω π α).Overlooks alike :=
  fun _ _ alikes => ⟨rfl, alikes⟩

theorem bind {act : Act ω π α} {rest : α → Act ω π β} (first : act.Overlooks alike)
    (second : ∀ a, (rest a).Overlooks alike) : (act >>= rest).Overlooks alike := by
  intro call call' alikes
  obtain ⟨same, lefts⟩ := first call call' alikes
  rw [run_bind, run_bind]
  cases ran : act.run.run call with
  | mk outcome left =>
    cases ran' : act.run.run call' with
    | mk outcome' left' =>
      rw [ran, ran'] at same lefts
      cases same
      cases outcome with
      | ok a => exact second a left left' lefts
      | error fault => exact ⟨rfl, lefts⟩

/-- An act that first looks at the call, but not at its world. -/
theorem look {rest : Call ω π → Act ω π α}
    (same : ∀ call call' : Call ω π, call.Akin alike call' → rest call' = rest call)
    (each : ∀ call, (rest call).Overlooks alike) : (get >>= rest : Act ω π α).Overlooks alike := by
  intro call call' alikes
  show ((rest call').run.run call').1 = ((rest call).run.run call).1 ∧
    ((rest call).run.run call).2.Akin alike ((rest call').run.run call').2
  rw [same call call' alikes]
  exact each call call call' alikes

theorem onMachine {change : Machine ω π → Machine ω π}
    (keeps : ∀ {machine machine' : Machine ω π}, machine.Akin alike machine' →
      (change machine).Akin alike (change machine')) : (onMachine change).Overlooks alike :=
  fun _ _ alikes => ⟨rfl, keeps alikes.machine, alikes.frame, alikes.op⟩

theorem onFrame (change : Frame → Frame) : (onFrame change : Act ω π Unit).Overlooks alike :=
  fun _ _ alikes => ⟨rfl, alikes.machine, congrArg change alikes.frame, alikes.op⟩

theorem stack : (Act.stack : Act ω π (List Value)).Overlooks alike := by
  refine look (fun call call' alikes => ?_) fun _ => pure _
  rw [alikes.machine.stack]

theorem blocks : Blocks fun _ (act : Act ω π _) => act.Overlooks alike where
  pure := pure
  throw fault _ := throw fault
  bind := bind
  blame fault := look (fun _ _ alikes => by rw [alikes.op]) fun _ => throw _
  registry rest each := look (fun _ _ alikes => congrArg rest alikes.machine.registry)
    fun call => each call.machine.registry
  stack := stack
  setStack values := onMachine fun alikes => alikes.map
    (fun machine => { machine with stack := values }) (fun _ => rfl) fun _ _ => rfl
  scope reach := by
    cases reach with
    | locals => exact look (fun _ _ alikes => by rw [alikes.frame]) fun _ => pure _
    | globals => exact look (fun _ _ alikes => by rw [alikes.machine.globals]) fun _ => pure _
  setScope reach scope := by
    cases reach with
    | locals => exact onFrame _
    | globals =>
      exact onMachine fun alikes => alikes.map
        (fun machine => { machine with globals := scope }) (fun _ => rfl) fun _ _ => rfl

theorem moves : Moves fun _ (act : Act ω π _) => act.Overlooks alike where
  look same each := look (fun _ _ alikes => same _ _ (congrArg Frame.place alikes.frame)) each
  move _ := onFrame _

end Act.Overlooks

/-- Built-in ops do the same in worlds that are alike. -/
theorem Builtin.act_overlooks (overlooks : host.Overlooks alike) (op : Builtin) (scope : Scope) :
    (op.act host scope).Overlooks alike :=
  act_moves Act.Overlooks.blocks.closed Act.Overlooks.moves (fun _ => Act.Overlooks.stack)
    (fun _ _ => Act.Overlooks.onFrame _)
    { getter := fun _ _ _ plug uri rest _ => overlooks.get plug uri rest
      putter := fun _ _ _ plug uri rest _ value => overlooks.put plug value uri rest
      deleter := fun _ _ _ plug uri rest _ => overlooks.delete plug uri rest }

/-! ## Runs -/

/-- The turns come to the same, but for worlds that are alike. -/
inductive Turn.Akin (alike : ω → ω → Prop) : Turn ω π → Turn ω π → Prop
  | ended : Akin alike .ended .ended
  | next (frame : Frame) {machine machine' : Machine ω π} : machine.Akin alike machine' →
      Akin alike (.next frame machine) (.next frame machine')
  | stop (reason : Stop) (frame : Frame) {machine machine' : Machine ω π} :
      machine.Akin alike machine' → Akin alike (.stop reason frame machine) (.stop reason frame machine')

/-- The runs come to the same, but for worlds that are alike. -/
structure Run.Akin (alike : ω → ω → Prop) (run run' : Run ω π) : Prop where
  outcome : run'.outcome = run.outcome
  frame : run'.frame = run.frame
  machine : run.machine.Akin alike run'.machine

namespace Frame

variable {callee : Frame → Machine ω π → Run ω π} {frame : Frame} {machine machine' : Machine ω π}

theorem perform_akin {act : Act ω π (List Value)} (overlooks : act.Overlooks alike) (name : String)
    (alikes : machine.Akin alike machine') :
    (frame.perform act name machine).Akin alike (frame.perform act name machine') := by
  obtain ⟨same, lefts⟩ := overlooks ⟨machine, frame.spent, name⟩ ⟨machine', frame.spent, name⟩
    ⟨alikes, rfl, rfl⟩
  unfold perform
  cases ran : act.run.run ⟨machine, frame.spent, name⟩ with
  | mk outcome left =>
    cases ran' : act.run.run ⟨machine', frame.spent, name⟩ with
    | mk outcome' left' =>
      rw [ran, ran'] at same lefts
      obtain ⟨machines, frames, -⟩ := lefts
      obtain ⟨machine, after, _⟩ := left
      obtain ⟨machine', after', _⟩ := left'
      cases same
      cases frames
      cases outcome with
      | ok values => exact .next _ (machines.pushAll values)
      | error fault => exact .stop _ _ machines

variable (calls : ∀ (child : Frame) {machine machine' : Machine ω π}, machine.Akin alike machine' →
  (callee child machine).Akin alike (callee child machine'))

include calls

theorem enter_akin (child : Frame) (alikes : machine.Akin alike machine') :
    (frame.enter callee child machine).Akin alike (frame.enter callee child machine') := by
  unfold enter
  rw [alikes.maxDepth]
  split
  · exact .stop _ _ alikes
  · obtain ⟨outcome, -, lefts⟩ := calls child (alikes.emit (.enter child.name child.depth))
    simp only [outcome]
    split
    · exact .next _ (lefts.emit _)
    · exact .stop _ _ lefts
    · exact .stop _ _ lefts

theorem dispatch_akin (overlooks : host.Overlooks alike) (name : String) (bound : Scope)
    (handler : Handler π) (alikes : machine.Akin alike machine') :
    (frame.dispatch host callee name bound handler machine).Akin alike
      (frame.dispatch host callee name bound handler machine') := by
  cases handler with
  | builtin op => exact perform_akin (Builtin.act_overlooks overlooks op bound) name alikes
  | foreign plug => exact perform_akin (overlooks.op plug bound) name alikes
  | procedure procedure => exact enter_akin calls _ alikes

theorem turn_akin (overlooks : host.Overlooks alike) (alikes : machine.Akin alike machine') :
    (frame.turn host callee machine).Akin alike (frame.turn host callee machine') := by
  unfold turn
  split
  · exact .ended
  · next value found =>
    unfold takeUp
    split
    · exact .stop _ _ alikes
    · exact .next _ ((alikes.traceStep frame _).pushAll _)
    · next name params classified =>
      have traced := alikes.traceStep frame (Op.invoke name params).traceName
      simp only [traced.registry]
      split
      · exact .stop _ _ traced
      · exact dispatch_akin calls overlooks _ _ _ traced

omit calls in
/-- Runs do the same in worlds that are alike. -/
theorem run_akin (overlooks : host.Overlooks alike) (fuel : Nat) (frame : Frame)
    {machine machine' : Machine ω π} (alikes : machine.Akin alike machine') :
    (frame.run host fuel machine).Akin alike (frame.run host fuel machine') := by
  induction fuel generalizing frame machine machine' with
  | zero => exact ⟨rfl, rfl, alikes⟩
  | succ fuel ih =>
    have turned : (frame.turn host (run host fuel) machine).Akin alike
        (frame.turn host (run host fuel) machine') := turn_akin ih overlooks alikes
    rw [run_succ, run_succ]
    generalize frame.turn host (run host fuel) machine = one at turned ⊢
    generalize frame.turn host (run host fuel) machine' = other at turned ⊢
    cases turned with
    | ended => exact ⟨rfl, rfl, alikes⟩
    | next after lefts => exact ih after lefts
    | stop reason after lefts => exact ⟨rfl, rfl, lefts⟩

end Frame

/-! ## Loading -/

namespace Session

/-- The sessions are the same, but for worlds that are alike. -/
structure Akin (alike : ω → ω → Prop) (session session' : Session ω π) : Prop where
  machine : session.machine.Akin alike session'.machine
  root : session'.root = session.root
  loading : session'.loading = session.loading

/-- In this session, and in those that are like it, the task does the same. -/
def Overlooked {α : Type} (alike : ω → ω → Prop) (task : Task ω π α) (session : Session ω π) : Prop :=
  ∀ session', session.Akin alike session' → (task.run.run session').1 = (task.run.run session).1 ∧
    (task.run.run session).2.Akin alike (task.run.run session').2

/-- What changes registries, without regard to anything else, keeps sessions alike. -/
theorem Akin.onRegistry {session session' : Session ω π} (alikes : session.Akin alike session')
    (registry : Registry π) :
    Akin alike { session with machine := { session.machine with registry } }
      { session' with machine := { session'.machine with registry } } where
  machine := alikes.machine.map (fun machine => { machine with registry }) (fun _ => rfl)
    fun _ _ => rfl
  root := alikes.root
  loading := alikes.loading

theorem Akin.withProcedure {session session' : Session ω π} (alikes : session.Akin alike session')
    (name : String) (procedure : Procedure) :
    Akin alike (session.withProcedure name procedure) (session'.withProcedure name procedure) := by
  have registered := alikes.onRegistry (session.machine.registry.withProcedure name procedure)
  unfold Session.withProcedure
  rwa [alikes.machine.registry]

theorem importModule_akin (name : String) (session : Session ω π) :
    Overlooked alike (importModule host name) session := by
  intro session' alikes
  rw [importModule_run, importModule_run, alikes.machine.registry]
  split
  · exact ⟨rfl, alikes⟩
  · exact ⟨rfl, alikes.onRegistry _⟩

theorem get_overlooks (overlooks : host.Overlooks alike) (plugin : Plugin π) (uri : String)
    (scope : Scope) : (plugin.get host uri scope).Overlooks alike := by
  rcases plugin with reach | plug
  · exact Act.Overlooks.blocks.closed.getVariable reach uri scope
  · exact overlooks.get plug uri scope

/-- What a fetch comes to does not depend on the URIs being loaded, and it leaves them as they are. -/
theorem fetch_overlooks (overlooks : host.Overlooks alike) (uri : String) {session session' : Session ω π}
    (machines : session.machine.Akin alike session'.machine) (roots : session'.root = session.root) :
    let ran := (fetch host uri).run.run session
    let ran' := (fetch host uri).run.run session'
    ran'.1 = ran.1 ∧ ran.2.machine.Akin alike ran'.2.machine ∧ ran'.2.root = ran.2.root ∧
      ran.2.loading = session.loading ∧ ran'.2.loading = session'.loading := by
  rw [Task.fetch_run, Task.fetch_run, machines.registry, roots]
  split
  · exact ⟨rfl, machines, roots, rfl, rfl⟩
  · next plugin _ =>
    obtain ⟨same, lefts⟩ := get_overlooks overlooks plugin uri [] ⟨session.machine, session.root, "get"⟩
      ⟨session'.machine, session.root, "get"⟩ ⟨machines, rfl, rfl⟩
    exact ⟨congrArg (Except.mapError _) same, lefts.machine, lefts.frame, rfl, rfl⟩

theorem fetch_akin (overlooks : host.Overlooks alike) (uri : String) (session : Session ω π) :
    Overlooked alike (fetch host uri) session := by
  intro session' alikes
  obtain ⟨same, machine, root, kept, kept'⟩ := fetch_overlooks overlooks uri alikes.machine alikes.root
  exact ⟨same, machine, root, kept'.trans (alikes.loading.trans kept.symm)⟩

theorem overlooked_parts :
    Task.PartsAt host fun _ (task : Task ω π _) session => Overlooked alike task session where
  pure _ _ _ alikes := ⟨rfl, alikes⟩
  fail _ _ _ alikes := ⟨rfl, alikes⟩
  starve _ _ alikes := ⟨rfl, alikes⟩
  bind {_ _ task rest session} first second session' alikes := by
    obtain ⟨same, lefts⟩ := first session' alikes
    rw [run_bind, run_bind]
    cases ran : task.run.run session with
    | mk outcome left =>
      cases ran' : task.run.run session' with
      | mk outcome' left' =>
        rw [ran, ran'] at same lefts
        cases same
        cases outcome with
        | ok a => exact second a left ran left' lefts
        | error stop => exact ⟨rfl, lefts⟩
  guard uri {stopped rest session} overlooked session' alikes := by
    show ((if session'.loading.contains uri then stopped else rest).run.run session').1 =
        ((if session.loading.contains uri then stopped else rest).run.run session).1 ∧
      Akin alike ((if session.loading.contains uri then stopped else rest).run.run session).2
        ((if session'.loading.contains uri then stopped else rest).run.run session').2
    rw [alikes.loading]
    exact overlooked session' alikes
  importModule := importModule_akin
  register name procedure _ _ alikes := ⟨rfl, alikes.withProcedure name procedure⟩
  whileLoading uri {task session} overlooked session' alikes := by
    obtain ⟨same, lefts⟩ := overlooked { session' with loading := uri :: session'.loading }
      ⟨alikes.machine, alikes.root, congrArg (uri :: ·) alikes.loading⟩
    rw [Task.whileLoading_run, Task.whileLoading_run]
    exact ⟨same, lefts.machine, lefts.root, alikes.loading⟩

/-- Loading does the same in worlds that are alike. -/
theorem load_akin (overlooks : host.Overlooks alike) (fuel : Nat) (procedure : Procedure)
    (session : Session ω π) : Overlooked alike (load host fuel procedure) session :=
  load_at overlooked_parts fuel fun uri found _ => fetch_akin overlooks uri found

theorem bringAll_akin (overlooks : host.Overlooks alike) (fuel : Nat) (includes : Scope)
    (session : Session ω π) :
    Overlooked alike (includes.forM fun entry => bring host (load host fuel) entry.1 entry.2)
      session := by
  have parts : Task.PartsAt host fun _ (task : Task ω π _) session => Overlooked alike task session :=
    overlooked_parts
  exact parts.forM fun _ _ _ _ _ _ => parts.bring (fun uri _ _ => fetch_akin overlooks uri _)
    (fun _ _ inner _ _ _ _ _ => load_akin overlooks fuel inner _)
    fun inner _ => load_akin overlooks fuel inner _

/-! ## Reading unseen -/

/-- Loading a procedure reads its documents unseen: where it comes to fetch one, the fetch changes nothing
but what no handler sees of the world. -/
def ReadsUnseen (host : Host ω π) (alike : ω → ω → Prop) (procedure : Procedure)
    (session : Session ω π) : Prop :=
  AtFetches host (fun uri found => found.Akin alike ((fetch host uri).run.run found).2) procedure
    session

/-- The session with another registry. -/
def withRegistry (session : Session ω π) (registry : Registry π) : Session ω π :=
  { session with machine := { session.machine with registry } }

/-- Nothing has changed but the registry, and what no handler sees of the world. -/
def Undisturbed (alike : ω → ω → Prop) (session left : Session ω π) : Prop :=
  (session.withRegistry left.machine.registry).Akin alike left

section

variable (equivalence : Equivalence alike)

include equivalence

theorem Undisturbed.refl (session : Session ω π) : session.Undisturbed alike session :=
  ⟨.refl equivalence _, rfl, rfl⟩

theorem Undisturbed.trans {session between left : Session ω π}
    (first : session.Undisturbed alike between) (second : between.Undisturbed alike left) :
    session.Undisturbed alike left := by
  obtain ⟨machine, root, loading⟩ := first.onRegistry left.machine.registry
  exact ⟨machine.trans equivalence second.machine, second.root.trans root,
    second.loading.trans loading⟩

omit equivalence in
theorem Akin.undisturbed {session left : Session ω π} (alikes : session.Akin alike left) :
    session.Undisturbed alike left := by
  unfold Undisturbed withRegistry
  rwa [alikes.machine.registry]

/-- What loading is made of changes nothing else, fetching apart. -/
theorem undisturbed_parts : Task.PartsAt host fun _ (task : Task ω π _) session =>
    session.Undisturbed alike (task.run.run session).2 where
  pure _ := Undisturbed.refl equivalence
  fail _ := Undisturbed.refl equivalence
  starve := Undisturbed.refl equivalence
  bind := by
    intro α β task rest session first second
    rw [run_bind]
    cases ran : task.run.run session with
    | mk outcome left =>
      rw [ran] at first
      cases outcome with
      | ok a => exact first.trans equivalence (second a left ran)
      | error stop => exact first
  guard _ _ _ _ undisturbed := undisturbed
  importModule := by
    intro name session
    rw [importModule_run]
    split
    · exact Undisturbed.refl equivalence session
    · exact ⟨.refl equivalence _, rfl, rfl⟩
  register _ _ _ := ⟨.refl equivalence _, rfl, rfl⟩
  whileLoading := by
    intro uri task session undisturbed
    rw [Task.whileLoading_run]
    exact ⟨undisturbed.machine, undisturbed.root, rfl⟩

/-- Loading that reads unseen changes nothing else. -/
theorem load_undisturbed {procedure : Procedure} {session : Session ω π}
    (unseen : ReadsUnseen host alike procedure session) (fuel : Nat) :
    session.Undisturbed alike ((load host fuel procedure).run.run session).2 :=
  load_at (undisturbed_parts equivalence) fuel fun uri found fetches =>
    (unseen fuel uri found fetches).undisturbed

end

end Session

end DocMachine
