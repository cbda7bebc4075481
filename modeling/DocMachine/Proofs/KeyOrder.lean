import DocMachine.Proofs.Matched
import DocMachine.Standard

/-!
# The order of keys in op invocations

In what order the keys of an op invocation are written makes no difference, and neither does the order of
the variables that a document or an include sets.

* `Turn.Rearranged` and `Run.Rearranged`: both fail, or both go well and leave rearranged states.
* `Procedure.Imports`: a procedure imports a module, or something that it includes does.
* `Session.Rearranged`: sessions that are the same but for such orders.

Results:
1. `Frame.turn_rearranged` and `Frame.run_rearranged`: rearranged activations run alike.
2. `Session.load_rearranged`: rearranged procedures are loaded alike.
3. `Session.exec_rearranged`: rearranged documents do the same.
-/

namespace DocMachine

variable {ω π : Type} {host : Host ω π}

/-! ## Runs -/

/-- There is nothing left to take up in either activation, or both go on in rearranged states, or both
stop. -/
inductive Turn.Rearranged : Turn ω π → Turn ω π → Prop
  | ended : Rearranged .ended .ended
  | next {frame frame' : Frame} {machine machine' : Machine ω π} : frame.Rearranged frame' →
      machine.Rearranged machine' → Rearranged (.next frame machine) (.next frame' machine')
  | stop {stop stop' : Stop} {frame frame' : Frame} {machine machine' : Machine ω π} :
      Rearranged (.stop stop frame machine) (.stop stop' frame' machine')

/-- Neither run succeeds, or both do and leave rearranged states. -/
def Run.Rearranged (run run' : Run ω π) : Prop :=
  Concurs (fun _ _ => run.frame.Rearranged run'.frame ∧ run.machine.Rearranged run'.machine)
    run.outcome run'.outcome

namespace Frame

variable {frame frame' : Frame} {machine machine' : Machine ω π}
  {callee : Frame → Machine ω π → Run ω π}

/-- The next op of rearranged activations is rearranged, or there is none. -/
theorem Rearranged.op? (frames : frame.Rearranged frame') :
    (frame.ops[frame.pc]? = none ∧ frame'.ops[frame'.pc]? = none) ∨
      ∃ value value', frame.ops[frame.pc]? = some value ∧ frame'.ops[frame'.pc]? = some value' ∧
        Op.Rearranged value value' := by
  rw [← frames.pc]
  generalize frame.pc = pc
  have ops := frames.ops
  generalize frame.ops = ops at ops ⊢
  generalize frame'.ops = ops' at ops ⊢
  induction ops generalizing pc with
  | nil => exact .inl ⟨rfl, rfl⟩
  | cons first _ ih =>
    cases pc with
    | zero => exact .inr ⟨_, _, rfl, rfl, first⟩
    | succ pc => exact ih pc

theorem Rearranged.advance (frames : frame.Rearranged frame') :
    frame.advance.Rearranged frame'.advance :=
  { frames with pc := congrArg (· + 1) frames.pc }

theorem Rearranged.spent (frames : frame.Rearranged frame') : frame.spent.Rearranged frame'.spent :=
  { frames.advance with pending := rfl }

theorem Rearranged.child (frames : frame.Rearranged frame') (name : String)
    {procedure procedure' : Procedure} (procedures : procedure.Rearranged procedure')
    {bound bound' : Scope} (shuffled : bound.Shuffled bound') :
    (frame.child name procedure bound).Rearranged (frame'.child name procedure' bound') where
  depth := congrArg (· + 1) frames.depth
  locals := (frames.locals.extend procedures.set).extend shuffled.overlays
  ops := procedures.run
  pc := rfl
  begins := rfl
  pending := rfl

theorem perform_rearranged (frames : frame.Rearranged frame') (machines : machine.Rearranged machine')
    {act act' : Act ω π (List Value)} (matching : act.Matches Eq act') (name : String) :
    (frame.perform act name machine).Rearranged (frame'.perform act' name machine') := by
  have calls : Call.Rearranged ⟨machine, frame.spent, name⟩ ⟨machine', frame'.spent, name⟩ :=
    ⟨machines, frames.spent⟩
  unfold perform
  rcases matching.outcomes calls with
    ⟨fault, fault', left, left', failed, failed'⟩ |
    ⟨values, values', left, left', passed, passed', same, calls⟩
  · rw [failed, failed']
    exact .stop
  · rw [passed, passed']
    cases same
    exact .next calls.frame (calls.machine.pushAll values)

theorem enter_rearranged (frames : frame.Rearranged frame') (machines : machine.Rearranged machine')
    {inner inner' : Frame} (inners : inner.Rearranged inner')
    (calls : ∀ machine machine' : Machine ω π, machine.Rearranged machine' →
      (callee inner machine).Rearranged (callee inner' machine')) :
    (frame.enter callee inner machine).Rearranged (frame'.enter callee inner' machine') := by
  have ran := calls _ _ (machines.emit (.enter inner.name inner.depth) (.enter inner'.name inner'.depth))
  unfold enter
  rw [machines.maxDepth, ← inners.depth]
  split
  · exact .stop
  · rw [← inners.depth] at ran
    rcases ran.outcomes with ⟨stop, stop', failed, failed'⟩ | ⟨⟨⟩, ⟨⟩, passed, passed', lefts⟩
    · simp only [failed, failed']
      cases stop <;> cases stop' <;> exact .stop
    · simp only [passed, passed']
      exact .next frames.spent (lefts.2.emit _ _)

theorem takeUp_rearranged (frames : frame.Rearranged frame') (machines : machine.Rearranged machine')
    (calls : ∀ (frame frame' : Frame) (machine machine' : Machine ω π), frame.Rearranged frame' →
      machine.Rearranged machine' → (callee frame machine).Rearranged (callee frame' machine'))
    {value value' : Value} (values : Op.Rearranged value value') :
    (frame.takeUp host callee value machine).Rearranged
      (frame'.takeUp host callee value' machine') := by
  unfold takeUp
  rcases values.classify.outcomes with ⟨fault, fault', bad, bad'⟩ | ⟨op, op', classified, classified', ops⟩
  · rw [bad, bad']
    exact .stop
  · rw [classified, classified']
    have traced := fun op op' => machines.traceStep frame frame' op op'
    cases ops with
    | literal value => exact .next frames.advance ((traced _ _).pushAll [value])
    | @invoke name params params' shuffled =>
      have bound := shuffled frame.pending
      rw [frames.pending] at bound
      simp only [Op.traceName, Machine.traceStep_registry, frames.pending]
      rcases (machines.registry.handlers name).outcomes with
        ⟨fault, fault', unknown, unknown'⟩ | ⟨handler, handler', known, known', handlers⟩
      · rw [unknown, unknown']
        exact .stop
      · rw [known, known']
        cases handlers with
        | builtin op =>
          exact perform_rearranged frames (traced name name) (op.act_matches host bound) name
        | procedure procedures =>
          exact enter_rearranged frames (traced name name) (frames.child name procedures bound)
            fun _ _ => calls _ _ _ _ (frames.child name procedures bound)

theorem turn_rearranged (frames : frame.Rearranged frame') (machines : machine.Rearranged machine')
    (calls : ∀ (frame frame' : Frame) (machine machine' : Machine ω π), frame.Rearranged frame' →
      machine.Rearranged machine' → (callee frame machine).Rearranged (callee frame' machine')) :
    (frame.turn host callee machine).Rearranged (frame'.turn host callee machine') := by
  unfold turn
  rcases frames.op? with ⟨none, none'⟩ | ⟨value, value', found, found', values⟩
  · rw [none, none']
    exact .ended
  · rw [found, found']
    exact takeUp_rearranged frames machines calls values

/-- Rearranged activations run alike. -/
theorem run_rearranged (fuel : Nat) (frames : frame.Rearranged frame')
    (machines : machine.Rearranged machine') :
    (frame.run host fuel machine).Rearranged (frame'.run host fuel machine') := by
  induction fuel generalizing frame frame' machine machine' with
  | zero => exact .error
  | succ fuel ih =>
    have turned : (frame.turn host (run host fuel) machine).Rearranged
        (frame'.turn host (run host fuel) machine') :=
      turn_rearranged frames machines fun _ _ _ _ => ih
    rw [run_succ, run_succ]
    generalize frame.turn host (run host fuel) machine = one at turned ⊢
    generalize frame'.turn host (run host fuel) machine' = other at turned ⊢
    cases turned with
    | ended => exact .ok ⟨frames, machines⟩
    | next frames machines => exact ih frames machines
    | stop => exact .error

end Frame

/-! ## Loading -/

/-- The procedure imports the module, or something that it includes does. -/
inductive Procedure.Imports : Procedure → String → Prop
  | here {procedure : Procedure} {name : String} : name ∈ procedure.imports →
      Imports procedure name
  | inside {procedure inner : Procedure} {entry : String × Value} {name : String} :
      entry ∈ procedure.includes → Procedure.ofValue entry.2 = .ok inner → Imports inner name →
      Imports procedure name

/-- Sessions with rearranged root activations and machines, that have the same modules. -/
structure Session.Rearranged (modules : Table String π) (session session' : Session ω π) : Prop where
  machine : session.machine.Rearranged session'.machine
  root : session.root.Rearranged session'.root
  kept : session.machine.registry.modules = modules
  kept' : session'.machine.registry.modules = modules

/-- In rearranged sessions neither task succeeds, or both do and leave rearranged sessions. -/
def Task.Matches (modules : Table String π) (task task' : Task ω π Unit) : Prop :=
  ∀ session session', Session.Rearranged modules session session' →
    Concurs (fun _ _ => Session.Rearranged modules (task.run.run session).2 (task'.run.run session').2)
      (task.run.run session).1 (task'.run.run session').1

namespace Task.Matches

variable {modules : Table String π} {task task' rest rest' : Task ω π Unit}

/-- Either neither task succeeds, or both do. -/
theorem outcomes (matching : task.Matches modules task') {session session' : Session ω π}
    (sessions : Session.Rearranged modules session session') :
    (∃ stop stop' left left', task.run.run session = (.error stop, left) ∧
      task'.run.run session' = (.error stop', left')) ∨
    ∃ left left', task.run.run session = (.ok (), left) ∧ task'.run.run session' = (.ok (), left') ∧
      Session.Rearranged modules left left' := by
  rcases (matching session session' sessions).outcomes with
    ⟨stop, stop', failed, failed'⟩ | ⟨⟨⟩, ⟨⟩, passed, passed', lefts⟩
  · exact .inl ⟨_, _, _, _, Prod.ext failed rfl, Prod.ext failed' rfl⟩
  · exact .inr ⟨_, _, Prod.ext passed rfl, Prod.ext passed' rfl, lefts⟩

theorem bind (first : task.Matches modules task') (second : rest.Matches modules rest') :
    Matches modules (task >>= fun _ => rest) (task' >>= fun _ => rest') := by
  intro session session' rearranged
  rw [run_bind, run_bind]
  rcases first.outcomes rearranged with
    ⟨stop, stop', left, left', failed, failed'⟩ | ⟨left, left', passed, passed', lefts⟩
  · rw [failed, failed']
    exact .error
  · rw [passed, passed']
    exact second left left' lefts

theorem forM {α : Type} {task : α → Task ω π Unit} {items : List α}
    (each : ∀ item ∈ items, (task item).Matches modules (task item)) :
    Matches modules (items.forM task) (items.forM task) := by
  induction items with
  | nil => exact fun _ _ rearranged => .ok rearranged
  | cons item rest ih =>
    exact bind (each item List.mem_cons_self) (ih fun later listed =>
      each later (List.mem_cons_of_mem _ listed))

end Task.Matches

namespace Session

variable {modules : Table String π}

/-- Importing a module that is not there fails. -/
theorem importModule_matches {name : String} (missing : modules.get? name = none) :
    (importModule host name).Matches modules (importModule host name) := by
  intro session session' rearranged
  rw [importModule_run, importModule_run, rearranged.kept, rearranged.kept', missing]
  exact .error

/-- Where plugins only serve variables, no document is brought in from a URI. -/
theorem bring_uri_native {load : Procedure → Task ω π Unit} (name uri : String)
    {session : Session ω π} (only : session.machine.registry.OnlyVariables) :
    ∃ stop, ((bring host load name (.str uri)).run.run session).1 = .error stop := by
  obtain ⟨fault, failed⟩ := fetch_native only uri
  rw [bring_uri, failed]
  split
  · exact ⟨_, rfl⟩
  · exact ⟨_, rfl⟩

theorem Rearranged.withProcedure {session session' : Session ω π}
    (sessions : Session.Rearranged modules session session') (name : String)
    {procedure procedure' : Procedure} (procedures : procedure.Rearranged procedure') :
    Session.Rearranged modules (session.withProcedure name procedure)
      (session'.withProcedure name procedure') where
  machine := { sessions.machine with
    registry := sessions.machine.registry.withProcedure name procedures }
  root := sessions.root
  kept := sessions.kept
  kept' := sessions.kept'

theorem bring_matches {load : Procedure → Task ω π Unit} (name : String)
    {document document' : Value} (rearranged : document.Rearranged document')
    (loads : ∀ inner inner', Procedure.ofValue document = .ok inner → inner.Rearranged inner' →
      (load inner).Matches modules (load inner')) :
    (bring host load name document).Matches modules (bring host load name document') := by
  intro session session' sessions
  by_cases isUri : ∃ uri, document = .str uri
  · obtain ⟨uri, rfl⟩ := isUri
    cases rearranged
    obtain ⟨stop, failed⟩ := bring_uri_native name uri sessions.machine.registry.only
    obtain ⟨stop', failed'⟩ := bring_uri_native name uri sessions.machine.registry.only'
    rw [failed, failed']
    exact .error
  · have isDocument : ∀ uri, document ≠ .str uri := fun uri same => isUri ⟨uri, same⟩
    have isDocument' : ∀ uri, document' ≠ .str uri := by
      rintro uri rfl
      cases rearranged
      exact isDocument uri rfl
    rw [bring_inline isDocument, bring_inline isDocument']
    rcases (Procedure.ofValue_rearranged rearranged).outcomes with
      ⟨fault, fault', refused, refused'⟩ | ⟨inner, inner', valid, valid', procedures⟩
    · rw [refused, refused']
      exact .error
    · rw [valid, valid']
      simp only
      rcases (loads inner inner' valid procedures).outcomes sessions with
        ⟨stop, stop', left, left', failed, failed'⟩ | ⟨left, left', loaded, loaded', lefts⟩
      · rw [failed, failed']
        exact .error
      · rw [loaded, loaded']
        exact .ok (lefts.withProcedure name procedures)

theorem bringAll_matches {load : Procedure → Task ω π Unit} {includes includes' : Scope}
    (rearranged : Includes.Rearranged includes includes')
    (loads : ∀ entry ∈ includes, ∀ inner inner', Procedure.ofValue entry.2 = .ok inner →
      inner.Rearranged inner' → (load inner).Matches modules (load inner')) :
    Task.Matches modules (includes.forM fun entry => bring host load entry.1 entry.2)
      (includes'.forM fun entry => bring host load entry.1 entry.2) := by
  induction includes generalizing includes' with
  | nil =>
    cases rearranged
    exact fun _ _ sessions => .ok sessions
  | cons entry rest ih =>
    cases rearranged with
    | cons name first later =>
      exact .bind (bring_matches name first (loads _ List.mem_cons_self))
        (ih later fun entry listed => loads entry (List.mem_cons_of_mem _ listed))

/-- Rearranged procedures are loaded alike, if they import no module that is there. -/
theorem load_rearranged (fuel : Nat) {procedure procedure' : Procedure}
    (rearranged : procedure.Rearranged procedure')
    (missing : ∀ name, procedure.Imports name → modules.get? name = none) :
    (load host fuel procedure).Matches modules (load host fuel procedure') := by
  induction fuel generalizing procedure procedure' with
  | zero => exact fun _ _ _ => .error
  | succ fuel ih =>
    unfold load
    rw [← rearranged.imports]
    refine .bind (.forM fun name listed => importModule_matches (missing name (.here listed))) ?_
    refine bringAll_matches rearranged.includes fun entry listed inner inner' valid procedures => ?_
    exact ih procedures fun name imports => missing name (.inside listed valid imports)

/-! ## Documents -/

theorem Rearranged.entry {session session' : Session ω π}
    (sessions : Session.Rearranged modules session session') {procedure procedure' : Procedure}
    (procedures : procedure.Rearranged procedure') :
    (session.entry procedure).Rearranged (session'.entry procedure') :=
  { sessions.root with
    locals := sessions.root.locals.extend procedures.set
    ops := procedures.run
    pc := rfl
    begins := rfl }

/-- Rearranged documents do alike, if they import no module that is there. -/
theorem exec_concurs (fuel : Nat) {document document' : Value}
    (rearranged : document.Rearranged document')
    (missing : ∀ procedure name, Procedure.ofValue document = .ok procedure →
      procedure.Imports name → modules.get? name = none)
    {session session' : Session ω π} (sessions : Session.Rearranged modules session session') :
    let ran := (exec host fuel document).run.run session
    let ran' := (exec host fuel document').run.run session'
    Concurs (fun _ _ => ran.2.root.Rearranged ran'.2.root ∧ ran.2.machine.Rearranged ran'.2.machine)
      ran.1 ran'.1 := by
  simp only [exec_run]
  rcases (Procedure.ofValue_rearranged rearranged).outcomes with
    ⟨fault, fault', refused, refused'⟩ | ⟨procedure, procedure', valid, valid', procedures⟩
  · rw [refused, refused']
    exact .error
  · rw [valid, valid']
    have loads : (load host fuel procedure).Matches modules (load host fuel procedure') :=
      load_rearranged fuel procedures fun name => missing procedure name valid
    simp only
    rcases loads.outcomes sessions with
      ⟨stop, stop', left, left', failed, failed'⟩ | ⟨left, left', loaded, loaded', lefts⟩
    · rw [failed, failed']
      exact .error
    · rw [loaded, loaded']
      exact Frame.run_rearranged fuel (lefts.entry procedures) lefts.machine

theorem Rearranged.refl {session : Session ω π}
    (noForeign : ∀ name plug, session.machine.registry.op name ≠ .ok (.foreign plug))
    (only : session.machine.registry.OnlyVariables) (locals : session.root.locals.keys.Nodup)
    (globals : session.machine.globals.keys.Nodup) :
    Session.Rearranged session.machine.registry.modules session session where
  machine := ⟨rfl, .refl globals, .refl noForeign only, rfl⟩
  root := ⟨rfl, .refl locals, Procedure.run_refl _, rfl, rfl, rfl⟩
  kept := rfl
  kept' := rfl

/-- The order of the keys of op invocations, and of the variables that a document and its includes set,
makes no difference where there is nothing foreign: one document succeeds if and only if the other does,
and then both leave the same stack and the same variables. -/
theorem exec_rearranged {session : Session ω π} {document document' : Value}
    (rearranged : document.Rearranged document')
    (noForeign : ∀ name plug, session.machine.registry.op name ≠ .ok (.foreign plug))
    (only : session.machine.registry.OnlyVariables)
    (missing : ∀ procedure name, Procedure.ofValue document = .ok procedure →
      procedure.Imports name → session.machine.registry.modules.get? name = none)
    (locals : session.root.locals.keys.Nodup) (globals : session.machine.globals.keys.Nodup)
    (fuel : Nat) :
    let ran := (exec host fuel document).run.run session
    let ran' := (exec host fuel document').run.run session
    (ran.1 = .ok () ↔ ran'.1 = .ok ()) ∧
      (ran.1 = .ok () → ran.2.machine.stack = ran'.2.machine.stack ∧
        Table.Alike ran.2.root.locals ran'.2.root.locals ∧
        Table.Alike ran.2.machine.globals ran'.2.machine.globals) := by
  intro ran ran'
  have concurs : Concurs
      (fun _ _ => ran.2.root.Rearranged ran'.2.root ∧ ran.2.machine.Rearranged ran'.2.machine)
      ran.1 ran'.1 :=
    exec_concurs fuel rearranged missing (.refl noForeign only locals globals)
  rcases concurs.outcomes with ⟨stop, stop', failed, failed'⟩ | ⟨⟨⟩, ⟨⟩, passed, passed', lefts⟩
  · rw [failed, failed']
    exact ⟨by simp, by simp⟩
  · rw [passed, passed']
    exact ⟨Iff.rfl, fun _ => ⟨lefts.2.stack, lefts.1.locals, lefts.2.globals⟩⟩

/-- Two ways to write a document with an include. The order of the locals can be seen, and nothing else. -/
theorem exec_rearranged_locals :
    let call : Scope := [("op", .str "f"), ("c", .int 7)]
    let call' : Scope := [("c", .int 7), ("op", .str "f")]
    let put : Scope := [("op", .str "put"), ("uri", .str "globals:g")]
    let put' : Scope := [("uri", .str "globals:g"), ("op", .str "put")]
    let f (set : Scope) : Value := .obj [("set", .obj set),
      ("run", .arr [.obj [("op", .str "get"), ("uri", .str "locals:c")]])]
    let document : Value := .obj [("include", .obj [("f", f [("a", .null), ("c", .int 1)])]),
      ("set", .obj [("x", .int 2), ("y", .int 3)]), ("run", .arr [.obj call, .obj put, .int 4])]
    let document' : Value := .obj [("include", .obj [("f", f [("c", .int 1), ("a", .null)])]),
      ("set", .obj [("y", .int 3), ("x", .int 2)]), ("run", .arr [.obj call', .obj put', .int 4])]
    let host := Standard.host Standard.noGuests
    let session : Session (World Unit) (Plug Empty) :=
      { machine := { registry := Registry.builtins, console := false, world := { guest := () } } }
    let ran := (exec host 5 document).run.run session
    let ran' := (exec host 5 document').run.run session
    ran.1 = .ok () ∧ ran'.1 = .ok () ∧
      ran.2.root.locals.keys = ["x", "y"] ∧ ran'.2.root.locals.keys = ["y", "x"] ∧
      ran.2.machine.stack = ran'.2.machine.stack ∧
      Table.Alike ran.2.root.locals ran'.2.root.locals ∧
      Table.Alike ran.2.machine.globals ran'.2.machine.globals := by
  intro call call' put put' f document document' host session
  have calls : Op.Rearranged (.obj call) (.obj call') := .invoke rfl (by decide) (.swap _ _ _)
  have puts : Op.Rearranged (.obj put) (.obj put') := .invoke rfl (by decide) (.swap _ _ _)
  have included : Value.Rearranged (f [("a", .null), ("c", .int 1)]) (f [("c", .int 1), ("a", .null)]) :=
    .sections (.set (by decide) (.swap _ _ _) (.keep _ .nil))
  have rearranged : document.Rearranged document' := by
    refine .sections (.included (.cons "f" included .nil) (.set (by decide) (.swap _ _ _) (.run ?_ .nil)))
    exact .cons calls (.cons puts (.cons (.same _) .nil))
  have native : session.machine.registry.IsNative := Registry.builtins_isNative
  have missing : ∀ name, session.machine.registry.modules.get? name = none := by
    intro name
    rw [native.modules]
    rfl
  obtain ⟨both, alike⟩ := @exec_rearranged _ _ host session document document' rearranged
    native.handlers native.plugins (fun _ name _ _ => missing name) List.nodup_nil List.nodup_nil 5
  have succeeds : ((exec host 5 document).run.run session).1 = .ok () := by cbv
  have keys : ((exec host 5 document).run.run session).2.root.locals.keys = ["x", "y"] := by cbv
  have keys' : ((exec host 5 document').run.run session).2.root.locals.keys = ["y", "x"] := by cbv
  exact ⟨succeeds, both.mp succeeds, keys, keys', alike succeeds⟩

end Session

end DocMachine
