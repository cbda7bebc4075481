import DocMachine.Proofs.Facade
import DocMachine.Proofs.Outcomes

/-!
# Invariants of calls

What every handler keeps of the machine and of the calling frame. The built-in ops change the stack,
the variables, and the place of the frame in its run list; foreign handlers may change more.

* `Act.Keeps`: the act keeps an invariant of the call.
* `Call.Steady`: the built-in ops have no means to break the invariant.
* `Plugins.Keeps`: all foreign handlers keep it, and `Plugins.KeepsRegistry` is about the registry,
  which only foreign handlers may change.

Results:
1. `Builtin.act_keeps`: the built-in ops keep what the foreign handlers keep.
2. `Frame.run_keeps`: so do runs, as far as the registry is concerned.
3. `Builtin.act_lasting`: with foreign handlers that work through the façade, no built-in op changes
   which activation this is, or the machine's trace, so `Frame.run_same`: nor does a run leave its
   activation.
-/

namespace DocMachine

variable {ω π : Type}

/-- The act keeps an invariant of the call. -/
def Act.Keeps {α : Type} (I : Call ω π → Prop) (act : Act ω π α) : Prop :=
  ∀ call, I call → I (act.run.run call).2

/-- The foreign handlers keep an invariant of the call. -/
structure Plugins.Keeps {γ : Type} (I : Call ω π → Prop) (plugins : Plugins ω π γ) : Prop where
  op : ∀ plug scope, (plugins.op plug scope).Keeps I
  get : ∀ plug uri scope, (plugins.get plug uri scope).Keeps I
  put : ∀ plug value uri scope, (plugins.put plug value uri scope).Keeps I
  delete : ∀ plug uri scope, (plugins.delete plug uri scope).Keeps I

/-- The foreign handlers keep an invariant of the registry. -/
def Plugins.KeepsRegistry {γ : Type} (I : Registry π → Prop) (plugins : Plugins ω π γ) : Prop :=
  plugins.Keeps fun call => I call.machine.registry

/-- The invariant does not speak of the stack, of variables, or of the place of the frame. -/
def Call.Steady (I : Call ω π → Prop) : Prop :=
  ∀ (call : Call ω π) stack globals locals pc begins, I call →
    I { call with
      machine := { call.machine with stack, globals }
      frame := { call.frame with locals, pc, begins } }

theorem Call.steady_registry (I : Registry π → Prop) :
    Steady fun call : Call ω π => I call.machine.registry :=
  fun _ _ _ _ _ _ holds => holds

namespace Act.Keeps

variable {I : Call ω π → Prop} {α β : Type}

theorem bind {act : Act ω π α} {rest : α → Act ω π β} (first : act.Keeps I)
    (second : ∀ a, (rest a).Keeps I) : (act >>= rest).Keeps I := by
  intro call holds
  have kept := first call holds
  rw [run_bind]
  cases ran : act.run.run call with
  | mk outcome left =>
    rw [ran] at kept
    cases outcome with
    | ok a => exact second a left kept
    | error fault => exact kept

theorem look {rest : Call ω π → Act ω π α} (each : ∀ call, (rest call).Keeps I) :
    (get >>= rest : Act ω π α).Keeps I :=
  fun call holds => each call call holds

theorem pure (a : α) : (Pure.pure a : Act ω π α).Keeps I := fun _ holds => holds

theorem throw (fault : Fault) : (MonadExcept.throw fault : Act ω π α).Keeps I :=
  fun _ holds => holds

theorem ofExcept (result : Except Fault α) : (Act.ofExcept result : Act ω π α).Keeps I := by
  cases result with
  | ok a => exact pure a
  | error fault => exact throw fault

/-- The building blocks of the built-in ops keep a steady invariant. -/
theorem blocks (steady : Call.Steady I) : Blocks fun _ (act : Act ω π _) => act.Keeps I where
  pure := pure
  throw fault _ := throw fault
  bind := bind
  blame _ := look fun _ => throw _
  registry _ each := look fun call => each call.machine.registry
  stack := look fun _ => pure _
  setStack values call holds := steady call values _ _ _ _ holds
  scope reach := by
    cases reach with
    | locals => exact look fun _ => pure _
    | globals => exact look fun _ => pure _
  setScope reach scope call holds := by
    cases reach with
    | locals => exact steady call _ _ scope _ _ holds
    | globals => exact steady call _ scope _ _ _ holds

theorem moves (steady : Call.Steady I) : Moves fun _ (act : Act ω π _) => act.Keeps I where
  look _ each := look each
  move _ call holds := steady call _ _ _ _ _ holds

end Act.Keeps

variable {host : Host ω π}

/-- A built-in op keeps what the foreign handlers keep. -/
theorem Builtin.act_keeps {I : Call ω π → Prop} (steady : Call.Steady I) (keeps : host.Keeps I)
    {op : Builtin} (sets : op = .nextParams → ∀ (call : Call ω π) pending, I call →
      I { call with frame := { call.frame with pending } }) (scope : Scope) :
    (op.act host scope).Keeps I :=
  act_moves (Act.Keeps.blocks steady).closed (Act.Keeps.moves steady)
    (fun _ => (Act.Keeps.blocks steady).stack) (fun isNext pending call => sets isNext call pending)
    { getter := fun _ _ _ plug uri rest _ => keeps.get plug uri rest
      putter := fun _ _ _ plug uri rest _ value => keeps.put plug value uri rest
      deleter := fun _ _ _ plug uri rest _ => keeps.delete plug uri rest }

/-! ## What remains -/

/-- What no handler changes: which activation this is, and the machine's trace. -/
structure Lasting where
  name : String
  depth : Nat
  ops : List Value
  console : Bool
  observed : Bool
  maxDepth : Nat
  lines : Array String
  events : Array Event

/-- The lasting part of a call. -/
def Call.lasting (call : Call ω π) : Lasting where
  name := call.frame.name
  depth := call.frame.depth
  ops := call.frame.ops
  console := call.machine.console
  observed := call.machine.observed
  maxDepth := call.machine.maxDepth
  lines := call.machine.lines
  events := call.machine.events

theorem Act.Facade.keeps_lasting {α : Type} {act : Act ω π α} (facade : act.Facade)
    (lasting : Lasting) : act.Keeps fun call => call.lasting = lasting := by
  rintro call rfl
  have inside := facade.inside call
  have depth := facade.depth call
  simp only [Call.inside, Inside.mk.injEq] at inside
  simp only [Call.lasting, inside, depth]

theorem Plugins.Facade.keeps_lasting (facade : host.Facade) (lasting : Lasting) :
    host.Keeps fun call => call.lasting = lasting where
  op plug scope := (facade.op plug scope).keeps_lasting lasting
  get plug uri scope := (facade.get plug uri scope).keeps_lasting lasting
  put plug value uri scope := (facade.put plug value uri scope).keeps_lasting lasting
  delete plug uri scope := (facade.delete plug uri scope).keeps_lasting lasting

/-- No built-in op changes which activation this is, or the machine's trace. -/
theorem Builtin.act_lasting (facade : host.Facade) (op : Builtin) (scope : Scope)
    (call : Call ω π) : ((op.act host scope).run.run call).2.lasting = call.lasting :=
  act_keeps (fun _ _ _ _ _ _ holds => holds) (facade.keeps_lasting call.lasting)
    (fun _ _ _ holds => holds) scope call rfl

/-- The frames are of one activation. -/
structure Frame.IsSame (after frame : Frame) : Prop where
  name : after.name = frame.name
  depth : after.depth = frame.depth
  ops : after.ops = frame.ops

theorem Frame.IsSame.refl (frame : Frame) : frame.IsSame frame := ⟨rfl, rfl, rfl⟩

theorem Frame.IsSame.trans {last after frame : Frame} (second : last.IsSame after)
    (first : after.IsSame frame) : last.IsSame frame where
  name := second.name.trans first.name
  depth := second.depth.trans first.depth
  ops := second.ops.trans first.ops

/-- The turn stays in the activation. -/
def Turn.Remains (frame : Frame) : Turn ω π → Prop
  | .ended => True
  | .next after _ => after.IsSame frame
  | .stop _ after _ => after.IsSame frame

namespace Frame

variable {callee : Frame → Machine ω π → Run ω π} {frame after : Frame} {machine left : Machine ω π}

theorem perform_remains {act : Act ω π (List Value)}
    (lasting : ∀ call, (act.run.run call).2.lasting = call.lasting) (name : String) :
    (frame.perform act name machine).Remains frame := by
  have kept := lasting ⟨machine, frame.spent, name⟩
  have same : (act.run.run ⟨machine, frame.spent, name⟩).2.frame.IsSame frame :=
    ⟨congrArg Lasting.name kept, congrArg Lasting.depth kept, congrArg Lasting.ops kept⟩
  obtain ⟨turn, comes, performs⟩ := perform_performs act name frame machine
  rw [comes]
  cases performs with
  | answered ran =>
    rw [ran] at same
    exact same
  | refused ran =>
    rw [ran] at same
    exact same

theorem enter_remains (child : Frame) : (frame.enter callee child machine).Remains frame := by
  have spent : frame.spent.IsSame frame := ⟨rfl, rfl, rfl⟩
  obtain ⟨turn, comes, enters⟩ := enter_enters callee frame child machine
  rw [comes]
  cases enters <;> exact spent

/-- A turn stays in the activation. -/
theorem turn_remains (facade : host.Facade) (callee : Frame → Machine ω π → Run ω π) (frame : Frame)
    (machine : Machine ω π) : (frame.turn host callee machine).Remains frame := by
  obtain ⟨turn, comes, turns⟩ := turn_turns host callee frame machine
  rw [comes]
  cases turns with
  | ended => trivial
  | element _ takes =>
    cases takes with
    | malformed => exact ⟨rfl, rfl, rfl⟩
    | literal => exact ⟨rfl, rfl, rfl⟩
    | unknown => exact ⟨rfl, rfl, rfl⟩
    | @dispatched _ _ handler =>
      cases handler with
      | builtin op => exact perform_remains (Builtin.act_lasting facade op _) _
      | foreign plug =>
        exact perform_remains (fun call => (facade.op plug _).keeps_lasting _ call rfl) _
      | procedure procedure => exact enter_remains _

/-- An activation stays the same from one op to the next. -/
theorem turn_same (facade : host.Facade)
    (taken : frame.turn host callee machine = .next after left) : after.IsSame frame := by
  have remains := turn_remains facade callee frame machine
  rw [taken] at remains
  exact remains

/-- What a run leaves is the activation that was run. -/
theorem run_same (facade : host.Facade) (fuel : Nat) (frame : Frame) (machine : Machine ω π) :
    (frame.run host fuel machine).frame.IsSame frame := by
  induction fuel generalizing frame machine with
  | zero => exact .refl frame
  | succ fuel ih =>
    have remains := turn_remains facade (run host fuel) frame machine
    rw [run]
    split
    · exact .refl frame
    · next taken =>
      rw [taken] at remains
      exact (ih _ _).trans remains
    · next taken =>
      rw [taken] at remains
      exact remains

end Frame

/-! ## Runs -/

variable {I : Registry π → Prop}

/-- The machine that a turn leaves has the property. -/
def Turn.Leaves (Q : Machine ω π → Prop) : Turn ω π → Prop
  | .ended => True
  | .next _ machine => Q machine
  | .stop _ _ machine => Q machine

namespace Frame

theorem perform_keeps {act : Act ω π (List Value)}
    (keeps : act.Keeps fun call => I call.machine.registry) {name : String}
    {frame : Frame} {machine : Machine ω π} (holds : I machine.registry) :
    (frame.perform act name machine).Leaves fun left => I left.registry := by
  have kept := keeps ⟨machine, frame.spent, name⟩ holds
  obtain ⟨turn, comes, performs⟩ := perform_performs act name frame machine
  rw [comes]
  cases performs with
  | answered ran =>
    rw [ran] at kept
    exact kept
  | refused ran =>
    rw [ran] at kept
    exact kept

theorem enter_keeps {callee : Frame → Machine ω π → Run ω π}
    (inner : ∀ frame machine, I machine.registry → I (callee frame machine).machine.registry)
    {child frame : Frame} {machine : Machine ω π} (holds : I machine.registry) :
    (frame.enter callee child machine).Leaves fun left => I left.registry := by
  have entered : I (machine.emit (.enter child.name child.depth)).registry := by
    rw [Machine.emit_registry]
    exact holds
  have kept := inner child _ entered
  obtain ⟨turn, comes, enters⟩ := enter_enters callee frame child machine
  rw [comes]
  cases enters with
  | deep => exact holds
  | returned _ ran =>
    rw [ran] at kept
    simpa [Turn.Leaves] using kept
  | failed _ ran =>
    rw [ran] at kept
    exact kept
  | starved _ ran =>
    rw [ran] at kept
    exact kept

theorem takeUp_keeps (keeps : host.KeepsRegistry I) {callee : Frame → Machine ω π → Run ω π}
    (inner : ∀ frame machine, I machine.registry → I (callee frame machine).machine.registry)
    {value : Value} {frame : Frame} {machine : Machine ω π} (holds : I machine.registry) :
    (frame.takeUp host callee value machine).Leaves fun left => I left.registry := by
  have traced : ∀ op, I (machine.traceStep frame op).registry := by
    intro op
    rw [Machine.traceStep_registry]
    exact holds
  obtain ⟨turn, comes, takes⟩ := takeUp_takesUp host callee value frame machine
  rw [comes]
  cases takes with
  | malformed => exact holds
  | literal => exact traced _
  | unknown => exact traced _
  | @dispatched _ _ handler =>
    cases handler with
    | builtin op =>
      exact perform_keeps (Builtin.act_keeps (Call.steady_registry I) keeps
        (fun _ _ _ holds => holds) _) (traced _)
    | foreign plug => exact perform_keeps (keeps.op plug _) (traced _)
    | procedure procedure => exact enter_keeps inner (traced _)

theorem turn_keeps (keeps : host.KeepsRegistry I) {callee : Frame → Machine ω π → Run ω π}
    (inner : ∀ frame machine, I machine.registry → I (callee frame machine).machine.registry)
    {frame : Frame} {machine : Machine ω π} (holds : I machine.registry) :
    (frame.turn host callee machine).Leaves fun left => I left.registry := by
  unfold turn
  split
  · trivial
  · exact takeUp_keeps keeps inner holds

/-- A run keeps what the foreign handlers keep of the registry. -/
theorem run_keeps (keeps : host.KeepsRegistry I) (fuel : Nat) {frame : Frame}
    {machine : Machine ω π} (holds : I machine.registry) :
    I (frame.run host fuel machine).machine.registry := by
  induction fuel generalizing frame machine with
  | zero => exact holds
  | succ fuel ih =>
    have kept : (frame.turn host (run host fuel) machine).Leaves fun left => I left.registry :=
      turn_keeps keeps (fun _ _ => ih) holds
    rw [run]
    split
    · exact holds
    · next taken =>
      rw [taken] at kept
      exact ih kept
    · next taken =>
      rw [taken] at kept
      exact kept

end Frame

/-! ## Standard machines -/

namespace Standard

variable {γ : Type} {I : Registry (Plug γ) → Prop}

theorem onFiles_keeps {α : Type} (act : ExceptT Fault (StateM FileTree) α) :
    (onFiles act : Act (World ω) (Plug γ) α).Keeps fun call => I call.machine.registry :=
  .look fun _ => .bind (fun _ holds => holds) fun _ => .ofExcept _

theorem onNet_keeps {α : Type} (act : ExceptT Fault (StateM Provider.Web.Net) α) :
    (onNet act : Act (World ω) (Plug γ) α).Keeps fun call => I call.machine.registry :=
  .look fun _ => .bind (fun _ holds => holds) fun _ => .ofExcept _

/-- The handlers of standard machines keep what those of the guests keep. -/
theorem host_keeps {guests : Plugins (World ω) (Plug γ) γ} (keeps : guests.KeepsRegistry I) :
    (Standard.host guests).KeepsRegistry I := by
  have blocks := (Act.Keeps.blocks (Call.steady_registry (ω := World ω) I)).closed
  constructor
  case op =>
    intro plug scope
    cases plug with
    | guest plug => exact keeps.op plug scope
    | _ => exact .pure _
  case get =>
    intro plug uri scope
    cases plug with
    | readFile media => exact .bind (blocks.noParams scope) fun _ => onFiles_keeps _
    | readWeb settings media => exact .bind (blocks.params _) fun _ => onNet_keeps _
    | guest plug => exact keeps.get plug uri scope
    | _ => exact .pure _
  case put =>
    intro plug value uri scope
    cases plug with
    | writeFile media => exact .bind (blocks.noParams scope) fun _ => onFiles_keeps _
    | guest plug => exact keeps.put plug value uri scope
    | _ => exact .pure _
  case delete =>
    intro plug uri scope
    cases plug with
    | removeFile => exact .bind (blocks.params _) fun _ => onFiles_keeps _
    | guest plug => exact keeps.delete plug uri scope
    | _ => exact .pure _

theorem noGuests_keeps : (noGuests : Plugins (World ω) (Plug γ) Empty).KeepsRegistry I where
  op plug := nomatch plug
  get plug := nomatch plug
  put plug := nomatch plug
  delete plug := nomatch plug

end Standard

/-! ## Fresh machines -/

/-- The built-in ops are found under their own names. -/
theorem Registry.builtins_op {name : String} {handler : Handler π}
    (found : (builtins : Registry π).op name = .ok handler) :
    ∃ op : Builtin, name = op.name ∧ handler = .builtin op := by
  have listed : ∀ ops : List Builtin,
      Table.get? (ops.map fun op => (op.name, Handler.builtin (π := π) op)) name = some handler →
        ∃ op : Builtin, name = op.name ∧ handler = .builtin op := by
    intro ops found
    induction ops with
    | nil => cases found
    | cons op rest ih =>
      simp only [List.map_cons, Table.get?] at found
      split at found
      · next named => exact ⟨op, named.symm, (Option.some.inj found).symm⟩
      · exact ih found
  unfold op at found
  split at found
  · next handler' found' =>
    cases found
    exact listed Builtin.all found'
  · cases found

theorem Registry.builtins_bindsWords : (builtins : Registry π).BindsWords where
  bound op isWord := by fin_cases isWord <;> rfl
  only name op isWord found := by
    obtain ⟨op', named, same⟩ := builtins_op found
    cases same
    exact named

end DocMachine
