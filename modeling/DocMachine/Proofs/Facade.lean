import DocMachine.Proofs.Acts
import DocMachine.Run
import DocMachine.Standard

/-!
# The façade of handlers

A handler works through a façade: it sees the stack, the variables, the registry, the name of its
op, the depth of the activation, the clock and the world. The name of the activation, its run list,
its program counter, its open loops and pending parameters, and the machine's trace stay inside.

* `Inside` is what a handler does not see.
* `Act.Facade`: an act neither looks inside nor changes anything there.
* `Plugins.Facade`: all foreign handlers are such acts.

Results:
1. `Builtin.act_facade`: every built-in op but the control words and the one that sets pending
   parameters is such an act, if the foreign handlers are.
2. `Standard.host_facade`: the handlers of standard machines are such acts, if those of the guests
   are.
-/

namespace DocMachine

variable {ω π : Type}

/-- What a handler does not see of the activation and the machine. -/
structure Inside where
  name : String
  ops : List Value
  pc : Nat
  begins : List Nat
  pending : Scope
  console : Bool
  observed : Bool
  maxDepth : Nat
  lines : Array String
  events : Array Event

namespace Call

/-- The inside of a call. -/
def inside (call : Call ω π) : Inside where
  name := call.frame.name
  ops := call.frame.ops
  pc := call.frame.pc
  begins := call.frame.begins
  pending := call.frame.pending
  console := call.machine.console
  observed := call.machine.observed
  maxDepth := call.machine.maxDepth
  lines := call.machine.lines
  events := call.machine.events

/-- The call with another inside. -/
def withInside (call : Call ω π) (inside : Inside) : Call ω π where
  op := call.op
  frame :=
    { call.frame with
      name := inside.name, ops := inside.ops, pc := inside.pc, begins := inside.begins,
      pending := inside.pending }
  machine :=
    { call.machine with
      console := inside.console, observed := inside.observed, maxDepth := inside.maxDepth,
      lines := inside.lines, events := inside.events }

end Call

/-- The act does not look inside the call, so it does the same whatever is inside, and changes
nothing there. The depth of the activation it may see but not change. -/
structure Act.Facade {α : Type} (act : Act ω π α) : Prop where
  blind : ∀ call inside, act.run.run (call.withInside inside) =
    ((act.run.run call).1, (act.run.run call).2.withInside inside)
  depth : ∀ call, (act.run.run call).2.frame.depth = call.frame.depth

/-- The foreign handlers work through the façade. -/
structure Plugins.Facade {γ : Type} (plugins : Plugins ω π γ) : Prop where
  op : ∀ plug scope, (plugins.op plug scope).Facade
  get : ∀ plug uri scope, (plugins.get plug uri scope).Facade
  put : ∀ plug value uri scope, (plugins.put plug value uri scope).Facade
  delete : ∀ plug uri scope, (plugins.delete plug uri scope).Facade

namespace Act.Facade

variable {α β : Type}

theorem pure (a : α) : (Pure.pure a : Act ω π α).Facade := ⟨fun _ _ => rfl, fun _ => rfl⟩

theorem throw (fault : Fault) : (MonadExcept.throw fault : Act ω π α).Facade :=
  ⟨fun _ _ => rfl, fun _ => rfl⟩

theorem ofExcept (result : Except Fault α) : (Act.ofExcept result : Act ω π α).Facade := by
  cases result with
  | ok a => exact pure a
  | error fault => exact throw fault

theorem bind {act : Act ω π α} {rest : α → Act ω π β} (first : act.Facade)
    (second : ∀ a, (rest a).Facade) : (act >>= rest).Facade := by
  constructor
  · intro call inside
    rw [run_bind, run_bind, first.blind call inside]
    cases act.run.run call with
    | mk outcome left =>
      cases outcome with
      | ok a => exact (second a).blind left inside
      | error fault => rfl
  · intro call
    rw [run_bind]
    have kept := first.depth call
    cases ran : act.run.run call with
    | mk outcome left =>
      rw [ran] at kept
      cases outcome with
      | ok a => exact ((second a).depth left).trans kept
      | error fault => exact kept

/-- An act that first looks at the call, and not inside. -/
theorem look {rest : Call ω π → Act ω π α}
    (same : ∀ call inside, rest (call.withInside inside) = rest call)
    (each : ∀ call, (rest call).Facade) : (get >>= rest : Act ω π α).Facade := by
  constructor
  · intro call inside
    show (rest (call.withInside inside)).run.run (call.withInside inside) = _
    rw [same]
    exact (each call).blind call inside
  · intro call
    exact (each call).depth call

/-- A change of what is not inside. -/
theorem change {change : Call ω π → Call ω π}
    (commutes : ∀ call inside, change (call.withInside inside) = (change call).withInside inside)
    (depth : ∀ call, (change call).frame.depth = call.frame.depth) :
    (modify change : Act ω π Unit).Facade := by
  constructor
  · intro call inside
    show (Except.ok (), change (call.withInside inside)) = _
    rw [commutes]
    rfl
  · exact depth

theorem stack : (Act.stack : Act ω π (List Value)).Facade :=
  look (fun _ _ => rfl) fun _ => pure _

theorem setStack (values : List Value) : (Act.setStack values : Act ω π Unit).Facade :=
  change (fun _ _ => rfl) fun _ => rfl

theorem scope (reach : Reach) : (Act.scope reach : Act ω π Scope).Facade := by
  cases reach with
  | locals => exact look (fun _ _ => rfl) fun _ => pure _
  | globals => exact look (fun _ _ => rfl) fun _ => pure _

theorem setScope (reach : Reach) (scope : Scope) :
    (Act.setScope reach scope : Act ω π Unit).Facade := by
  cases reach with
  | locals => exact change (fun _ _ => rfl) fun _ => rfl
  | globals => exact change (fun _ _ => rfl) fun _ => rfl

/-- The building blocks of the built-in ops work through the façade. -/
theorem blocks : Blocks fun _ (act : Act ω π _) => act.Facade where
  pure := pure
  throw fault _ := throw fault
  bind := bind
  blame _ := look (fun _ _ => rfl) fun _ => throw _
  registry _ each := look (fun _ _ => rfl) fun call => each call.machine.registry
  stack := stack
  setStack := setStack
  scope := scope
  setScope := setScope

/-- Nothing inside is changed. -/
theorem inside {act : Act ω π α} (facade : act.Facade) (call : Call ω π) :
    (act.run.run call).2.inside = call.inside :=
  congrArg (fun result => result.2.inside) (facade.blind call call.inside)

/-- Of the calling frame only the locals are changed. -/
theorem frame {act : Act ω π α} (facade : act.Facade) (call : Call ω π) :
    (act.run.run call).2.frame =
      { call.frame with locals := (act.run.run call).2.frame.locals } := by
  have inside := facade.inside call
  have depth := facade.depth call
  generalize (act.run.run call).2 = after at inside depth ⊢
  obtain ⟨machine, ⟨_, _, _, _, _, _, _⟩, op⟩ := after
  simp only [Call.inside, Inside.mk.injEq] at inside depth ⊢
  obtain ⟨rfl, rfl, rfl, rfl, rfl, -⟩ := inside
  rw [depth]

end Act.Facade

/-- Every built-in op but the control words and the one that sets pending parameters works through
the façade. -/
theorem Builtin.act_facade {host : Host ω π} (facade : host.Facade) {op : Builtin}
    (plain : op ∉ words) (other : op ≠ .nextParams) (scope : Scope) :
    (op.act host scope).Facade :=
  act_closed Act.Facade.blocks.closed plain other (fun _ => Act.Facade.stack)
    { getter := fun _ _ _ plug uri rest _ => facade.get plug uri rest
      putter := fun _ _ _ plug uri rest _ value => facade.put plug value uri rest
      deleter := fun _ _ _ plug uri rest _ => facade.delete plug uri rest }

/-! ## Standard machines -/

namespace Standard

variable {γ : Type}

theorem onFiles_facade {α : Type} (act : ExceptT Fault (StateM FileTree) α) :
    (onFiles act : Act (World ω) (Plug γ) α).Facade :=
  .look (fun _ _ => rfl) fun _ =>
    .bind (.change (fun _ _ => rfl) fun _ => rfl) fun _ => .ofExcept _

theorem onNet_facade {α : Type} (act : ExceptT Fault (StateM Provider.Web.Net) α) :
    (onNet act : Act (World ω) (Plug γ) α).Facade :=
  .look (fun _ _ => rfl) fun _ =>
    .bind (.change (fun _ _ => rfl) fun _ => rfl) fun _ => .ofExcept _

/-- The handlers of standard machines work through the façade, if those of the guests do. -/
theorem host_facade {guests : Plugins (World ω) (Plug γ) γ} (facade : guests.Facade) :
    (host guests).Facade where
  op plug scope := by
    cases plug with
    | guest plug => exact facade.op plug scope
    | _ => exact .pure _
  get plug uri scope := by
    cases plug with
    | readFile media =>
      exact .bind (Act.Facade.blocks.closed.noParams scope) fun _ => onFiles_facade _
    | readWeb settings media =>
      exact .bind (Act.Facade.blocks.closed.params _) fun _ => onNet_facade _
    | guest plug => exact facade.get plug uri scope
    | _ => exact .pure _
  put plug value uri scope := by
    cases plug with
    | writeFile media =>
      exact .bind (Act.Facade.blocks.closed.noParams scope) fun _ => onFiles_facade _
    | guest plug => exact facade.put plug value uri scope
    | _ => exact .pure _
  delete plug uri scope := by
    cases plug with
    | removeFile => exact .bind (Act.Facade.blocks.closed.params _) fun _ => onFiles_facade _
    | guest plug => exact facade.delete plug uri scope
    | _ => exact .pure _

theorem noGuests_facade : (noGuests : Plugins (World ω) (Plug γ) Empty).Facade where
  op plug := nomatch plug
  get plug := nomatch plug
  put plug := nomatch plug
  delete plug := nomatch plug

end Standard

end DocMachine
