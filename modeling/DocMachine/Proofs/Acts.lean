import DocMachine.Proofs.Faults
import Mathlib.Tactic.FinCases

/-!
# What built-in ops are made of

All built-in ops but the control words and the one that sets pending parameters are made of a few
building blocks: they fail, pop and peek, read and write variables, and look up the registry. A
property of acts that these blocks have and that sequencing keeps is a property of those ops.

* `Act.Core` lists the blocks but for the variables, and `Act.Closed` all of them. Where the whole
  stack may be read and written, `Act.StackBlocks` and `Act.Blocks` are shorter lists.
* `Act.Moves` lists the further blocks of the control words, and `Act.Advances` those of the words
  that do not go back.
* `Act.Reaches` asks the property of the foreign plugins that an op may reach.
* `Act.Avoids` says of some faults that an act does not fail with them, and `Plugins.Raises` that a foreign
  handler does.

Results: `Builtin.act_core` for the ops that do not work on resources, `Builtin.act_closed`, and
`Builtin.act_moves` for all built-in ops. From them the properties of single runs and of pairs of
runs are derived without opening the ops again. `Builtin.act_avoids` is the first of them.
-/

namespace DocMachine

variable {ω π : Type}

/-- What doing one thing after another comes to, for acts and for tasks. -/
theorem run_bind {ε σ α β : Type} (act : ExceptT ε (StateM σ) α) (rest : α → ExceptT ε (StateM σ) β)
    (call : σ) : (act >>= rest).run.run call =
      match act.run.run call with
      | (.ok a, left) => (rest a).run.run left
      | (.error fault, left) => (.error fault, left) := by
  show (ExceptT.bindCont rest (act.run.run call).1).run (act.run.run call).2 = _
  cases act.run.run call with
  | mk outcome left => cases outcome <;> rfl

/-- `P` is a property of the building blocks of acts but for the variables, as long as the registry is
one that may be `met`, and sequencing keeps it. -/
structure Act.Core (met : Registry π → Prop) (P : (α : Type) → Act ω π α → Prop) : Prop where
  pure : ∀ {α : Type} (a : α), P α (pure a)
  throw : ∀ {α : Type} (fault : Fault), fault.isPrior = false → P α (throw fault)
  bind : ∀ {α β : Type} {act : Act ω π α} {rest : α → Act ω π β},
    P α act → (∀ a, P β (rest a)) → P β (act >>= rest)
  blame : ∀ {α : Type} (fault : ParamFault), P α (blame fault)
  registry : ∀ {α : Type} (rest : Registry π → Act ω π α),
    (∀ registry, met registry → P α (rest registry)) →
      P α (get >>= fun call => rest call.machine.registry)
  pop : P Value pop
  popMany : ∀ n, P (List Value) (popMany n)
  popPair : P (Value × Value) popPair
  peek : ∀ offset, P Value (peek offset)

/-- `P` is a property of the building blocks of acts. -/
structure Act.Closed (met : Registry π → Prop) (P : (α : Type) → Act ω π α → Prop) : Prop
    extends Act.Core met P where
  scope : ∀ reach, P Scope (scope reach)
  setScope : ∀ reach scope, P Unit (setScope reach scope)

/-- `P` is a property of the building blocks of acts that read and write the whole stack, but for the
variables. -/
structure Act.StackBlocks (P : (α : Type) → Act ω π α → Prop) : Prop where
  pure : ∀ {α : Type} (a : α), P α (pure a)
  throw : ∀ {α : Type} (fault : Fault), fault.isPrior = false → P α (throw fault)
  bind : ∀ {α β : Type} {act : Act ω π α} {rest : α → Act ω π β},
    P α act → (∀ a, P β (rest a)) → P β (act >>= rest)
  blame : ∀ {α : Type} (fault : ParamFault), P α (blame fault)
  registry : ∀ {α : Type} (rest : Registry π → Act ω π α), (∀ registry, P α (rest registry)) →
    P α (get >>= fun call => rest call.machine.registry)
  stack : P (List Value) stack
  setStack : ∀ values, P Unit (setStack values)

/-- `P` is a property of the building blocks of acts that read and write the whole stack. -/
structure Act.Blocks (P : (α : Type) → Act ω π α → Prop) : Prop extends Act.StackBlocks P where
  scope : ∀ reach, P Scope (scope reach)
  setScope : ∀ reach scope, P Unit (setScope reach scope)

/-- The run list, where the frame stands in it, and in which loops. -/
def Frame.place (frame : Frame) : List Value × Nat × List Nat :=
  (frame.ops, frame.pc, frame.begins)

/-- The frame at another place of its run list, which depends on the place where it was. -/
def Frame.gone (frame : Frame) (go : List Value × Nat × List Nat → Nat × List Nat) : Frame :=
  { frame with pc := (go frame.place).1, begins := (go frame.place).2 }

/-- `P` is a property of the further building blocks of the control words that do not go back: they
look where the calling frame stands and move it on. -/
structure Act.Advances (P : (α : Type) → Act ω π α → Prop) : Prop where
  look : ∀ {α : Type} {rest : Call ω π → Act ω π α},
    (∀ call other, call.frame.place = other.frame.place → rest call = rest other) →
      (∀ call, P α (rest call)) → P α (get >>= rest)
  ahead : ∀ go, (∀ place : List Value × Nat × List Nat, place.2.1 ≤ (go place).1) →
    P Unit (onFrame fun frame => frame.gone go)

/-- `P` is a property of the further building blocks of control words, which look where the calling
frame stands and move it. -/
structure Act.Moves (P : (α : Type) → Act ω π α → Prop) : Prop where
  look : ∀ {α : Type} {rest : Call ω π → Act ω π α},
    (∀ call other, call.frame.place = other.frame.place → rest call = rest other) →
      (∀ call, P α (rest call)) → P α (get >>= rest)
  move : ∀ go, P Unit (onFrame fun frame => frame.gone go)

/-- A request of the given role, with these parameters, finds the plugin and hands on the rest. -/
def Resource.Finds (registry : Registry π) (role : Role) (scope : Scope) (plugin : Plugin π)
    (uri : String) (rest : Scope) : Prop :=
  ∃ request url, Param.record {} Request.field scope = .ok request ∧ request.uri = some uri ∧
    request.rest = rest ∧ parseUri uri = .ok url ∧
    registry.plugin role url.scheme request.media = .ok plugin

/-- The foreign plugins that `op` may reach with these parameters have the property. -/
structure Act.Reaches (met : Registry π → Prop) (P : (α : Type) → Act ω π α → Prop)
    (host : Host ω π) (op : Builtin) (scope : Scope) : Prop where
  getter : op = .fetch → ∀ registry, met registry → ∀ plug uri rest,
    Resource.Finds registry .getter scope (.foreign plug) uri rest →
      P Value (host.get plug uri rest)
  putter : op = .store → ∀ registry, met registry → ∀ plug uri rest,
    Resource.Finds registry .putter scope (.foreign plug) uri rest →
      ∀ value, P Unit (host.put plug value uri rest)
  deleter : op = .remove → ∀ registry, met registry → ∀ plug uri rest,
    Resource.Finds registry .deleter scope (.foreign plug) uri rest →
      P Unit (host.delete plug uri rest)

namespace Builtin

/-- The control words. -/
def words : List Builtin :=
  [openLoop, closeLoop, leaveLoop, continueIf, openIf, otherwise, closeIf, recurse]

/-- The control words that go back. -/
def backward : List Builtin := [closeLoop, recurse]

/-- What an op that works on resources asks a plugin for. -/
def role? : Builtin → Option Role
  | fetch => some .getter
  | store => some .putter
  | remove => some .deleter
  | _ => none

end Builtin

/-- A plugin that is not found is missing. -/
theorem Registry.plugin_late (registry : Registry π) (role : Role) (scheme : String)
    (media : Option String) : Fault.Late (registry.plugin role scheme media) := by
  unfold plugin
  split
  · exact .ok _
  · exact .error rfl

namespace Act.StackBlocks

variable {P : (α : Type) → Act ω π α → Prop} (blocks : StackBlocks P)

include blocks

theorem pop : P Value Act.pop := by
  refine blocks.bind blocks.stack fun values => ?_
  cases values with
  | nil => exact blocks.throw _ rfl
  | cons top rest => exact blocks.bind (blocks.setStack rest) fun _ => blocks.pure top

/-- What comes after a check. -/
theorem check {α : Type} {passes : Prop} [Decidable passes] {fault : Fault} (late : fault.isPrior = false)
    {rest : Act ω π α} (second : P α rest) :
    P α (if passes then MonadExcept.throw fault >>= fun (_ : PUnit) => rest else rest) := by
  split
  · exact blocks.bind (blocks.throw fault late) fun _ => second
  · exact second

theorem popMany (n : Nat) : P (List Value) (Act.popMany n) :=
  blocks.bind blocks.stack fun _ =>
    blocks.check rfl (blocks.bind (blocks.setStack _) fun _ => blocks.pure _)

theorem popPair : P (Value × Value) Act.popPair := by
  refine blocks.bind blocks.stack fun values => ?_
  match values with
  | [] => exact blocks.throw _ rfl
  | [_] => exact blocks.throw _ rfl
  | y :: x :: rest => exact blocks.bind (blocks.setStack rest) fun _ => blocks.pure (x, y)

theorem peek (offset : Nat) : P Value (Act.peek offset) := by
  refine blocks.check rfl (blocks.bind blocks.stack fun values => ?_)
  split
  · exact blocks.pure _
  · exact blocks.throw _ rfl

theorem core : Core (fun _ => True) P where
  pure := blocks.pure
  throw := blocks.throw
  bind := blocks.bind
  blame := blocks.blame
  registry rest each := blocks.registry rest fun registry => each registry trivial
  pop := blocks.pop
  popMany := blocks.popMany
  popPair := blocks.popPair
  peek := blocks.peek

end Act.StackBlocks

theorem Act.Blocks.closed {P : (α : Type) → Act ω π α → Prop} (blocks : Blocks P) :
    Closed (fun _ => True) P where
  toCore := blocks.core
  scope := blocks.scope
  setScope := blocks.setScope

theorem Act.Moves.advances {P : (α : Type) → Act ω π α → Prop} (moves : Moves P) : Advances P where
  look := moves.look
  ahead go _ := moves.move go

theorem Act.Advances.skip {P : (α : Type) → Act ω π α → Prop} (advances : Advances P)
    (count : Nat) : P Unit (Flow.skip count) :=
  advances.ahead (fun place => (place.2.1 + count, place.2.2)) fun _ => Nat.le_add_right _ _

namespace Act.Core

variable {met : Registry π → Prop} {P : (α : Type) → Act ω π α → Prop} (core : Core met P)

include core

theorem ofExcept {α : Type} {result : Except Fault α} (late : Fault.Late result) :
    P α (Act.ofExcept result) := by
  cases result with
  | ok a => exact core.pure a
  | error fault => exact core.throw fault (late.prior rfl)

theorem params {α : Type} (read : Param.Read α) : P α (Act.params read) := by
  cases read with
  | ok a => exact core.pure a
  | error fault => exact core.blame fault

theorem noParams (scope : Scope) : P Unit (Act.noParams scope) := by
  cases scope with
  | nil => exact core.pure ()
  | cons entry rest => exact core.blame (.unexpected entry.1)

/-! ## Values -/

theorem unary {f : Value → Except Fault Value} (late : ∀ x, Fault.Late (f x)) (scope : Scope) :
    P (List Value) (Builtin.unary f scope) := by
  refine core.bind (core.noParams scope) fun _ => core.bind core.pop fun value => ?_
  exact core.bind (core.ofExcept (late value)) fun _ => core.pure _

theorem binary {f : Value → Value → Except Fault Value} (late : ∀ x y, Fault.Late (f x y))
    (scope : Scope) : P (List Value) (Builtin.binary f scope) := by
  refine core.bind (core.noParams scope) fun _ => core.bind core.popPair fun pair => ?_
  exact core.bind (core.ofExcept (late pair.1 pair.2)) fun _ => core.pure _

theorem predicate (f : Value → Value → Bool) (scope : Scope) :
    P (List Value) (Builtin.predicate f scope) :=
  core.binary (fun _ _ => .ok _) scope

theorem ordered (f : Ordering → Bool) (scope : Scope) :
    P (List Value) (Builtin.ordered f scope) :=
  core.binary (fun x y => .map _ (Value.compare_late x y)) scope

theorem dup (host : Host ω π) (scope : Scope) : P (List Value) (Shuffle.dup host scope) := by
  refine core.bind (core.params _) fun params => ?_
  refine core.bind (core.peek params.offset) fun value => ?_
  exact core.registry (fun registry => Pure.pure
    [Shuffle.copied host registry value params.deep]) fun _ _ => core.pure _

theorem swap (scope : Scope) : P (List Value) (Shuffle.swap scope) := by
  refine core.bind (core.params _) fun order => ?_
  split
  · exact core.blame _
  · exact core.bind (core.popMany _) fun _ => core.pure _

theorem discard (scope : Scope) : P (List Value) (Shuffle.discard scope) :=
  core.bind (core.noParams scope) fun _ => core.bind core.pop fun _ => core.pure _

theorem size (height : P (List Value) Act.stack) (scope : Scope) :
    P (List Value) (Shuffle.size scope) :=
  core.bind (core.noParams scope) fun _ => core.bind height fun _ => core.pure _

theorem pack (scope : Scope) : P (List Value) (Shuffle.pack scope) := by
  refine core.bind (core.params _) fun params => core.bind (core.params _) fun count => ?_
  have packed : P (List Value) (do
      let items ← Act.popMany count
      return [Shuffle.composite params.keys (if params.forward then items else items.reverse)]) :=
    core.bind (core.popMany count) fun _ => core.pure _
  simp only
  generalize params.keys = keys at packed ⊢
  cases keys with
  | none => exact packed
  | some keys =>
    simp only
    split
    · exact core.bind (core.blame _) fun _ => packed
    · exact packed

theorem unpack (scope : Scope) : P (List Value) (Shuffle.unpack scope) := by
  refine core.bind (core.params _) fun keys => core.bind core.pop fun value => ?_
  split
  · exact core.pure _
  · exact core.pure _
  · exact core.throw _ rfl
  · exact core.params _
  · exact core.throw _ rfl

theorem fill (scope : Scope) : P (List Value) (Format.fill scope) := by
  unfold Format.fill
  split
  · refine core.bind (core.ofExcept (.mapError (fun _ => rfl) _)) fun template => ?_
    refine core.bind (core.popMany _) fun args => ?_
    exact core.bind (core.ofExcept (.mapError (fun _ => rfl) _)) fun _ => core.pure _
  · exact core.blame _
  · exact core.blame _

theorem require (scope : Scope) : P (List Value) (Assertion.require scope) := by
  refine core.bind (core.params _) fun params => core.bind core.pop fun value => ?_
  simp only
  split
  · exact core.bind (core.throw _ rfl) fun _ => core.pure _
  · exact core.pure _

/-! ## Variables -/

section

variable {reach : Reach}

theorem getVariable (reads : P Scope (Act.scope reach)) (uri : String) (scope : Scope) :
    P Value (Resource.getVariable reach uri scope) := by
  refine core.bind (core.params _) fun default => ?_
  refine core.bind (core.ofExcept (Resource.keyOf_late uri)) fun key => ?_
  exact core.bind reads fun _ => core.pure _

theorem putVariable (reads : P Scope (Act.scope reach))
    (writes : ∀ scope, P Unit (Act.setScope reach scope)) (value : Value) (uri : String)
    (scope : Scope) : P Unit (Resource.putVariable reach value uri scope) := by
  refine core.bind (core.noParams scope) fun _ => ?_
  refine core.bind (core.ofExcept (Resource.keyOf_late uri)) fun key => ?_
  exact core.bind reads fun _ => writes _

theorem deleteVariable (reads : P Scope (Act.scope reach))
    (writes : ∀ scope, P Unit (Act.setScope reach scope)) (uri : String) (scope : Scope) :
    P Unit (Resource.deleteVariable reach uri scope) := by
  refine core.bind (core.noParams scope) fun _ => ?_
  refine core.bind (core.ofExcept (Resource.keyOf_late uri)) fun key => ?_
  have read : P Value (Act.readVariable reach key) := by
    refine core.bind reads fun values => ?_
    split
    · exact core.pure _
    · exact core.throw _ rfl
  have removed : P Value (Act.removeVariable reach key) :=
    core.bind read fun _ => core.bind reads fun _ => core.bind (writes _) fun _ => core.pure _
  exact core.bind removed fun _ => core.pure _

end

/-! ## Plugins -/

/-- What is done with a plugin needs the property only for plugins that the request finds. -/
theorem resolve {β : Type} {role : Role} {scope : Scope}
    {rest : Plugin π × String × Scope → Act ω π β}
    (each : ∀ registry, met registry → ∀ plugin uri params,
      Resource.Finds registry role scope plugin uri params → P β (rest (plugin, uri, params))) :
    P β (Resource.resolve role scope >>= rest) := by
  unfold Resource.resolve
  simp only [bind_assoc]
  cases read : Param.record {} Resource.Request.field scope with
  | error fault => exact core.blame fault
  | ok request =>
    rw [show Act.params (.ok request) = (Pure.pure request : Act ω π _) from rfl, pure_bind]
    cases named : request.uri with
    | none => exact core.blame _
    | some uri =>
      rw [show Act.params (Param.required "uri" (some uri)) = (Pure.pure uri : Act ω π _) from rfl,
        pure_bind]
      cases parsed : Resource.parseUri uri with
      | error fault => exact core.throw fault ((Resource.parseUri_late uri).prior parsed)
      | ok url =>
        rw [show Act.ofExcept (.ok url) = (Pure.pure url : Act ω π _) from rfl, pure_bind]
        refine core.registry (fun registry =>
          Act.ofExcept (registry.plugin role url.scheme request.media) >>= fun plugin =>
            Pure.pure (plugin, uri, request.rest) >>= rest) fun registry possible => ?_
        cases found : registry.plugin role url.scheme request.media with
        | error fault => exact core.throw fault ((registry.plugin_late role _ _).prior found)
        | ok plugin =>
          exact each registry possible plugin uri request.rest
            ⟨request, url, read, named, rfl, parsed, found⟩

/-! ## Control words -/

theorem control {word : Act ω π Unit} (holds : P Unit word) (scope : Scope) :
    P (List Value) (Builtin.control word scope) :=
  core.bind (core.noParams scope) fun _ => core.bind holds fun _ => core.pure _

section

variable (advances : Advances P)

include advances

theorem upcoming : P (List Value) Flow.upcoming := by
  refine advances.look (fun _ _ same => ?_) fun _ => core.pure _
  simp only [Frame.place, Prod.mk.injEq] at same
  simp only [same]

theorem leaveLoop : P Unit Flow.leaveLoop := by
  refine core.bind (core.upcoming advances) fun ops => ?_
  split
  · exact core.bind (advances.skip _) fun _ =>
      advances.ahead (fun place => (place.2.1, place.2.2.tail)) fun _ => Nat.le_refl _
  · exact core.throw _ rfl

theorem onward {host : Host ω π} {op : Builtin} (isWord : op ∈ Builtin.words)
    (ahead : op ∉ Builtin.backward) (scope : Scope) : P (List Value) (op.act host scope) := by
  fin_cases isWord
  · exact core.control (advances.ahead (fun place => (place.2.1, place.2.1 :: place.2.2))
      fun _ => Nat.le_refl _) scope
  · exact absurd (by decide) ahead
  · exact core.control (core.leaveLoop advances) scope
  · refine core.control (core.bind core.pop fun top => ?_) scope
    split
    · exact core.pure _
    · exact core.leaveLoop advances
  · refine core.control (core.bind core.pop fun top => ?_) scope
    split
    · exact core.pure _
    · refine core.bind (core.upcoming advances) fun ops => ?_
      split
      · exact advances.skip _
      · exact core.throw _ rfl
  · refine core.control (core.bind (core.upcoming advances) fun ops => ?_) scope
    exact core.bind (core.ofExcept (Flow.blockEnd_late 0 ops)) advances.skip
  · exact core.control (core.pure ()) scope
  · exact absurd (by decide) ahead

end

theorem word (moves : Moves P) {host : Host ω π} {op : Builtin} (isWord : op ∈ Builtin.words)
    (scope : Scope) : P (List Value) (op.act host scope) := by
  by_cases back : op ∈ Builtin.backward
  · fin_cases back
    · refine core.control (moves.look (fun _ _ same => ?_) fun call => ?_) scope
      · simp only [Frame.place, Prod.mk.injEq] at same
        simp only [same]
      · split
        · next body _ _ => exact moves.move fun place => (body, place.2.2)
        · exact core.throw _ rfl
    · exact core.control (moves.move fun _ => (0, [])) scope
  · exact core.onward moves.advances isWord back scope

theorem nextParams (sets : ∀ pending, P Unit (onFrame fun frame => { frame with pending }))
    (scope : Scope) : P (List Value) (Shuffle.nextParams scope) := by
  refine core.bind (core.noParams scope) fun _ => core.bind core.pop fun value => ?_
  split
  · exact core.bind (sets _) fun _ => core.pure _
  · exact core.throw _ rfl

end Act.Core

/-- What the building blocks have, and sequencing keeps, those built-in ops have that do not work on
resources. -/
theorem Builtin.act_core {met : Registry π → Prop} {P : (α : Type) → Act ω π α → Prop}
    (core : Act.Core met P) {host : Host ω π} {op : Builtin} {scope : Scope}
    (plain : op ∉ words) (other : op ≠ .nextParams) (noRole : op.role? = none)
    (height : op = .size → P (List Value) Act.stack) : P (List Value) (op.act host scope) := by
  cases op with
  | add => exact core.binary Arith.add_late scope
  | subtract => exact core.binary Arith.subtract_late scope
  | multiply => exact core.binary Arith.multiply_late scope
  | divide => exact core.binary Arith.divide_late scope
  | modulo => exact core.binary Arith.modulo_late scope
  | both | either | differ | equal | unequal => exact core.predicate _ scope
  | greater | atLeast | less | atMost => exact core.ordered _ scope
  | negation | asBool => exact core.unary (fun _ => .ok _) scope
  | asInt => exact core.unary Arith.toInt_late scope
  | asFloat => exact core.unary Arith.toFloat_late scope
  | dup => exact core.dup host scope
  | swap => exact core.swap scope
  | discard => exact core.discard scope
  | size => exact core.size (height rfl) scope
  | pack => exact core.pack scope
  | unpack => exact core.unpack scope
  | nextParams => exact absurd rfl other
  | openLoop | closeLoop | leaveLoop | continueIf | openIf | otherwise | closeIf | recurse =>
    exact absurd (by decide) plain
  | fetch | store | remove => cases noRole
  | format => exact core.fill scope
  | require => exact core.require scope

/-- What all the building blocks have, and sequencing keeps, those built-in ops have that do not work
on resources. -/
theorem Builtin.act_coreMoves {met : Registry π → Prop} {P : (α : Type) → Act ω π α → Prop}
    (core : Act.Core met P) (moves : Act.Moves P) {host : Host ω π} {op : Builtin} {scope : Scope}
    (noRole : op.role? = none) (height : op = .size → P (List Value) Act.stack)
    (sets : op = .nextParams → ∀ pending, P Unit (Act.onFrame fun frame => { frame with pending })) :
    P (List Value) (op.act host scope) := by
  by_cases isWord : op ∈ words
  · exact core.word moves isWord scope
  by_cases next : op = .nextParams
  · subst next
    exact core.nextParams (sets rfl) scope
  · exact act_core core isWord next noRole height

/-! ## Resources -/

namespace Act.Closed

variable {met : Registry π → Prop} {P : (α : Type) → Act ω π α → Prop} (closed : Closed met P)

include closed

theorem getVariable (reach : Reach) (uri : String) (scope : Scope) :
    P Value (Resource.getVariable reach uri scope) :=
  closed.toCore.getVariable (closed.scope reach) uri scope

theorem fetch {host : Host ω π} {scope : Scope} (reaches : Act.Reaches met P host .fetch scope) :
    P (List Value) (Resource.fetch host scope) := by
  refine closed.resolve fun registry possible plugin uri params finds => ?_
  refine closed.bind ?_ fun _ => closed.pure _
  rcases plugin with reach | plug
  · exact closed.getVariable reach uri params
  · exact reaches.getter rfl registry possible plug uri params finds

theorem store {host : Host ω π} {scope : Scope} (reaches : Act.Reaches met P host .store scope) :
    P (List Value) (Resource.store host scope) := by
  refine closed.resolve fun registry possible plugin uri params finds => ?_
  refine closed.bind closed.pop fun value => closed.bind ?_ fun _ => closed.pure _
  rcases plugin with reach | plug
  · exact closed.toCore.putVariable (closed.scope reach) (closed.setScope reach) value uri params
  · exact reaches.putter rfl registry possible plug uri params finds value

theorem remove {host : Host ω π} {scope : Scope} (reaches : Act.Reaches met P host .remove scope) :
    P (List Value) (Resource.remove host scope) := by
  refine closed.resolve fun registry possible plugin uri params finds => ?_
  refine closed.bind ?_ fun _ => closed.pure _
  rcases plugin with reach | plug
  · exact closed.toCore.deleteVariable (closed.scope reach) (closed.setScope reach) uri params
  · exact reaches.deleter rfl registry possible plug uri params finds

end Act.Closed

/-- What all the building blocks have, and sequencing keeps, those built-in ops have that work on
resources. -/
theorem Builtin.act_resource {met : Registry π → Prop} {P : (α : Type) → Act ω π α → Prop}
    (closed : Act.Closed met P) {host : Host ω π} {op : Builtin} {scope : Scope}
    (hasRole : op.role? ≠ none) (reaches : Act.Reaches met P host op scope) :
    P (List Value) (op.act host scope) := by
  cases op with
  | fetch => exact closed.fetch reaches
  | store => exact closed.store reaches
  | remove => exact closed.remove reaches
  | _ => exact absurd rfl hasRole

/-- What the building blocks have, and sequencing keeps, all built-in ops have but the control words
and the op that sets pending parameters. -/
theorem Builtin.act_closed {met : Registry π → Prop} {P : (α : Type) → Act ω π α → Prop}
    (closed : Act.Closed met P) {host : Host ω π} {op : Builtin} {scope : Scope}
    (plain : op ∉ words) (other : op ≠ .nextParams)
    (height : op = .size → P (List Value) Act.stack) (reaches : Act.Reaches met P host op scope) :
    P (List Value) (op.act host scope) := by
  by_cases noRole : op.role? = none
  · exact act_core closed.toCore plain other noRole height
  · exact act_resource closed noRole reaches

/-- What all the building blocks have, and sequencing keeps, all built-in ops have. -/
theorem Builtin.act_moves {met : Registry π → Prop} {P : (α : Type) → Act ω π α → Prop}
    (closed : Act.Closed met P) (moves : Act.Moves P) {host : Host ω π} {op : Builtin}
    {scope : Scope} (height : op = .size → P (List Value) Act.stack)
    (sets : op = .nextParams → ∀ pending, P Unit (Act.onFrame fun frame => { frame with pending }))
    (reaches : Act.Reaches met P host op scope) : P (List Value) (op.act host scope) := by
  by_cases noRole : op.role? = none
  · exact act_coreMoves closed.toCore moves noRole height sets
  · exact act_resource closed noRole reaches

/-- What all the building blocks have but those that go back, and sequencing keeps, all built-in ops
have that do not go back. -/
theorem Builtin.act_advances {met : Registry π → Prop} {P : (α : Type) → Act ω π α → Prop}
    (closed : Act.Closed met P) (advances : Act.Advances P) {host : Host ω π} {op : Builtin}
    {scope : Scope} (ahead : op ∉ backward) (height : op = .size → P (List Value) Act.stack)
    (sets : op = .nextParams → ∀ pending, P Unit (Act.onFrame fun frame => { frame with pending }))
    (reaches : Act.Reaches met P host op scope) : P (List Value) (op.act host scope) := by
  by_cases isWord : op ∈ words
  · exact closed.toCore.onward advances isWord ahead scope
  by_cases next : op = .nextParams
  · subst next
    exact closed.toCore.nextParams (sets rfl) scope
  · exact act_closed closed isWord next height reaches

/-! ## Faults -/

/-- If the act fails, its fault is none of those. -/
def Act.Avoids {α : Type} (those : Fault → Bool) (act : Act ω π α) : Prop :=
  ∀ call fault, (act.run.run call).1 = .error fault → those fault = false

/-- A foreign handler fails with this fault. -/
inductive Plugins.Raises {γ : Type} (plugins : Plugins ω π γ) (fault : Fault) : Prop
  | op {plug : γ} {scope : Scope} {call : Call ω π} :
      ((plugins.op plug scope).run.run call).1 = .error fault → Raises plugins fault
  | get {plug : γ} {uri : String} {scope : Scope} {call : Call ω π} :
      ((plugins.get plug uri scope).run.run call).1 = .error fault → Raises plugins fault
  | put {plug : γ} {value : Value} {uri : String} {scope : Scope} {call : Call ω π} :
      ((plugins.put plug value uri scope).run.run call).1 = .error fault → Raises plugins fault
  | delete {plug : γ} {uri : String} {scope : Scope} {call : Call ω π} :
      ((plugins.delete plug uri scope).run.run call).1 = .error fault → Raises plugins fault

/-- No foreign handler fails with one of those faults. -/
structure Plugins.Avoids {γ : Type} (those : Fault → Bool) (plugins : Plugins ω π γ) : Prop where
  op : ∀ plug scope, (plugins.op plug scope).Avoids those
  get : ∀ plug uri scope, (plugins.get plug uri scope).Avoids those
  put : ∀ plug value uri scope, (plugins.put plug value uri scope).Avoids those
  delete : ∀ plug uri scope, (plugins.delete plug uri scope).Avoids those

namespace Act.Avoids

variable {α β : Type} {those : Fault → Bool}

theorem pure (a : α) : (Pure.pure a : Act ω π α).Avoids those := by
  intro call fault failed
  cases failed

theorem throw {fault : Fault} (other : those fault = false) :
    (MonadExcept.throw fault : Act ω π α).Avoids those := by
  intro call fault' failed
  cases failed
  exact other

theorem bind {act : Act ω π α} {rest : α → Act ω π β} (first : act.Avoids those)
    (second : ∀ a, (rest a).Avoids those) : (act >>= rest).Avoids those := by
  intro call fault failed
  have avoids := first call
  rw [run_bind] at failed
  cases ran : act.run.run call with
  | mk outcome left =>
    rw [ran] at failed avoids
    cases outcome with
    | ok a => exact second a left fault failed
    | error fault' =>
      cases failed
      exact avoids fault rfl

theorem look {rest : Call ω π → Act ω π α} (each : ∀ call, (rest call).Avoids those) :
    (get >>= rest : Act ω π α).Avoids those :=
  fun call => each call call

theorem change (change : Call ω π → Call ω π) : (modify change : Act ω π Unit).Avoids those := by
  intro call fault failed
  cases failed

/-- The building blocks of the built-in ops fail with none of the faults that are found when an op is
taken up. -/
theorem blocks (others : ∀ fault, fault.isPrior = false → those fault = false) :
    Blocks fun _ (act : Act ω π _) => act.Avoids those where
  pure := pure
  throw fault other := throw (others fault other)
  bind := bind
  blame _ := look fun _ => throw (others _ rfl)
  registry _ each := look fun call => each call.machine.registry
  stack := look fun _ => pure _
  setStack _ := change _
  scope reach := by
    cases reach with
    | locals => exact look fun _ => pure _
    | globals => exact look fun _ => pure _
  setScope reach _ := by
    cases reach with
    | locals => exact change _
    | globals => exact change _

theorem moves : Moves fun _ (act : Act ω π _) => act.Avoids those where
  look _ each := look each
  move _ := change _

end Act.Avoids

/-- A built-in op fails with none of the faults that are found when an op is taken up, unless a foreign
handler does. -/
theorem Builtin.act_avoids {those : Fault → Bool}
    (others : ∀ fault, fault.isPrior = false → those fault = false) {host : Host ω π}
    (avoids : host.Avoids those) (op : Builtin) (scope : Scope) :
    (op.act host scope).Avoids those :=
  act_moves (Act.Avoids.blocks others).closed Act.Avoids.moves
    (fun _ => (Act.Avoids.blocks others).stack) (fun _ _ => Act.Avoids.change _)
    { getter := fun _ _ _ plug uri rest _ => avoids.get plug uri rest
      putter := fun _ _ _ plug uri rest _ value => avoids.put plug value uri rest
      deleter := fun _ _ _ plug uri rest _ => avoids.delete plug uri rest }

end DocMachine
