import DocMachine.Proofs.Loading
import DocMachine.Proofs.Tables

/-!
# Layers of variables

A callee starts from a copy of its caller's variables. This is as good as a chain of scopes: each
activation has a layer of its own, which is linked to the layer of its caller; it writes and hides in
its own layer, and what it reads it looks for along the chain. This module shows it of single ops.

* `Layer`: the values that an activation has written, and the keys that it hides.
* `Layer.see` looks for a key along a chain of layers, and `Layer.mark` changes the innermost one.
* `LayerAct` is what a handler does on layers. `LayerAct.ofOp` gives the built-in ops their meaning.
* `Act.Blind`: an act neither looks at the local variables nor changes them.
* `LayerAct.Agrees`: on layers, an act does what another does on a copied scope.

Results:
1. `Layer.Shows.call`: a callee's chain shows what its copied scope holds.
2. `Resource.resolve_run`: how an op finds the plugin of a resource.
3. `Builtin.act_agrees`: on layers, each built-in op does what it does on a copied scope.
-/

namespace DocMachine

variable {ω π : Type} {host : Host ω π}

/-! ## Layers -/

/-- What an activation has done to variables of its own: a key has a value, or it is hidden. -/
abbrev Layer := Table String (Option Value)

namespace Layer

/-- The layer that holds these variables, and hides none. -/
def ofScope (scope : Scope) : Layer :=
  scope.map fun entry => (entry.1, some entry.2)

/-- The value that is seen under a key, from the innermost layer outwards. -/
def see : List Layer → String → Option Value
  | [], _ => none
  | own :: outer, key =>
    match own.get? key with
    | some mark => mark
    | none => see outer key

/-- Gives a key a value in the innermost layer, or hides it there. -/
def mark (key : String) (value : Option Value) : List Layer → List Layer
  | [] => []
  | own :: outer => own.insert key value :: outer

theorem get?_ofScope (scope : Scope) (key : String) :
    (ofScope scope).get? key = (scope.get? key).map some := by
  induction scope with
  | nil => rfl
  | cons entry rest ih =>
    obtain ⟨first, value⟩ := entry
    show Table.get? ((first, some value) :: ofScope rest) key = _
    simp only [Table.get?, ih]
    split <;> rfl

theorem see_ofScope (scope : Scope) (outer : List Layer) (key : String) :
    see (ofScope scope :: outer) key = (scope.get? key).or (see outer key) := by
  rw [see, get?_ofScope]
  cases scope.get? key <;> rfl

theorem see_mark (key other : String) (value : Option Value) (own : Layer) (outer : List Layer) :
    see (mark key value (own :: outer)) other =
      if key = other then value else see (own :: outer) other := by
  simp only [mark, see, Table.get?_insert]
  by_cases same : key = other
  · rw [if_pos same, if_pos same]
  · rw [if_neg same, if_neg same]

/-- The layers, of which the innermost is an activation's own, show the same as a copied scope. -/
structure Shows (outer layers : List Layer) (scope : Scope) : Prop where
  own : ∃ own, layers = own :: outer
  apart : scope.keys.Nodup
  same : ∀ key, see layers key = scope.get? key

namespace Shows

variable {outer layers : List Layer} {scope : Scope}

theorem insert (shows : Shows outer layers scope) (key : String) (value : Value) :
    Shows outer (mark key (some value) layers) (scope.insert key value) := by
  obtain ⟨⟨own, rfl⟩, apart, same⟩ := shows
  refine ⟨⟨own.insert key (some value), rfl⟩, Table.nodup_insert apart key value, fun other => ?_⟩
  rw [see_mark, Table.get?_insert, same]

theorem erase (shows : Shows outer layers scope) (key : String) :
    Shows outer (mark key none layers) (scope.erase key) := by
  obtain ⟨⟨own, rfl⟩, apart, same⟩ := shows
  refine ⟨⟨own.insert key none, rfl⟩, Table.nodup_erase apart key, fun other => ?_⟩
  rw [see_mark, Table.get?_erase apart, same]

/-- A callee's first layer, over the layers of its caller, shows what its copied scope holds. -/
theorem call (shows : Shows outer layers scope) (set bound : Scope) :
    Shows layers (ofScope ((Table.ofEntries set).extend bound) :: layers)
      ((scope.extend set).extend bound) := by
  refine ⟨⟨_, rfl⟩, Table.nodup_extend (Table.nodup_extend shows.apart set) bound, fun key => ?_⟩
  rw [see_ofScope, shows.same, Table.get?_extend, Table.get?_extend, Table.ofEntries,
    Table.get?_extend, Table.get?_extend, Option.or_assoc, Option.or_assoc]
  rfl

/-- One layer shows what it was made of. -/
theorem root {scope : Scope} (apart : scope.keys.Nodup) : Shows [] [ofScope scope] scope :=
  ⟨⟨_, rfl⟩, apart, fun key => by rw [see_ofScope]; exact Option.or_none⟩

end Shows

end Layer

/-! ## What handlers do on layers -/

/-- What a handler does on layers. The frame of the call has no variables. -/
abbrev LayerAct (ω π : Type) := ExceptT Fault (StateM (Call ω π × List Layer))

namespace LayerAct

/-- What does not work on local variables is done as ever. -/
def plain {α : Type} (act : Act ω π α) : LayerAct ω π α :=
  ExceptT.mk fun state =>
    let ran := act.run.run state.1
    (ran.1, ran.2, state.2)

/-- Reads a local variable; one that is not seen has the default value. -/
def getLocal (uri : String) (scope : Scope) : LayerAct ω π Value := do
  let default ← plain (Act.params (Param.record .null Resource.defaultField scope))
  let key ← plain (Act.ofExcept (Resource.keyOf uri))
  return (Layer.see (← get).2 key).getD default

/-- Writes a local variable, in the activation's own layer. -/
def putLocal (value : Value) (uri : String) (scope : Scope) : LayerAct ω π Unit := do
  plain (Act.noParams scope)
  let key ← plain (Act.ofExcept (Resource.keyOf uri))
  modify fun state => (state.1, Layer.mark key (some value) state.2)

/-- Hides a local variable, which has to be seen, in the activation's own layer. -/
def deleteLocal (uri : String) (scope : Scope) : LayerAct ω π Unit := do
  plain (Act.noParams scope)
  let key ← plain (Act.ofExcept (Resource.keyOf uri))
  match Layer.see (← get).2 key with
  | some _ => modify fun state => (state.1, Layer.mark key none state.2)
  | none => throw (.missingVariable .locals key)

/-- Reads what a URI names, by the plugin. -/
def getBy (host : Host ω π) : Plugin π → String → Scope → LayerAct ω π Value
  | .variables .locals => getLocal
  | plugin => fun uri scope => plain (plugin.get host uri scope)

/-- Writes to what a URI names, by the plugin. -/
def putBy (host : Host ω π) : Plugin π → Value → String → Scope → LayerAct ω π Unit
  | .variables .locals => putLocal
  | plugin => fun value uri scope => plain (plugin.put host value uri scope)

/-- Removes what a URI names, by the plugin. -/
def deleteBy (host : Host ω π) : Plugin π → String → Scope → LayerAct ω π Unit
  | .variables .locals => deleteLocal
  | plugin => fun uri scope => plain (plugin.delete host uri scope)

/-- The meaning of a built-in op on layers. -/
def ofOp (host : Host ω π) (op : Builtin) (scope : Scope) : LayerAct ω π (List Value) :=
  match op with
  | .fetch => do
    let (plugin, uri, rest) ← plain (Resource.resolve .getter scope)
    return [← getBy host plugin uri rest]
  | .store => do
    let (plugin, uri, rest) ← plain (Resource.resolve .putter scope)
    let value ← plain Act.pop
    putBy host plugin value uri rest
    return []
  | .remove => do
    let (plugin, uri, rest) ← plain (Resource.resolve .deleter scope)
    deleteBy host plugin uri rest
    return []
  | op => plain (op.act host scope)

end LayerAct

/-! ## Blind acts -/

/-- The call from a frame with these variables. -/
def Call.withLocals (call : Call ω π) (locals : Scope) : Call ω π :=
  { call with frame := { call.frame with locals } }

/-- The act neither looks at the local variables nor changes them. -/
def Act.Blind {α : Type} (act : Act ω π α) : Prop :=
  ∀ call locals, act.run.run (call.withLocals locals) =
    ((act.run.run call).1, (act.run.run call).2.withLocals locals)

namespace Act.Blind

variable {α β : Type}

theorem bind {act : Act ω π α} {rest : α → Act ω π β} (first : act.Blind)
    (second : ∀ a, (rest a).Blind) : (act >>= rest).Blind := by
  intro call locals
  rw [run_bind, run_bind, first call locals]
  cases act.run.run call with
  | mk outcome left =>
    cases outcome with
    | ok a => exact second a left locals
    | error fault => rfl

theorem blocks : StackBlocks fun _ (act : Act ω π _) => act.Blind where
  pure _ _ _ := rfl
  throw _ _ _ _ := rfl
  bind := bind
  blame _ _ _ := rfl
  registry _ each call locals := each call.machine.registry call locals
  stack _ _ := rfl
  setStack _ _ _ := rfl

theorem moves : Moves fun _ (act : Act ω π _) => act.Blind where
  look {_ rest} same each call locals := by
    show (rest (call.withLocals locals)).run.run (call.withLocals locals) = _
    rw [same (call.withLocals locals) call rfl]
    exact each call call locals
  move _ _ _ := rfl

/-- A blind act leaves the local variables as they are. -/
theorem locals {act : Act ω π α} (blind : act.Blind) (call : Call ω π) :
    (act.run.run call).2.frame.locals = call.frame.locals := by
  have same := congrArg (fun ran => ran.2.frame.locals) (blind call call.frame.locals)
  exact same

theorem globalScope : (Act.scope .globals : Act ω π Scope).Blind := fun _ _ => rfl

theorem setGlobalScope (scope : Scope) : (Act.setScope .globals scope : Act ω π Unit).Blind :=
  fun _ _ => rfl

end Act.Blind

/-! ## Requests -/

namespace Resource

/-- What a request of the given role, with these parameters of an op, finds in a registry. -/
def target (registry : Registry π) (role : Role) (scope : Scope) (op : String) :
    Except Fault (Plugin π × String × Scope) := do
  let request ← (Param.record {} Request.field scope).mapError (.invalidParams op)
  let uri ← (Param.required "uri" request.uri).mapError (.invalidParams op)
  let url ← parseUri uri
  let plugin ← registry.plugin role url.scheme request.media
  return (plugin, uri, request.rest)

/-- An op finds what its request finds in the registry, and changes nothing on the way. -/
theorem resolve_run (role : Role) (scope : Scope) (call : Call ω π) :
    (resolve role scope).run.run call = (target call.machine.registry role scope call.op, call) := by
  unfold resolve target
  cases Param.record {} Request.field scope with
  | error fault => rfl
  | ok request =>
    show (Act.params (Param.required "uri" request.uri) >>= _).run.run call =
      ((Param.required "uri" request.uri).mapError (.invalidParams call.op) >>= _, call)
    cases Param.required "uri" request.uri with
    | error fault => rfl
    | ok uri =>
      show (Act.ofExcept (parseUri uri) >>= _).run.run call = (parseUri uri >>= _, call)
      cases parseUri uri with
      | error fault => rfl
      | ok url =>
        show (Act.ofExcept (call.machine.registry.plugin role url.scheme request.media) >>= _).run.run
          call = (call.machine.registry.plugin role url.scheme request.media >>= _, call)
        cases call.machine.registry.plugin role url.scheme request.media <;> rfl

theorem target_finds {registry : Registry π} {role : Role} {scope rest : Scope} {op uri : String}
    {plugin : Plugin π} (found : target registry role scope op = .ok (plugin, uri, rest)) :
    Finds registry role scope plugin uri rest := by
  unfold target at found
  cases read : Param.record {} Request.field scope with
  | error fault =>
    rw [read] at found
    cases found
  | ok request =>
    rw [read] at found
    replace found : (do
      let uri ← (Param.required "uri" request.uri).mapError (Fault.invalidParams op)
      let url ← parseUri uri
      let plugin ← registry.plugin role url.scheme request.media
      return (plugin, uri, request.rest)) = .ok (plugin, uri, rest) := found
    cases named : request.uri with
    | none =>
      rw [named] at found
      cases found
    | some uri' =>
      rw [named] at found
      replace found : (do
        let url ← parseUri uri'
        let plugin ← registry.plugin role url.scheme request.media
        return (plugin, uri', request.rest)) = .ok (plugin, uri, rest) := found
      cases parsed : parseUri uri' with
      | error fault =>
        rw [parsed] at found
        cases found
      | ok url =>
        rw [parsed] at found
        replace found : (do
          let plugin ← registry.plugin role url.scheme request.media
          return (plugin, uri', request.rest)) = .ok (plugin, uri, rest) := found
        cases served : registry.plugin role url.scheme request.media with
        | error fault =>
          rw [served] at found
          cases found
        | ok plugin' =>
          rw [served] at found
          cases found
          exact ⟨request, url, read, named, rfl, parsed, served⟩

theorem resolve_blind (role : Role) (scope : Scope) :
    (resolve role scope : Act ω π _).Blind := by
  intro call locals
  rw [resolve_run, resolve_run]
  rfl

end Resource

/-! ## Ops -/

theorem Act.removeVariable_run (key : String) (call : Call ω π) :
    (removeVariable .locals key : Act ω π Value).run.run call =
      match call.frame.locals.get? key with
      | some value => (.ok value, call.withLocals (call.frame.locals.erase key))
      | none => (.error (.missingVariable .locals key), call) := by
  unfold removeVariable readVariable
  rw [run_bind, run_bind,
    show (scope .locals : Act ω π Scope).run.run call = (.ok call.frame.locals, call) from rfl]
  simp only
  cases call.frame.locals.get? key <;> rfl

namespace LayerAct

/-- On layers, the one act does from a call on what the other does on a copied scope. -/
def Agrees {α : Type} (linked : LayerAct ω π α) (act : Act ω π α) (call : Call ω π) : Prop :=
  ∀ outer layers, Layer.Shows outer layers call.frame.locals →
    ∃ layers', linked.run.run (call.withLocals [], layers) =
        ((act.run.run call).1, (act.run.run call).2.withLocals [], layers') ∧
      Layer.Shows outer layers' (act.run.run call).2.frame.locals

namespace Agrees

variable {α β : Type} {call : Call ω π}

theorem plain {act : Act ω π α} (blind : act.Blind) : (LayerAct.plain act).Agrees act call := by
  intro outer layers shows
  refine ⟨layers, ?_, by rwa [blind.locals]⟩
  show ((act.run.run (call.withLocals [])).1, (act.run.run (call.withLocals [])).2, layers) = _
  rw [blind call []]

theorem bind {linked : LayerAct ω π α} {act : Act ω π α} {rest : α → LayerAct ω π β}
    {rest' : α → Act ω π β} (first : linked.Agrees act call)
    (second : ∀ a left, act.run.run call = (.ok a, left) → (rest a).Agrees (rest' a) left) :
    (linked >>= rest).Agrees (act >>= rest') call := by
  intro outer layers shows
  obtain ⟨layers', same, shows'⟩ := first outer layers shows
  rw [run_bind, run_bind, same]
  cases ran : act.run.run call with
  | mk outcome left =>
    rw [ran] at shows'
    cases outcome with
    | error fault => exact ⟨layers', rfl, shows'⟩
    | ok a => exact second a left ran outer layers' shows'

theorem pure (a : α) : (Pure.pure a : LayerAct ω π α).Agrees (Pure.pure a) call :=
  fun _ layers shows => ⟨layers, rfl, shows⟩

theorem key (uri : String) :
    (LayerAct.plain (Act.ofExcept (Resource.keyOf uri))).Agrees (Act.ofExcept (Resource.keyOf uri))
      call :=
  plain (Act.Blind.blocks.core.ofExcept (Resource.keyOf_late uri))

/-- A read looks along the chain. -/
theorem getLocal (uri : String) (scope : Scope) :
    (LayerAct.getLocal uri scope).Agrees (Resource.getVariable .locals uri scope) call := by
  refine bind (plain (Act.Blind.blocks.core.params _)) fun default _ _ => ?_
  refine bind (key uri) fun key _ _ => ?_
  intro outer layers shows
  refine ⟨layers, ?_, shows⟩
  show (Except.ok ((Layer.see layers key).getD default), _) = _
  rw [shows.same]
  rfl

/-- A write goes to the own layer. -/
theorem putLocal (value : Value) (uri : String) (scope : Scope) :
    (LayerAct.putLocal value uri scope).Agrees (Resource.putVariable .locals value uri scope)
      call := by
  refine bind (plain (Act.Blind.blocks.core.noParams _)) fun _ _ _ => ?_
  refine bind (key uri) fun key _ _ => ?_
  exact fun outer layers shows => ⟨_, rfl, shows.insert key value⟩

/-- What is removed is hidden in the own layer. -/
theorem deleteLocal (uri : String) (scope : Scope) :
    (LayerAct.deleteLocal uri scope).Agrees (Resource.deleteVariable .locals uri scope) call := by
  refine bind (plain (Act.Blind.blocks.core.noParams _)) fun _ _ _ => ?_
  refine bind (key uri) fun key left _ => ?_
  intro outer layers shows
  rw [run_bind (Act.removeVariable .locals key), Act.removeVariable_run]
  show ∃ layers', (match Layer.see layers key with
      | some _ => (modify fun state => (state.1, Layer.mark key none state.2) : LayerAct ω π Unit)
      | none => throw (Fault.missingVariable .locals key)).run.run (left.withLocals [], layers) = _ ∧ _
  rw [shows.same]
  cases left.frame.locals.get? key with
  | none => exact ⟨layers, rfl, shows⟩
  | some value => exact ⟨_, rfl, shows.erase key⟩

section

variable {plugin : Plugin π} {uri : String} {rest : Scope}

theorem getBy (foreign : ∀ plug, plugin = .foreign plug → (host.get plug uri rest).Blind) :
    (LayerAct.getBy host plugin uri rest).Agrees (plugin.get host uri rest) call := by
  rcases plugin with ⟨_ | _⟩ | plug
  · exact getLocal uri rest
  · exact plain (Act.Blind.blocks.core.getVariable Act.Blind.globalScope uri rest)
  · exact plain (foreign plug rfl)

theorem putBy {value : Value}
    (foreign : ∀ plug, plugin = .foreign plug → (host.put plug value uri rest).Blind) :
    (LayerAct.putBy host plugin value uri rest).Agrees (plugin.put host value uri rest) call := by
  rcases plugin with ⟨_ | _⟩ | plug
  · exact putLocal value uri rest
  · exact plain (Act.Blind.blocks.core.putVariable Act.Blind.globalScope Act.Blind.setGlobalScope
      value uri rest)
  · exact plain (foreign plug rfl)

theorem deleteBy (foreign : ∀ plug, plugin = .foreign plug → (host.delete plug uri rest).Blind) :
    (LayerAct.deleteBy host plugin uri rest).Agrees (plugin.delete host uri rest) call := by
  rcases plugin with ⟨_ | _⟩ | plug
  · exact deleteLocal uri rest
  · exact plain (Act.Blind.blocks.core.deleteVariable Act.Blind.globalScope
      Act.Blind.setGlobalScope uri rest)
  · exact plain (foreign plug rfl)

end

/-- An op that works on resources finds the same plugin on layers. -/
theorem resolve {β : Type} {role : Role} {scope : Scope}
    {rest : Plugin π × String × Scope → LayerAct ω π β}
    {rest' : Plugin π × String × Scope → Act ω π β}
    (each : ∀ plugin uri params,
      Resource.Finds call.machine.registry role scope plugin uri params →
        (rest (plugin, uri, params)).Agrees (rest' (plugin, uri, params)) call) :
    (LayerAct.plain (Resource.resolve role scope) >>= rest).Agrees
      (Resource.resolve role scope >>= rest') call := by
  refine bind (plain (Resource.resolve_blind role scope)) fun found left ran => ?_
  rw [Resource.resolve_run] at ran
  obtain ⟨found', rfl⟩ := Prod.mk.inj ran
  exact each found.1 found.2.1 found.2.2 (Resource.target_finds found')

end Agrees

end LayerAct

/-- The foreign plugins that an op reaches with these parameters neither look at the local variables
nor change them. -/
def Builtin.IsBlind (host : Host ω π) (registry : Registry π) (op : Builtin) (scope : Scope) :
    Prop :=
  Act.Reaches (· = registry) (fun _ (act : Act ω π _) => act.Blind) host op scope

/-- On layers, each built-in op does what it does on a copied scope. -/
theorem Builtin.act_agrees {op : Builtin} {scope : Scope} {call : Call ω π}
    (blind : op.IsBlind host call.machine.registry scope) :
    (LayerAct.ofOp host op scope).Agrees (op.act host scope) call := by
  have plain : op.role? = none → (LayerAct.plain (op.act host scope)).Agrees (op.act host scope) call :=
    fun noRole => .plain (act_coreMoves Act.Blind.blocks.core Act.Blind.moves noRole
      (fun _ => Act.Blind.blocks.stack) fun _ _ _ _ => rfl)
  cases op with
  | fetch =>
    refine .resolve fun plugin uri rest finds => ?_
    refine .bind (.getBy fun plug isForeign => ?_) fun value _ _ => .pure _
    subst isForeign
    exact blind.getter rfl _ rfl plug uri rest finds
  | store =>
    refine .resolve fun plugin uri rest finds => ?_
    refine .bind (.plain Act.Blind.blocks.pop) fun value _ _ => ?_
    refine .bind (.putBy fun plug isForeign => ?_) fun _ _ _ => .pure _
    subst isForeign
    exact blind.putter rfl _ rfl plug uri rest finds value
  | remove =>
    refine .resolve fun plugin uri rest finds => ?_
    refine .bind (.deleteBy fun plug isForeign => ?_) fun _ _ _ => .pure _
    subst isForeign
    exact blind.deleter rfl _ rfl plug uri rest finds
  | _ => exact plain rfl

end DocMachine
