import DocMachine.Proofs.Native
import DocMachine.Proofs.Rearranged

/-!
# Ops on rearranged states

Two runs of rearranged documents go through states that differ in the order of variables, in the run
lists, and in the procedures that names stand for. A built-in op that is given shuffled parameters does
the same in both, or fails in both.

* `Call.Rearranged`: the states of two such runs, with `Registry.Rearranged`, `Machine.Rearranged` and
  `Frame.Rearranged` for their parts.
* `Act.Matches`: in rearranged calls both acts fail, or they come to related answers and leave rearranged
  calls.

Results:
1. `Act.Matches.bind`: matching acts may be done one after the other.
2. `Shuffle.DupParams.field_commutes` and the lemmas after it: the ops read their parameters in any order.
3. `Builtin.act_matches`: every built-in op matches itself, under shuffled parameters.
-/

namespace DocMachine

variable {ω π : Type}

/-! ## States -/

/-- Activations of rearranged run lists, at the same place, that hold the same variables. -/
structure Frame.Rearranged (frame frame' : Frame) : Prop where
  depth : frame.depth = frame'.depth
  locals : Table.Alike frame.locals frame'.locals
  ops : List.Forall₂ Op.Rearranged frame.ops frame'.ops
  pc : frame.pc = frame'.pc
  begins : frame.begins = frame'.begins
  pending : frame.pending = frame'.pending

/-- Handlers that are the same built-in op, or rearranged procedures. -/
inductive Handler.Rearranged : Handler π → Handler π → Prop
  | builtin (op : Builtin) : Rearranged (.builtin op) (.builtin op)
  | procedure {procedure procedure' : Procedure} : procedure.Rearranged procedure' →
      Rearranged (.procedure procedure) (.procedure procedure')

/-- Registries with nothing foreign among ops and plugins, that give every name rearranged meanings. -/
structure Registry.Rearranged (registry registry' : Registry π) : Prop where
  handlers : ∀ name, Concurs Handler.Rearranged (registry.op name) (registry'.op name)
  plugins : ∀ role, registry.plugins role = registry'.plugins role
  copiers : registry.copiers = registry'.copiers
  only : registry.OnlyVariables

/-- Machines that hold the same values and variables, and have rearranged registries. -/
structure Machine.Rearranged (machine machine' : Machine ω π) : Prop where
  stack : machine.stack = machine'.stack
  globals : Table.Alike machine.globals machine'.globals
  registry : machine.registry.Rearranged machine'.registry
  maxDepth : machine.maxDepth = machine'.maxDepth

/-- Calls from rearranged activations, on rearranged machines. -/
structure Call.Rearranged (call call' : Call ω π) : Prop where
  machine : call.machine.Rearranged call'.machine
  frame : call.frame.Rearranged call'.frame

theorem Registry.Rearranged.refl {registry : Registry π}
    (noForeign : ∀ name plug, registry.op name ≠ .ok (.foreign plug)) (only : registry.OnlyVariables) :
    registry.Rearranged registry where
  handlers name := by
    cases found : registry.op name with
    | error fault => exact .error
    | ok handler =>
      cases handler with
      | builtin op => exact .ok (.builtin op)
      | foreign plug => exact absurd found (noForeign name plug)
      | procedure procedure => exact .ok (.procedure (.refl procedure))
  plugins _ := rfl
  copiers := rfl
  only := only

theorem Registry.Rearranged.plugin_eq {registry registry' : Registry π}
    (rearranged : registry.Rearranged registry') (role : Role) (scheme : String)
    (media : Option String) :
    registry.plugin role scheme media = registry'.plugin role scheme media := by
  unfold Registry.plugin
  rw [rearranged.plugins role]

theorem Registry.Rearranged.only' {registry registry' : Registry π}
    (rearranged : registry.Rearranged registry') : registry'.OnlyVariables := by
  intro role scheme media plugin served
  rw [← rearranged.plugin_eq] at served
  exact rearranged.only role scheme media plugin served

/-- Registries stay rearranged when rearranged procedures are registered. -/
theorem Registry.Rearranged.withProcedure {registry registry' : Registry π}
    (rearranged : registry.Rearranged registry') (name : String) {procedure procedure' : Procedure}
    (alike : procedure.Rearranged procedure') :
    (registry.withProcedure name procedure).Rearranged (registry'.withProcedure name procedure') where
  handlers other := by
    rw [op_withProcedure, op_withProcedure]
    split
    · exact .ok (.procedure alike)
    · exact rearranged.handlers other
  plugins role := by
    cases role with
    | getter => exact rearranged.plugins .getter
    | putter => exact rearranged.plugins .putter
    | deleter => exact rearranged.plugins .deleter
  copiers := rearranged.copiers
  only := rearranged.only

namespace Machine.Rearranged

variable {machine machine' : Machine ω π} (rearranged : machine.Rearranged machine')

include rearranged

theorem setStack (values : List Value) :
    { machine with stack := values }.Rearranged { machine' with stack := values } :=
  { rearranged with stack := rfl }

theorem pushAll (values : List Value) :
    (machine.pushAll values).Rearranged (machine'.pushAll values) := by
  unfold Machine.pushAll
  rw [rearranged.stack]
  exact rearranged.setStack _

/-- What is recorded makes no difference. -/
theorem emit (event event' : Event) : (machine.emit event).Rearranged (machine'.emit event') where
  stack := by simpa using rearranged.stack
  globals := by simpa using rearranged.globals
  registry := by simpa using rearranged.registry
  maxDepth := by simpa using rearranged.maxDepth

/-- What is reported makes no difference. -/
theorem traceStep (frame frame' : Frame) (op op' : String) :
    (machine.traceStep frame op).Rearranged (machine'.traceStep frame' op') where
  stack := by simpa using rearranged.stack
  globals := by simpa using rearranged.globals
  registry := by simpa using rearranged.registry
  maxDepth := by simpa using rearranged.maxDepth

end Machine.Rearranged

/-! ## Matching acts -/

/-- What an act comes to: its answer and the call that it leaves, or a fault. -/
def Act.result {α : Type} (act : Act ω π α) (call : Call ω π) : Except Fault (α × Call ω π) :=
  match act.run.run call with
  | (.ok a, left) => .ok (a, left)
  | (.error fault, _) => .error fault

theorem Act.result_bind {α β : Type} (act : Act ω π α) (rest : α → Act ω π β) (call : Call ω π) :
    (act >>= rest).result call = act.result call >>= fun done => (rest done.1).result done.2 := by
  unfold result
  rw [run_bind]
  cases act.run.run call with
  | mk outcome left => cases outcome <;> rfl

/-- In rearranged calls both acts fail, or they come to related answers and leave rearranged calls. -/
def Act.Matches {α β : Type} (R : α → β → Prop) (act : Act ω π α) (act' : Act ω π β) : Prop :=
  ∀ call call', call.Rearranged call' →
    Concurs (fun one other => R one.1 other.1 ∧ one.2.Rearranged other.2) (act.result call)
      (act'.result call')

namespace Act.Matches

variable {α β γ δ : Type} {R : α → β → Prop} {S : γ → δ → Prop}

/-- Either neither act succeeds, or both do. -/
theorem outcomes {act : Act ω π α} {act' : Act ω π β} (matching : act.Matches R act')
    {call call' : Call ω π} (calls : call.Rearranged call') :
    (∃ fault fault' left left', act.run.run call = (.error fault, left) ∧
      act'.run.run call' = (.error fault', left')) ∨
    ∃ a b left left', act.run.run call = (.ok a, left) ∧ act'.run.run call' = (.ok b, left') ∧
      R a b ∧ left.Rearranged left' := by
  have done := matching call call' calls
  unfold result at done
  rcases ran : act.run.run call with ⟨fault | a, left⟩ <;>
    rcases ran' : act'.run.run call' with ⟨fault' | b, left'⟩ <;>
    rw [ran, ran'] at done
  · exact .inl ⟨_, _, _, _, rfl, rfl⟩
  · cases done
  · cases done
  · cases done with
    | ok related => exact .inr ⟨_, _, _, _, rfl, rfl, related⟩

theorem pure {a : α} {b : β} (related : R a b) :
    Matches R (Pure.pure a : Act ω π α) (Pure.pure b) :=
  fun _ _ rearranged => .ok ⟨related, rearranged⟩

theorem throw {fault fault' : Fault} :
    Matches R (MonadExcept.throw fault : Act ω π α) (MonadExcept.throw fault') :=
  fun _ _ _ => .error

theorem bind {act : Act ω π α} {act' : Act ω π β} {rest : α → Act ω π γ} {rest' : β → Act ω π δ}
    (first : act.Matches R act') (second : ∀ a b, R a b → (rest a).Matches S (rest' b)) :
    (act >>= rest).Matches S (act' >>= rest') := by
  intro call call' rearranged
  rw [result_bind, result_bind]
  exact .bind (first call call' rearranged) fun one other done => second _ _ done.1 _ _ done.2

/-- Where the answers are the same, what comes next has to match for one answer only. -/
theorem next {act act' : Act ω π α} {rest : α → Act ω π γ} {rest' : α → Act ω π δ}
    (first : act.Matches Eq act') (second : ∀ a, (rest a).Matches S (rest' a)) :
    (act >>= rest).Matches S (act' >>= rest') :=
  bind first fun a _ same => same ▸ second a

theorem look {rest : Call ω π → Act ω π α} {rest' : Call ω π → Act ω π β}
    (each : ∀ call call', call.Rearranged call' → (rest call).Matches R (rest' call')) :
    (get >>= rest).Matches R (get >>= rest') :=
  fun call call' rearranged => each call call' rearranged call call' rearranged

theorem change {change change' : Call ω π → Call ω π}
    (each : ∀ call call', call.Rearranged call' → (change call).Rearranged (change' call')) :
    Matches Eq (modify change : Act ω π Unit) (modify change') :=
  fun call call' rearranged => .ok ⟨rfl, each call call' rearranged⟩

theorem ofExcept {result : Except Fault α} {result' : Except Fault β} (concurs : Concurs R result result') :
    Matches R (Act.ofExcept result : Act ω π α) (Act.ofExcept result') := by
  cases concurs with
  | ok related => exact pure related
  | error => exact throw

theorem blame {fault fault' : ParamFault} :
    Matches R (Act.blame fault : Act ω π α) (Act.blame fault') :=
  look fun _ _ _ => throw

theorem params {read : Param.Read α} {read' : Param.Read β} (concurs : Concurs R read read') :
    Matches R (Act.params read : Act ω π α) (Act.params read') := by
  cases concurs with
  | ok related => exact pure related
  | error => exact blame

theorem noParams {scope scope' : Scope} (shuffled : scope.Shuffled scope') :
    Matches Eq (Act.noParams scope : Act ω π Unit) (Act.noParams scope') := by
  cases scope with
  | nil =>
    rw [shuffled.nil_iff.mp rfl]
    exact pure rfl
  | cons entry rest =>
    cases scope' with
    | nil => cases shuffled.nil_iff.mpr rfl
    | cons entry' rest' => exact blame

/-! ## The stack -/

theorem stack : Matches Eq (Act.stack : Act ω π (List Value)) Act.stack :=
  look fun _ _ rearranged => pure rearranged.machine.stack

theorem setStack (values : List Value) :
    Matches Eq (Act.setStack values : Act ω π Unit) (Act.setStack values) :=
  change fun _ _ rearranged => { rearranged with machine := rearranged.machine.setStack values }

theorem pop : Matches Eq (Act.pop : Act ω π Value) Act.pop := by
  refine next stack fun values => ?_
  cases values with
  | nil => exact throw
  | cons top rest => exact next (setStack rest) fun _ => pure rfl

/-- What comes after a check. -/
theorem check {passes : Prop} [Decidable passes] {fault : Fault} {rest rest' : Act ω π α}
    (second : Matches Eq rest rest') :
    Matches Eq (if passes then MonadExcept.throw fault >>= fun (_ : PUnit) => rest else rest)
      (if passes then MonadExcept.throw fault >>= fun (_ : PUnit) => rest' else rest') := by
  split
  · exact bind (R := Eq) throw fun _ _ _ => second
  · exact second

theorem popMany (n : Nat) : Matches Eq (Act.popMany n : Act ω π (List Value)) (Act.popMany n) :=
  next stack fun _ => check (next (setStack _) fun _ => pure rfl)

theorem popPair : Matches Eq (Act.popPair : Act ω π (Value × Value)) Act.popPair := by
  refine next stack fun values => ?_
  match values with
  | [] => exact throw
  | [_] => exact throw
  | y :: x :: rest => exact next (setStack rest) fun _ => pure rfl

theorem peek (offset : Nat) : Matches Eq (Act.peek offset : Act ω π Value) (Act.peek offset) := by
  refine check (next stack fun values => ?_)
  cases values[offset]? with
  | none => exact throw
  | some value => exact pure rfl

/-! ## Variables -/

theorem scope (reach : Reach) : Matches Table.Alike (Act.scope reach : Act ω π Scope) (Act.scope reach) := by
  cases reach with
  | locals => exact look fun _ _ rearranged => pure rearranged.frame.locals
  | globals => exact look fun _ _ rearranged => pure rearranged.machine.globals

theorem setScope (reach : Reach) {held held' : Scope} (alike : Table.Alike held held') :
    Matches Eq (Act.setScope reach held : Act ω π Unit) (Act.setScope reach held') := by
  cases reach with
  | locals =>
    exact change fun _ _ rearranged =>
      { rearranged with frame := { rearranged.frame with locals := alike } }
  | globals =>
    exact change fun _ _ rearranged =>
      { rearranged with machine := { rearranged.machine with globals := alike } }

theorem readVariable (reach : Reach) (key : String) :
    Matches Eq (Act.readVariable reach key : Act ω π Value) (Act.readVariable reach key) := by
  refine bind (scope reach) fun held held' alike => ?_
  rw [alike.same key]
  cases held'.get? key with
  | none => exact throw
  | some value => exact pure rfl

theorem writeVariable (reach : Reach) (key : String) (value : Value) :
    Matches Eq (Act.writeVariable reach key value : Act ω π Unit) (Act.writeVariable reach key value) :=
  bind (scope reach) fun _ _ alike => setScope reach (alike.insert key value)

theorem removeVariable (reach : Reach) (key : String) :
    Matches Eq (Act.removeVariable reach key : Act ω π Value) (Act.removeVariable reach key) :=
  next (readVariable reach key) fun _ => bind (scope reach) fun _ _ alike =>
    next (setScope reach (alike.erase key)) fun _ => pure rfl

end Act.Matches

/-! ## Parameters -/

/-- The fields may be read in any order if those may that are known, and all others are refused. -/
theorem Param.commutes_known {α : Type} {field : α → String → Value → Read α} (known : List String)
    (refuses : ∀ key, key ∉ known → ∀ a v, field a key v = .error (.unknown key known))
    (pairs : known.Pairwise (CommutesAt field)) : Commutes field :=
  commutes_of (fun key fresh => .inl fun a v => ⟨_, refuses key fresh a v⟩) pairs

namespace Shuffle

theorem DupParams.field_commutes : Param.Commutes field := by
  refine Param.commutes_known ["deep", "offset"] (fun key fresh params v => ?_) ?_
  · unfold field
    split
    · exact absurd (by simp) fresh
    · exact absurd (by simp) fresh
    · rfl
  · refine List.pairwise_pair.mpr fun params v v' => ?_
    simp only [field]
    cases Param.boolean v <;> cases Param.count v' <;> constructor
    rfl

theorem orderField_commutes : Param.Commutes orderField := by
  refine Param.commutes_known ["order"] (fun key fresh order v => ?_) (List.pairwise_singleton _ _)
  unfold orderField
  split
  · exact absurd (by simp) fresh
  · rfl

theorem PackParams.field_commutes : Param.Commutes field := by
  refine Param.commutes_known ["n", "forward", "keys"] (fun key fresh params v => ?_) ?_
  · unfold field
    split
    · exact absurd (by simp) fresh
    · exact absurd (by simp) fresh
    · exact absurd (by simp) fresh
    · rfl
  · have forward : Param.CommutesAt field "n" "forward" := by
      intro params v v'
      simp only [field]
      cases Param.count v <;> cases Param.boolean v' <;> constructor
      rfl
    have keys : Param.CommutesAt field "n" "keys" := by
      intro params v v'
      simp only [field]
      cases Param.count v <;> cases keyList v' <;> constructor
      rfl
    have both : Param.CommutesAt field "forward" "keys" := by
      intro params v v'
      simp only [field]
      cases Param.boolean v <;> cases keyList v' <;> constructor
      rfl
    simp [forward, keys, both]

theorem unpackField_commutes : Param.Commutes unpackField := by
  refine Param.commutes_known ["keys"] (fun key fresh keys v => ?_) (List.pairwise_singleton _ _)
  unfold unpackField
  split
  · exact absurd (by simp) fresh
  · rfl

end Shuffle

theorem Assertion.Params.field_commutes : Param.Commutes field := by
  refine Param.commutes_known ["error", "negate"] (fun key fresh params v => ?_) ?_
  · unfold field
    split
    · exact absurd (by simp) fresh
    · exact absurd (by simp) fresh
    · rfl
  · refine List.pairwise_pair.mpr fun params v v' => ?_
    simp only [field]
    cases Param.optional Param.string v <;> cases Param.boolean v' <;> constructor
    rfl

namespace Resource

theorem defaultField_commutes : Param.Commutes defaultField := by
  refine Param.commutes_known ["default"] (fun key fresh default v => ?_) (List.pairwise_singleton _ _)
  unfold defaultField
  split
  · exact absurd (by simp) fresh
  · rfl

/-- Reads the URI and the media type of a request, and passes over what is handed on. -/
def addressField (address : Option String × Option String) (key : String) (v : Value) :
    Param.Read (Option String × Option String) :=
  match key with
  | "uri" => do return (some (← Param.string v), address.2)
  | "mediaType" => do return (address.1, ← Param.optional Param.string v)
  | _ => .ok address

theorem addressField_commutes : Param.Commutes addressField := by
  refine @Param.commutes_of _ _ ["uri", "mediaType"] (fun key fresh => .inr fun address v => ?_) ?_
  · unfold addressField
    split
    · exact absurd (by simp) fresh
    · exact absurd (by simp) fresh
    · rfl
  · refine List.pairwise_pair.mpr fun address v v' => ?_
    simp only [addressField]
    cases Param.string v <;> cases Param.optional Param.string v' <;> constructor
    rfl

/-- Whether a parameter of a request is handed on to the plugin. -/
def isHandedOn (key : String) : Bool := key != "uri" && key != "mediaType"

theorem Request.field_eq (request : Request) (key : String) (v : Value) :
    request.field key v = do
      let address ← addressField (request.uri, request.media) key v
      return ⟨address.1, address.2,
        request.rest ++ [(key, v)].filter fun entry => isHandedOn entry.1⟩ := by
  unfold field addressField
  split
  · cases Param.string v with
    | error fault => rfl
    | ok uri => simp [isHandedOn]
  · cases Param.optional Param.string v with
    | error fault => rfl
    | ok media => simp [isHandedOn]
  · next noUri noMedia =>
    have handed : isHandedOn key = true := by simpa [isHandedOn] using ⟨noUri, noMedia⟩
    simp [handed]

/-- A request is read by its address, and hands on the rest. -/
theorem record_request (scope : Scope) (request : Request) :
    Param.record request Request.field scope = do
      let address ← Param.record (request.uri, request.media) addressField scope
      return ⟨address.1, address.2, request.rest ++ scope.filter fun entry => isHandedOn entry.1⟩ := by
  induction scope generalizing request with
  | nil =>
    show Except.ok request = .ok ⟨request.uri, request.media, request.rest ++ []⟩
    rw [List.append_nil]
  | cons entry rest ih =>
    obtain ⟨key, v⟩ := entry
    have reads : Param.record request Request.field ((key, v) :: rest) =
        request.field key v >>= fun request => Param.record request Request.field rest := rfl
    have addresses : Param.record (request.uri, request.media) addressField ((key, v) :: rest) =
        addressField (request.uri, request.media) key v >>= fun address =>
          Param.record address addressField rest := rfl
    have handed : ((key, v) :: rest).filter (fun entry => isHandedOn entry.1) =
        [(key, v)].filter (fun entry => isHandedOn entry.1) ++
          rest.filter fun entry => isHandedOn entry.1 := List.filter_append [(key, v)] rest
    rw [reads, addresses, handed, Request.field_eq, ← List.append_assoc]
    cases addressField (request.uri, request.media) key v with
    | error fault => rfl
    | ok address => exact ih ⟨address.1, address.2, _⟩

/-- Requests for the same address that hand on shuffled parameters. -/
structure Request.Alike (request request' : Request) : Prop where
  uri : request.uri = request'.uri
  media : request.media = request'.media
  rest : request.rest.Shuffled request'.rest

theorem request_alike {scope scope' : Scope} (shuffled : scope.Shuffled scope') :
    Concurs Request.Alike (Param.record {} Request.field scope)
      (Param.record {} Request.field scope') := by
  rw [record_request, record_request]
  refine .bind (shuffled.record addressField_commutes _) fun address address' same => ?_
  subst same
  exact .ok ⟨rfl, rfl, shuffled.filter isHandedOn⟩

end Resource

/-! ## Ops -/

/-- What a format string is filled with depends on what the named parameters hold. -/
theorem Format.Template.render_congr {named named' : Scope}
    (same : ∀ name, named.get? name = named'.get? name) (template : Template) (args : List Value) :
    template.render args named = template.render args named' := by
  have argument_congr : ∀ numbering arg,
      argument args named numbering arg = argument args named' numbering arg := by
    intro numbering arg
    cases arg <;> simp only [argument, same]
  have from_congr : ∀ numbering,
      renderFrom args named numbering template = renderFrom args named' numbering template := by
    intro numbering
    induction template generalizing numbering with
    | nil => rfl
    | cons part rest ih =>
      cases part with
      | text c => simp only [renderFrom, ih]
      | field field => simp only [renderFrom, argument_congr, ih]
  exact from_congr .unset

namespace Act.Matches

variable {scope scope' : Scope} (shuffled : scope.Shuffled scope')

include shuffled

theorem unary (f : Value → Except Fault Value) :
    Matches Eq (Builtin.unary f scope : Act ω π _) (Builtin.unary f scope') :=
  next (noParams shuffled) fun _ => next pop fun _ => next (ofExcept (.same _)) fun _ => pure rfl

theorem binary (f : Value → Value → Except Fault Value) :
    Matches Eq (Builtin.binary f scope : Act ω π _) (Builtin.binary f scope') :=
  next (noParams shuffled) fun _ => next popPair fun _ => next (ofExcept (.same _)) fun _ => pure rfl

theorem predicate (f : Value → Value → Bool) :
    Matches Eq (Builtin.predicate f scope : Act ω π _) (Builtin.predicate f scope') :=
  binary shuffled _

theorem ordered (f : Ordering → Bool) :
    Matches Eq (Builtin.ordered f scope : Act ω π _) (Builtin.ordered f scope') :=
  binary shuffled _

theorem dup (host : Host ω π) :
    Matches Eq (Shuffle.dup host scope) (Shuffle.dup host scope') := by
  refine next (params (shuffled.record Shuffle.DupParams.field_commutes _)) fun params => ?_
  refine next (peek params.offset) fun value => look fun call call' rearranged => pure ?_
  unfold Shuffle.copied
  rw [rearranged.machine.registry.copiers]

theorem swap : Matches Eq (Shuffle.swap scope : Act ω π _) (Shuffle.swap scope') := by
  refine next (params (shuffled.record Shuffle.orderField_commutes _)) fun order => ?_
  cases order.find? fun offset => decide (order.length ≤ offset) with
  | some offset => exact blame
  | none => exact next (popMany _) fun _ => pure rfl

theorem discard : Matches Eq (Shuffle.discard scope : Act ω π _) (Shuffle.discard scope') :=
  next (noParams shuffled) fun _ => next pop fun _ => pure rfl

theorem size : Matches Eq (Shuffle.size scope : Act ω π _) (Shuffle.size scope') :=
  next (noParams shuffled) fun _ => next stack fun _ => pure rfl

theorem pack : Matches Eq (Shuffle.pack scope : Act ω π _) (Shuffle.pack scope') := by
  refine next (params (shuffled.record Shuffle.PackParams.field_commutes _)) fun packing => ?_
  refine next (params (.same _)) fun count => ?_
  have packed : Matches Eq (do
      let items ← Act.popMany count
      return [Shuffle.composite packing.keys (if packing.forward then items else items.reverse)] :
        Act ω π (List Value)) (do
      let items ← Act.popMany count
      return [Shuffle.composite packing.keys (if packing.forward then items else items.reverse)]) :=
    next (popMany count) fun _ => pure rfl
  simp only
  generalize packing.keys = keys at packed ⊢
  cases keys with
  | none => exact packed
  | some keys =>
    by_cases fits : keys.length ≠ count
    · simp only [if_pos fits]
      exact next blame fun _ => packed
    · simp only [if_neg fits]
      exact packed

theorem unpack : Matches Eq (Shuffle.unpack scope : Act ω π _) (Shuffle.unpack scope') := by
  refine next (params (shuffled.record Shuffle.unpackField_commutes _)) fun keys => ?_
  refine next pop fun value => ?_
  cases keys with
  | none =>
    cases value with
    | arr items => exact pure rfl
    | obj fields => exact pure rfl
    | _ => exact throw
  | some keys =>
    cases value with
    | obj fields => exact params (.same _)
    | _ => exact throw

theorem nextParams : Matches Eq (Shuffle.nextParams scope : Act ω π _) (Shuffle.nextParams scope') := by
  refine next (noParams shuffled) fun _ => next pop fun value => ?_
  cases value with
  | obj fields =>
    refine next (change fun _ _ rearranged => ?_) fun _ => pure rfl
    exact { rearranged with frame := { rearranged.frame with pending := rfl } }
  | _ => exact throw

theorem fill : Matches Eq (Format.fill scope : Act ω π _) (Format.fill scope') := by
  unfold Format.fill
  rw [shuffled.get? "fmt"]
  cases scope'.get? "fmt" with
  | none => exact blame
  | some value =>
    cases value with
    | str text =>
      refine next (ofExcept (.same _)) fun template => next (popMany _) fun args => ?_
      rw [template.render_congr (shuffled.get?_erase "fmt")]
      exact next (ofExcept (.same _)) fun _ => pure rfl
    | _ => exact blame

theorem require : Matches Eq (Assertion.require scope : Act ω π _) (Assertion.require scope') := by
  refine next (params (shuffled.record Assertion.Params.field_commutes _)) fun params => ?_
  refine next pop fun value => ?_
  by_cases fails : value.truthy = params.negate
  · simp only [if_pos fails]
    exact bind (R := Eq) throw fun _ _ _ => pure rfl
  · simp only [if_neg fails]
    exact pure rfl

/-! ### Variables -/

theorem getVariable (reach : Reach) (uri : String) :
    Matches Eq (Resource.getVariable reach uri scope : Act ω π _)
      (Resource.getVariable reach uri scope') := by
  refine next (params (shuffled.record Resource.defaultField_commutes _)) fun default => ?_
  refine next (ofExcept (.same _)) fun key => bind (.scope reach) fun held held' alike => pure ?_
  rw [alike.same key]

theorem putVariable (reach : Reach) (value : Value) (uri : String) :
    Matches Eq (Resource.putVariable reach value uri scope : Act ω π _)
      (Resource.putVariable reach value uri scope') :=
  next (noParams shuffled) fun _ => next (ofExcept (.same _)) fun key => writeVariable reach key value

theorem deleteVariable (reach : Reach) (uri : String) :
    Matches Eq (Resource.deleteVariable reach uri scope : Act ω π _)
      (Resource.deleteVariable reach uri scope') :=
  next (noParams shuffled) fun _ => next (ofExcept (.same _)) fun key =>
    next (removeVariable reach key) fun _ => pure rfl

omit shuffled in
/-- The plugins that are found serve the same variables, or none is found. -/
theorem plugin {registry registry' : Registry π} (rearranged : registry.Rearranged registry')
    (role : Role) (scheme : String) (media : Option String) :
    Concurs (fun one other => one = other ∧ ∃ reach, one = .variables reach)
      (registry.plugin role scheme media) (registry'.plugin role scheme media) := by
  rw [← rearranged.plugin_eq]
  cases found : registry.plugin role scheme media with
  | error fault => exact .error
  | ok plugin => exact .ok ⟨rfl, (rearranged.only role scheme media plugin found).2⟩

/-- Requests are resolved to the same variables and URI, and shuffled parameters to hand on. -/
inductive Resolved : Plugin π × String × Scope → Plugin π × String × Scope → Prop
  | intro (reach : Reach) (uri : String) {rest rest' : Scope} : rest.Shuffled rest' →
      Resolved (.variables reach, uri, rest) (.variables reach, uri, rest')

theorem resolve (role : Role) :
    Matches Resolved (Resource.resolve role scope : Act ω π _) (Resource.resolve role scope') := by
  refine bind (params (Resource.request_alike shuffled)) fun request request' alike => ?_
  rw [← alike.uri, ← alike.media]
  refine next (params (.same _)) fun uri => next (ofExcept (.same _)) fun url => ?_
  refine look fun call call' rearranged => ?_
  refine bind (ofExcept (plugin rearranged.machine.registry _ _ _)) fun one other found => ?_
  obtain ⟨rfl, reach, rfl⟩ := found
  exact pure (.intro reach uri alike.rest)

theorem fetch (host : Host ω π) :
    Matches Eq (Resource.fetch host scope) (Resource.fetch host scope') := by
  refine bind (resolve shuffled .getter) fun one other resolved => ?_
  cases resolved with
  | intro reach uri rest => exact next (getVariable rest reach uri) fun _ => pure rfl

theorem store (host : Host ω π) :
    Matches Eq (Resource.store host scope) (Resource.store host scope') := by
  refine bind (resolve shuffled .putter) fun one other resolved => ?_
  cases resolved with
  | intro reach uri rest =>
    exact next pop fun value => next (putVariable rest reach value uri) fun _ => pure rfl

theorem remove (host : Host ω π) :
    Matches Eq (Resource.remove host scope) (Resource.remove host scope') := by
  refine bind (resolve shuffled .deleter) fun one other resolved => ?_
  cases resolved with
  | intro reach uri rest => exact next (deleteVariable rest reach uri) fun _ => pure rfl

/-! ### Control words -/

theorem control {word : Act ω π Unit} (matching : Matches Eq word word) :
    Matches Eq (Builtin.control word scope) (Builtin.control word scope') :=
  next (noParams shuffled) fun _ => next matching fun _ => pure rfl

omit shuffled

theorem skip (count : Nat) : Matches Eq (Flow.skip count : Act ω π Unit) (Flow.skip count) :=
  change fun _ _ rearranged =>
    { rearranged with frame := { rearranged.frame with pc := congrArg (· + count) rearranged.frame.pc } }

theorem upcoming : Matches (List.Forall₂ Op.Rearranged) (Flow.upcoming : Act ω π _) Flow.upcoming := by
  refine look fun call call' rearranged => pure ?_
  rw [rearranged.frame.pc]
  exact List.forall₂_drop _ rearranged.frame.ops

theorem openLoop : Matches Eq (Flow.openLoop : Act ω π Unit) Flow.openLoop := by
  refine change fun call call' rearranged => ?_
  have opened : call.frame.pc :: call.frame.begins = call'.frame.pc :: call'.frame.begins := by
    rw [rearranged.frame.pc, rearranged.frame.begins]
  exact { rearranged with frame := { rearranged.frame with begins := opened } }

theorem closeLoop : Matches Eq (Flow.closeLoop : Act ω π Unit) Flow.closeLoop := by
  refine look fun call call' rearranged => ?_
  rw [rearranged.frame.begins]
  cases call'.frame.begins with
  | nil => exact throw
  | cons body rest =>
    exact change fun _ _ rearranged =>
      { rearranged with frame := { rearranged.frame with pc := rfl } }

theorem leaveLoop : Matches Eq (Flow.leaveLoop : Act ω π Unit) Flow.leaveLoop := by
  refine bind upcoming fun ops ops' rearranged => ?_
  rw [Flow.loopEnd?_rearranged rearranged]
  cases Flow.loopEnd? 0 ops' with
  | none => exact throw
  | some count =>
    refine next (skip count) fun _ => change fun _ _ rearranged => ?_
    have left := congrArg List.tail rearranged.frame.begins
    exact { rearranged with frame := { rearranged.frame with begins := left } }

theorem continueIf : Matches Eq (Flow.continueIf : Act ω π Unit) Flow.continueIf := by
  refine next pop fun top => ?_
  by_cases holds : top.truthy = true
  · simp only [if_pos holds]
    exact pure rfl
  · simp only [if_neg holds]
    exact leaveLoop

theorem openIf : Matches Eq (Flow.openIf : Act ω π Unit) Flow.openIf := by
  refine next pop fun top => ?_
  by_cases holds : top.truthy = true
  · simp only [if_pos holds]
    exact pure rfl
  · simp only [if_neg holds]
    refine bind upcoming fun ops ops' rearranged => ?_
    rw [Flow.branchEnd?_rearranged rearranged]
    cases Flow.branchEnd? 0 ops' with
    | none => exact throw
    | some count => exact skip count

theorem otherwise : Matches Eq (Flow.otherwise : Act ω π Unit) Flow.otherwise := by
  refine bind upcoming fun ops ops' rearranged => ?_
  rw [Flow.blockEnd_rearranged rearranged]
  exact next (ofExcept (.same _)) skip

theorem recurse : Matches Eq (Flow.recurse : Act ω π Unit) Flow.recurse :=
  change fun _ _ rearranged =>
    { rearranged with frame := { rearranged.frame with pc := rfl, begins := rfl } }

end Act.Matches

/-- A built-in op does the same under shuffled parameters, or fails under both. -/
theorem Builtin.act_matches (host : Host ω π) (op : Builtin) {scope scope' : Scope}
    (shuffled : scope.Shuffled scope') : (op.act host scope).Matches Eq (op.act host scope') := by
  cases op with
  | add => exact .binary shuffled Arith.add
  | subtract => exact .binary shuffled Arith.subtract
  | multiply => exact .binary shuffled Arith.multiply
  | divide => exact .binary shuffled Arith.divide
  | modulo => exact .binary shuffled Arith.modulo
  | both | either | differ | equal | unequal => exact .predicate shuffled _
  | greater | atLeast | less | atMost => exact .ordered shuffled _
  | negation | asBool => exact .unary shuffled fun v => .ok _
  | asInt => exact .unary shuffled Arith.toInt
  | asFloat => exact .unary shuffled Arith.toFloat
  | dup => exact .dup shuffled host
  | swap => exact .swap shuffled
  | discard => exact .discard shuffled
  | size => exact .size shuffled
  | pack => exact .pack shuffled
  | unpack => exact .unpack shuffled
  | nextParams => exact .nextParams shuffled
  | openLoop => exact .control shuffled .openLoop
  | closeLoop => exact .control shuffled .closeLoop
  | leaveLoop => exact .control shuffled .leaveLoop
  | continueIf => exact .control shuffled .continueIf
  | openIf => exact .control shuffled .openIf
  | otherwise => exact .control shuffled .otherwise
  | closeIf => exact .control shuffled (.pure rfl)
  | recurse => exact .control shuffled .recurse
  | fetch => exact .fetch shuffled host
  | store => exact .store shuffled host
  | remove => exact .remove shuffled host
  | format => exact .fill shuffled
  | require => exact .require shuffled

end DocMachine
