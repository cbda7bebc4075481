import DocMachine.Proofs.Layers
import DocMachine.Proofs.Locality

/-!
# Containment of failures

A built-in op goes through three phases: it reads its parameters, takes operands from the stack, and
works on them. A failure of the first two leaves everything as it was, and a failure of the last one
loses the operands and nothing else.

* `Act.Reads`, `Act.Takes`, `Act.Works` and `Act.IsSure` are the phases, the last one for the end of
  an op, which cannot fail any more.
* `Act.Contained`: what a failed act may have done.

Results:
1. `Builtin.act_phases`: all built-in ops that work on variables only are laid out in these phases.
2. `Builtin.act_contained`: a failed op has changed nothing but the stack, and there it has only
   taken values. If it missed values, or if its parameters did not fit, it has taken none.
-/

namespace DocMachine

variable {ω π : Type} {host : Host ω π}

/-- The call with a number of values taken from the stack. -/
def Call.popped (call : Call ω π) (count : Nat) : Call ω π :=
  { call with machine := { call.machine with stack := call.machine.stack.drop count } }

theorem Call.popped_values (call : Call ω π) (count : Nat) :
    (call.popped count).machine.values <+: call.machine.values := by
  simpa [popped, Machine.values, List.reverse_drop] using List.take_prefix _ _

namespace Fault

theorem isUnderflow_of_isEarly {fault : Fault} (late : fault.isEarly = false) :
    fault.isUnderflow = false := by
  cases fault with
  | stackUnderflow needed available => cases late
  | _ => rfl

/-- If the fault says that values are missing, it tells the height of the stack. -/
def TellsHeight (fault : Fault) (call : Call ω π) : Prop :=
  ∀ needed available, fault = .stackUnderflow needed available →
    available = call.machine.stack.length

theorem tellsHeight_of_isUnderflow {fault : Fault} (other : fault.isUnderflow = false)
    (call : Call ω π) : fault.TellsHeight call := by
  rintro needed available rfl
  cases other

end Fault

namespace Act

variable {α β : Type} {those : Fault → Bool}

/-- The act changes nothing, and if it fails, its fault is none of those. -/
def Reads (those : Fault → Bool) (act : Act ω π α) : Prop :=
  ∀ call, ∃ result, act.run.run call = (result, call) ∧
    ∀ fault, result = .error fault → those fault = false

/-- The act takes values from the stack, or it fails and changes nothing. If it says that values are
missing, it tells the height of the stack. -/
def Takes (act : Act ω π α) : Prop :=
  ∀ call, (∃ a count, act.run.run call = (.ok a, call.popped count)) ∨
    ∃ fault, act.run.run call = (.error fault, call) ∧ fault.TellsHeight call

theorem Takes.short {act : Act ω π α} {call : Call ω π} (needed : Nat)
    (ran : act.run.run call = (.error (.stackUnderflow needed call.machine.stack.length), call)) :
    ∃ fault, act.run.run call = (.error fault, call) ∧ fault.TellsHeight call := by
  refine ⟨_, ran, ?_⟩
  rintro _ _ ⟨⟩
  rfl

/-- If the act fails, it has changed nothing, and its fault is none of those. -/
def Works (those : Fault → Bool) (act : Act ω π α) : Prop :=
  ∀ call fault after, act.run.run call = (.error fault, after) →
    after = call ∧ those fault = false

/-- The act does not fail. -/
def IsSure (act : Act ω π α) : Prop :=
  ∀ call, ∃ a after, act.run.run call = (.ok a, after)

/-- If the act fails from this call, then either it has changed nothing, or it has taken values from
the stack and its fault is none of those. -/
def Contained (those : Fault → Bool) (act : Act ω π α) (call : Call ω π) : Prop :=
  ∀ fault after, act.run.run call = (.error fault, after) →
    (after = call ∧ fault.TellsHeight call) ∨
      (those fault = false ∧ ∃ count, after = call.popped count)

/-! ## Reading -/

namespace Reads

theorem pure (a : α) : (Pure.pure a : Act ω π α).Reads those :=
  fun _ => ⟨.ok a, rfl, by simp⟩

theorem throw {fault : Fault} (other : those fault = false) :
    (MonadExcept.throw fault : Act ω π α).Reads those :=
  fun _ => ⟨.error fault, rfl, by rintro _ ⟨⟩; exact other⟩

theorem bind {act : Act ω π α} {rest : α → Act ω π β} (first : act.Reads those)
    (second : ∀ a, (rest a).Reads those) : (act >>= rest).Reads those := by
  intro call
  obtain ⟨result, ran, other⟩ := first call
  rw [run_bind, ran]
  cases result with
  | ok a => exact second a call
  | error fault => exact ⟨.error fault, rfl, by rintro _ ⟨⟩; exact other fault rfl⟩

theorem look {rest : Call ω π → Act ω π α} (each : ∀ call, (rest call).Reads those) :
    (get >>= rest : Act ω π α).Reads those :=
  fun call => each call call

theorem ofExcept {result : Except Fault α}
    (other : ∀ fault, result = .error fault → those fault = false) :
    (Act.ofExcept result : Act ω π α).Reads those := by
  cases result with
  | ok a => exact pure a
  | error fault => exact throw (other fault rfl)

theorem scope (reach : Reach) : (Act.scope reach : Act ω π Scope).Reads those := by
  cases reach with
  | locals => exact look fun _ => pure _
  | globals => exact look fun _ => pure _

theorem upcoming : (Flow.upcoming : Act ω π (List Value)).Reads those := look fun _ => pure _

/-! What is wrong with parameters is no underflow. -/

theorem blame (fault : ParamFault) : (Act.blame fault : Act ω π α).Reads Fault.isUnderflow :=
  look fun _ => throw rfl

theorem params (read : Param.Read α) : (Act.params read : Act ω π α).Reads Fault.isUnderflow := by
  cases read with
  | ok a => exact pure a
  | error fault => exact blame fault

theorem noParams (scope : Scope) : (Act.noParams scope : Act ω π Unit).Reads Fault.isUnderflow := by
  cases scope with
  | nil => exact pure ()
  | cons entry rest => exact blame (.unexpected entry.1)

theorem late {result : Except Fault α} (late : Fault.Late result) :
    (Act.ofExcept result : Act ω π α).Reads Fault.isUnderflow :=
  ofExcept fun fault failed => Fault.isUnderflow_of_isEarly (late fault failed)

theorem readVariable (reach : Reach) (key : String) :
    (Act.readVariable reach key : Act ω π Value).Reads Fault.isUnderflow := by
  refine bind (scope reach) fun values => ?_
  cases values.get? key with
  | some value => exact pure value
  | none => exact throw rfl

theorem resolve (role : Role) (scope : Scope) :
    (Resource.resolve role scope : Act ω π _).Reads Fault.isUnderflow := by
  refine bind (params _) fun request => bind (params _) fun uri => ?_
  refine bind (late (Resource.parseUri_late uri)) fun url => ?_
  exact look fun call =>
    bind (late (call.machine.registry.plugin_late role url.scheme request.media)) fun _ => pure _

end Reads

/-! ## Taking -/

namespace Takes

theorem pop : (Act.pop : Act ω π Value).Takes := by
  intro call
  cases holds : call.machine.stack with
  | nil =>
    refine .inr (short 1 ?_)
    rw [pop_run_nil holds, holds]
    rfl
  | cons top rest =>
    refine .inl ⟨top, 1, ?_⟩
    rw [pop_run_cons holds, Call.popped, holds]
    rfl

theorem popMany (count : Nat) : (Act.popMany count : Act ω π (List Value)).Takes := by
  intro call
  by_cases few : call.machine.stack.length < count
  · refine .inr (short count ?_)
    rw [IsLocal.popMany_run, if_pos few]
  · rw [IsLocal.popMany_run, if_neg few]
    exact .inl ⟨_, count, rfl⟩

theorem popPair : (Act.popPair : Act ω π (Value × Value)).Takes := by
  intro call
  match holds : call.machine.stack with
  | [] => exact .inr (short 2 (IsLocal.popPair_run_short (by simp [holds])))
  | [_] => exact .inr (short 2 (IsLocal.popPair_run_short (by simp [holds])))
  | y :: x :: rest =>
    refine .inl ⟨(x, y), 2, ?_⟩
    rw [IsLocal.popPair_run_cons holds, Call.popped, holds]
    rfl

theorem peek (offset : Nat) : (Act.peek offset : Act ω π Value).Takes := by
  intro call
  have peeked := IsLocal.peek_run offset call
  split at peeked
  · refine .inr ⟨_, peeked, ?_⟩
    rintro _ _ ⟨⟩
  · split at peeked
    · exact .inl ⟨_, 0, peeked⟩
    · exact .inr (short _ peeked)

end Takes

/-! ## Working -/

namespace IsSure

theorem pure (a : α) : (Pure.pure a : Act ω π α).IsSure := fun call => ⟨a, call, rfl⟩

theorem change (change : Call ω π → Call ω π) : (modify change : Act ω π Unit).IsSure :=
  fun call => ⟨(), change call, rfl⟩

theorem bind {act : Act ω π α} {rest : α → Act ω π β} (first : act.IsSure)
    (second : ∀ a, (rest a).IsSure) : (act >>= rest).IsSure := by
  intro call
  obtain ⟨a, after, ran⟩ := first call
  rw [run_bind, ran]
  exact second a after

theorem setScope (reach : Reach) (scope : Scope) :
    (Act.setScope reach scope : Act ω π Unit).IsSure := by
  cases reach with
  | locals => exact change _
  | globals => exact change _

theorem skip (count : Nat) : (Flow.skip count : Act ω π Unit).IsSure := change _

/-- What cannot fail at its end fails before. -/
theorem failed {act : Act ω π α} {rest : α → Act ω π β} (sure : ∀ a, (rest a).IsSure)
    {call after : Call ω π} {fault : Fault}
    (failed : (act >>= rest).run.run call = (.error fault, after)) :
    act.run.run call = (.error fault, after) := by
  rw [run_bind] at failed
  cases ran : act.run.run call with
  | mk outcome left =>
    rw [ran] at failed
    cases outcome with
    | ok a =>
      obtain ⟨b, after', ran'⟩ := sure a left
      cases ran'.symm.trans failed
    | error fault' =>
      cases failed
      rfl

end IsSure

namespace Works

theorem sure {act : Act ω π α} (sure : act.IsSure) : act.Works those := by
  intro call fault after failed
  obtain ⟨a, after', ran⟩ := sure call
  rw [ran] at failed
  cases failed

theorem mono {act : Act ω π α} {fewer : Fault → Bool}
    (others : ∀ fault, those fault = false → fewer fault = false) (works : act.Works those) :
    act.Works fewer :=
  fun call fault after failed => (works call fault after failed).imp id (others fault)

theorem reads {act : Act ω π α} (reads : act.Reads those) : act.Works those := by
  intro call fault after failed
  obtain ⟨result, ran, other⟩ := reads call
  rw [ran] at failed
  cases failed
  exact ⟨rfl, other fault rfl⟩

theorem throw {fault : Fault} (other : those fault = false) :
    (MonadExcept.throw fault : Act ω π α).Works those :=
  reads (.throw other)

theorem bind {act : Act ω π α} {rest : α → Act ω π β} (first : act.Reads those)
    (second : ∀ a, (rest a).Works those) : (act >>= rest).Works those := by
  intro call fault after failed
  obtain ⟨result, ran, other⟩ := first call
  rw [run_bind, ran] at failed
  cases result with
  | ok a => exact second a call fault after failed
  | error fault' =>
    cases failed
    exact ⟨rfl, other fault rfl⟩

theorem andThen {act : Act ω π α} {rest : α → Act ω π β} (first : act.Works those)
    (second : ∀ a, (rest a).IsSure) : (act >>= rest).Works those :=
  fun call fault after failed => first call fault after (IsSure.failed second failed)

theorem look {rest : Call ω π → Act ω π α} (each : ∀ call, (rest call).Works those) :
    (get >>= rest : Act ω π α).Works those :=
  fun call => each call call

/-- A result that is pushed. -/
theorem answer {result : Except Fault α} (late : Fault.Late result) {push : α → List Value} :
    (Act.ofExcept result >>= fun a => Pure.pure (push a) : Act ω π (List Value)).Works
      Fault.isEarly :=
  bind (.ofExcept late) fun _ => sure (.pure _)

theorem leaveLoop : (Flow.leaveLoop : Act ω π Unit).Works Fault.isEarly := by
  refine bind .upcoming fun ops => ?_
  split
  · exact sure (.bind (.skip _) fun _ => .change _)
  · exact throw rfl

theorem getVariable (reach : Reach) (uri : String) (scope : Scope) :
    (Resource.getVariable reach uri scope : Act ω π Value).Works Fault.isUnderflow := by
  refine bind (.params _) fun default => bind (.late (Resource.keyOf_late uri)) fun key => ?_
  exact reads (.bind (.scope reach) fun _ => .pure _)

theorem putVariable (reach : Reach) (value : Value) (uri : String) (scope : Scope) :
    (Resource.putVariable reach value uri scope : Act ω π Unit).Works Fault.isUnderflow := by
  refine bind (.noParams scope) fun _ => bind (.late (Resource.keyOf_late uri)) fun key => ?_
  exact bind (.scope reach) fun _ => sure (.setScope reach _)

theorem deleteVariable (reach : Reach) (uri : String) (scope : Scope) :
    (Resource.deleteVariable reach uri scope : Act ω π Unit).Works Fault.isUnderflow := by
  refine bind (.noParams scope) fun _ => bind (.late (Resource.keyOf_late uri)) fun key => ?_
  refine andThen (bind (.readVariable reach key) fun _ => ?_) fun _ => .pure _
  exact bind (.scope reach) fun _ => sure (.bind (.setScope reach _) fun _ => .pure _)

end Works

/-! ## Containment -/

namespace Contained

variable {call : Call ω π}

theorem mono {act : Act ω π α} {fewer : Fault → Bool}
    (others : ∀ fault, those fault = false → fewer fault = false)
    (contained : act.Contained those call) : act.Contained fewer call :=
  fun fault after failed => (contained fault after failed).imp id (And.imp (others fault) id)

theorem works {act : Act ω π α} (works : act.Works Fault.isUnderflow) : act.Contained those call := by
  intro fault after failed
  obtain ⟨same, other⟩ := works call fault after failed
  exact .inl ⟨same, Fault.tellsHeight_of_isUnderflow other call⟩

theorem read {act : Act ω π α} {rest : α → Act ω π β} (first : act.Reads Fault.isUnderflow)
    (second : ∀ a, act.run.run call = (.ok a, call) → (rest a).Contained those call) :
    (act >>= rest).Contained those call := by
  intro fault after failed
  obtain ⟨result, ran, other⟩ := first call
  rw [run_bind, ran] at failed
  cases result with
  | ok a => exact second a ran fault after failed
  | error fault' =>
    cases failed
    exact .inl ⟨rfl, Fault.tellsHeight_of_isUnderflow (other fault rfl) call⟩

theorem take {act : Act ω π α} {rest : α → Act ω π β} (first : act.Takes)
    (second : ∀ a, (rest a).Works those) : (act >>= rest).Contained those call := by
  intro fault after failed
  rcases first call with ⟨a, count, ran⟩ | ⟨fault', ran, tells⟩
  · rw [run_bind, ran] at failed
    obtain ⟨same, other⟩ := second a _ fault after failed
    exact .inr ⟨other, count, same⟩
  · rw [run_bind, ran] at failed
    cases failed
    exact .inl ⟨rfl, tells⟩

theorem andThen {act : Act ω π α} {rest : α → Act ω π β} (first : act.Contained those call)
    (second : ∀ a, (rest a).IsSure) : (act >>= rest).Contained those call :=
  fun fault after failed => first fault after (IsSure.failed second failed)

/-! ### Values -/

variable {scope : Scope}

theorem unary {f : Value → Except Fault Value} (late : ∀ x, Fault.Late (f x)) :
    (Builtin.unary f scope : Act ω π (List Value)).Contained Fault.isEarly call :=
  read (.noParams scope) fun _ _ => take .pop fun value => .answer (late value)

theorem binary {f : Value → Value → Except Fault Value} (late : ∀ x y, Fault.Late (f x y)) :
    (Builtin.binary f scope : Act ω π (List Value)).Contained Fault.isEarly call :=
  read (.noParams scope) fun _ _ => take .popPair fun pair => .answer (late pair.1 pair.2)

theorem predicate (f : Value → Value → Bool) :
    (Builtin.predicate f scope : Act ω π (List Value)).Contained Fault.isEarly call :=
  binary fun _ _ => .ok _

theorem ordered (f : Ordering → Bool) :
    (Builtin.ordered f scope : Act ω π (List Value)).Contained Fault.isEarly call :=
  binary fun x y => .map _ (Value.compare_late x y)

theorem dup : (Shuffle.dup host scope).Contained Fault.isEarly call := by
  refine read (.params _) fun params _ => take (.peek params.offset) fun value => ?_
  exact .reads (.look fun _ => .pure _)

theorem swap : (Shuffle.swap scope : Act ω π (List Value)).Contained Fault.isEarly call := by
  refine read (.params _) fun order _ => ?_
  split
  · exact works (.reads (.blame _))
  · exact take (.popMany _) fun _ => .sure (.pure _)

theorem discard : (Shuffle.discard scope : Act ω π (List Value)).Contained Fault.isEarly call :=
  read (.noParams scope) fun _ _ => take .pop fun _ => .sure (.pure _)

theorem size : (Shuffle.size scope : Act ω π (List Value)).Contained Fault.isEarly call :=
  read (.noParams scope) fun _ _ => works (.reads (.look fun _ => .pure _))

theorem pack : (Shuffle.pack scope : Act ω π (List Value)).Contained Fault.isEarly call := by
  refine read (.params _) fun params _ => read (.params _) fun count _ => ?_
  have packed : (do
      let items ← Act.popMany count
      return [Shuffle.composite params.keys (if params.forward then items else items.reverse)] :
        Act ω π (List Value)).Contained Fault.isEarly call :=
    take (.popMany count) fun _ => .sure (.pure _)
  simp only
  generalize params.keys = keys at packed ⊢
  cases keys with
  | none => exact packed
  | some keys =>
    simp only
    split
    · exact read (.blame _) fun _ _ => packed
    · exact packed

/-- Keys that an object lacks are found missing only when it has been taken. -/
theorem unpack (others : ∀ fault, fault.isEarly = false → those fault = false)
    (keyed : ∀ keys, Param.record none Shuffle.unpackField scope = .ok (some keys) →
      ∀ fault, fault.isUnderflow = false → those fault = false) :
    (Shuffle.unpack scope : Act ω π (List Value)).Contained those call := by
  unfold Shuffle.unpack
  cases given : Param.record none Shuffle.unpackField scope with
  | error fault => exact read (.blame fault) fun _ ran => by cases ran
  | ok keys =>
    refine read (.pure keys) fun keys' ran => take .pop fun value => ?_
    cases ran
    split
    · exact .sure (.pure _)
    · exact .sure (.pure _)
    · exact .throw (others _ rfl)
    · next keys fields =>
      cases Shuffle.takeOut fields keys.reverse with
      | ok values => exact .sure (.pure values)
      | error fault => exact .look fun call => .throw (keyed keys given _ rfl)
    · exact .throw (others _ rfl)

theorem nextParams :
    (Shuffle.nextParams scope : Act ω π (List Value)).Contained Fault.isEarly call := by
  refine read (.noParams scope) fun _ _ => take .pop fun value => ?_
  split
  · exact .sure (.bind (.change _) fun _ => .pure _)
  · exact .throw rfl

theorem fill : (Format.fill scope : Act ω π (List Value)).Contained Fault.isEarly call := by
  unfold Format.fill
  split
  · refine read (.late (.mapError (fun _ => rfl) _)) fun template _ => ?_
    exact take (.popMany _) fun args => .answer (.mapError (fun _ => rfl) _)
  · exact works (.reads (.blame _))
  · exact works (.reads (.blame _))

theorem require :
    (Assertion.require scope : Act ω π (List Value)).Contained Fault.isEarly call := by
  refine read (.params _) fun params _ => take .pop fun value => ?_
  simp only
  split
  · exact .bind (.throw rfl) fun _ => .sure (.pure _)
  · exact .sure (.pure _)

/-! ### Control words -/

theorem control {word : Act ω π Unit} (contained : word.Contained those call) :
    (Builtin.control word scope).Contained those call :=
  read (.noParams scope) fun _ _ => andThen contained fun _ => .pure _

theorem continueIf : (Flow.continueIf : Act ω π Unit).Contained Fault.isEarly call := by
  refine take .pop fun top => ?_
  split
  · exact .sure (.pure _)
  · exact .leaveLoop

theorem openIf : (Flow.openIf : Act ω π Unit).Contained Fault.isEarly call := by
  refine take .pop fun top => ?_
  split
  · exact .sure (.pure _)
  · refine .bind .upcoming fun ops => ?_
    split
    · exact .sure (.skip _)
    · exact .throw rfl

theorem otherwise : (Flow.otherwise : Act ω π Unit).Contained those call :=
  works (.bind .upcoming fun ops =>
    .bind (.late (Flow.blockEnd_late 0 ops)) fun _ => .sure (.skip _))

theorem closeLoop : (Flow.closeLoop : Act ω π Unit).Contained those call := by
  refine works (.look fun call => ?_)
  split
  · exact .sure (.change _)
  · exact .throw rfl

/-! ### Resources -/

/-- An op that works on resources finds variables. -/
theorem resolve {role : Role} {rest : Plugin π × String × Scope → Act ω π β}
    (finds : ∀ plugin uri params,
      Resource.Finds call.machine.registry role scope plugin uri params →
        ∃ reach, plugin = .variables reach)
    (each : ∀ reach uri params, (rest (.variables reach, uri, params)).Contained those call) :
    (Resource.resolve role scope >>= rest).Contained those call := by
  refine read (.resolve role scope) fun found ran => ?_
  obtain ⟨plugin, uri, params⟩ := found
  rw [Resource.resolve_run] at ran
  obtain ⟨reach, rfl⟩ := finds plugin uri params (Resource.target_finds (Prod.mk.inj ran).1)
  exact each reach uri params

end Contained

end Act

/-! ## Built-in ops -/

namespace Builtin

variable {scope : Scope} {call after : Call ω π} {fault : Fault}

/-- The op may find only when it has taken its operands that parameters do not fit: `put` hands
parameters on to the plugin that writes the operand, and `unpack` may miss keys in its operand. -/
def JudgesLate (op : Builtin) (scope : Scope) : Prop :=
  op = store ∨ op = unpack ∧ ∃ keys, Param.record none Shuffle.unpackField scope = .ok (some keys)

/-- All built-in ops read their parameters, take operands and work on them, in this order. -/
theorem act_phases {op : Builtin} {those : Fault → Bool}
    (others : ∀ fault, fault.isEarly = false → those fault = false)
    (judges : op.JudgesLate scope → ∀ fault, fault.isUnderflow = false → those fault = false)
    (finds : op.FindsVariables call.machine.registry scope) :
    (op.act host scope).Contained those call := by
  cases op with
  | add => exact .mono others (.binary Arith.add_late)
  | subtract => exact .mono others (.binary Arith.subtract_late)
  | multiply => exact .mono others (.binary Arith.multiply_late)
  | divide => exact .mono others (.binary Arith.divide_late)
  | modulo => exact .mono others (.binary Arith.modulo_late)
  | both | either | differ | equal | unequal => exact .mono others (.predicate _)
  | greater | atLeast | less | atMost => exact .mono others (.ordered _)
  | negation | asBool => exact .mono others (.unary fun _ => .ok _)
  | asInt => exact .mono others (.unary Arith.toInt_late)
  | asFloat => exact .mono others (.unary Arith.toFloat_late)
  | dup => exact .mono others .dup
  | swap => exact .mono others .swap
  | discard => exact .mono others .discard
  | size => exact .mono others .size
  | pack => exact .mono others .pack
  | unpack => exact .unpack others fun keys given => judges (.inr ⟨rfl, keys, given⟩)
  | nextParams => exact .mono others .nextParams
  | openLoop => exact .control (.works (.sure (.change _)))
  | closeLoop => exact .control .closeLoop
  | leaveLoop => exact .control (.works (.mono (fun _ => Fault.isUnderflow_of_isEarly) .leaveLoop))
  | continueIf => exact .mono others (.control .continueIf)
  | openIf => exact .mono others (.control .openIf)
  | otherwise => exact .control .otherwise
  | closeIf => exact .control (.works (.sure (.pure ())))
  | recurse => exact .control (.works (.sure (.change _)))
  | fetch =>
    refine .resolve (finds .getter rfl) fun reach uri params => ?_
    exact .works (.andThen (.getVariable reach uri params) fun _ => .pure _)
  | store =>
    refine .mono (judges (.inl rfl)) (.resolve (finds .putter rfl) fun reach uri params => ?_)
    refine .take .pop fun value => ?_
    exact .andThen (.putVariable reach value uri params) fun _ => .pure _
  | remove =>
    refine .resolve (finds .deleter rfl) fun reach uri params => ?_
    exact .works (.andThen (.deleteVariable reach uri params) fun _ => .pure _)
  | format => exact .mono others .fill
  | require => exact .mono others .require

/-- A failed op that works on variables only has changed nothing but the stack, and there it has only
taken values. If it missed values, or if its parameters did not fit, it has taken none, and what it
missed them from is the stack as it is. -/
theorem act_contained {op : Builtin} (finds : op.FindsVariables call.machine.registry scope)
    (failed : (op.act host scope).run.run call = (.error fault, after)) :
    after.frame = call.frame ∧
      after.machine = { call.machine with stack := after.machine.stack } ∧
      after.machine.values <+: call.machine.values ∧
      (∀ needed available, fault = .stackUnderflow needed available →
        after.machine.values = call.machine.values ∧ available = call.machine.values.length) ∧
      (∀ name reason, fault = .invalidParams name reason → ¬ op.JudgesLate scope →
        after.machine.values = call.machine.values) := by
  have early : (op.act host scope).Contained Fault.isUnderflow call :=
    act_phases (fun _ => Fault.isUnderflow_of_isEarly) (fun _ _ other => other) finds
  have short : ∀ needed available, fault = .stackUnderflow needed available →
      after.machine.values = call.machine.values ∧ available = call.machine.values.length := by
    rintro needed available rfl
    rcases early _ _ failed with ⟨rfl, tells⟩ | ⟨other, -⟩
    · exact ⟨rfl, by simpa [Machine.values] using tells needed available rfl⟩
    · cases other
  have misfit : ∀ name reason, fault = .invalidParams name reason → ¬ op.JudgesLate scope →
      after.machine.values = call.machine.values := by
    rintro name reason rfl prompt
    have late : (op.act host scope).Contained Fault.isEarly call :=
      act_phases (fun _ other => other) (fun judges => absurd judges prompt) finds
    rcases late _ _ failed with ⟨rfl, -⟩ | ⟨other, -⟩
    · rfl
    · cases other
  obtain ⟨count, rfl⟩ : ∃ count, after = call.popped count := by
    rcases early _ _ failed with ⟨rfl, -⟩ | ⟨-, taken⟩
    · exact ⟨0, rfl⟩
    · exact taken
  exact ⟨rfl, rfl, call.popped_values count, short, misfit⟩

/-- With a parameter too many, `put` writes nothing, and takes no more than its operand. -/
theorem act_contained_put :
    let call : Call (World Unit) (Plug Empty) :=
      ⟨{ registry := Registry.builtins, stack := [.int 2, .int 1], world := { guest := () } },
        .root, "put"⟩
    let scope : Scope := [("uri", .str "locals:x"), ("also", .null)]
    let left := ((store.act (Standard.host Standard.noGuests) scope).run.run call).2
    ((store.act (Standard.host Standard.noGuests) scope).run.run call).1 =
        .error (.invalidParams "put" (.unexpected "also")) ∧
      left.frame = call.frame ∧ left.machine.values <+: call.machine.values := by
  intro call scope left
  have ran : ((store.act (Standard.host Standard.noGuests) scope).run.run call).1 =
      .error (.invalidParams "put" (.unexpected "also")) := by cbv
  have finds : store.FindsVariables call.machine.registry scope :=
    Registry.builtins_onlyVariables.finds store scope
  have failed : (store.act (Standard.host Standard.noGuests) scope).run.run call =
      (.error (.invalidParams "put" (.unexpected "also")), left) := Prod.ext ran rfl
  obtain ⟨frame, -, taken, -⟩ := act_contained finds failed
  exact ⟨ran, frame, taken⟩

end Builtin

end DocMachine
