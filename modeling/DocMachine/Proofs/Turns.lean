import DocMachine.Proofs.Facade
import DocMachine.Proofs.Outcomes

/-!
# Turns of all other ops

A literal, a procedure, and every handler that works through the façade leave the run list and the
open loops of the activation alone, do not look at them, and go on with the op after.

* `Frame.relist` gives a frame another run list and other open loops.
* `Handler.IsPlain`: the handler is no control word.
* `Act.Stays`: if the act fails, it leaves the activation where it was.

Results:
1. `Frame.takeUp_relist`: an op that is no control word does the same in any run list.
2. `Frame.takeUp_next`: the activation goes on with the op after it.
3. `Builtin.act_stays`: a built-in op that fails stays where it is, control words among them.
-/

namespace DocMachine

variable {ω π : Type}

/-- The handler is no control word. -/
def Handler.IsPlain (handler : Handler π) : Prop :=
  ∀ op ∈ Builtin.words, handler ≠ .builtin op

/-- The frame with another run list and other open loops. -/
def Frame.relist (ops : List Value) (begins : List Nat) (frame : Frame) : Frame :=
  { frame with ops, begins }

/-- The turn with its frame changed. -/
def Turn.onFrame (change : Frame → Frame) : Turn ω π → Turn ω π
  | .ended => .ended
  | .next frame machine => .next (change frame) machine
  | .stop reason frame machine => .stop reason (change frame) machine

namespace Shuffle

/-- What setting the pending parameters comes to. -/
theorem nextParams_run (call : Call ω π) (scope : Scope) :
    (nextParams scope : Act ω π (List Value)).run.run call =
      match scope, call.machine.stack with
      | (key, _) :: _, _ => (.error (.invalidParams call.op (.unexpected key)), call)
      | [], [] => (.error (.stackUnderflow 1 0), call)
      | [], .obj fields :: rest =>
        (.ok [], { call with
          machine := { call.machine with stack := rest }
          frame := { call.frame with pending := fields } })
      | [], other :: rest =>
        (.error (.type (.nextParams other.typeName)),
          { call with machine := { call.machine with stack := rest } }) := by
  cases scope with
  | cons entry rest => rfl
  | nil =>
    unfold nextParams
    rw [run_bind, show (Act.noParams [] : Act ω π Unit).run.run call = (.ok (), call) from rfl]
    simp only
    rw [run_bind]
    cases holds : call.machine.stack with
    | nil => rw [Act.pop_run_nil holds]
    | cons top rest =>
      rw [Act.pop_run_cons holds]
      cases top <;> rfl

end Shuffle

/-! ## Failing -/

/-- If the act fails, it has left the activation where it was. -/
def Act.Stays {α : Type} (act : Act ω π α) : Prop :=
  ∀ call fault after, act.run.run call = (.error fault, after) →
    after.frame.taken = call.frame.taken

/-- An act that works through the façade does not see where the activation is. -/
theorem Act.Facade.stays {α : Type} {act : Act ω π α} (facade : act.Facade) : act.Stays := by
  intro call fault after failed
  have inside := facade.inside call
  rw [failed] at inside
  have name : after.frame.name = call.frame.name := congrArg Inside.name inside
  have pc : after.frame.pc = call.frame.pc := congrArg Inside.pc inside
  rw [Frame.taken, Frame.taken, name, pc]

namespace Act.Stays

variable {α : Type}

theorem nextParams (scope : Scope) : (Shuffle.nextParams scope : Act ω π (List Value)).Stays := by
  intro call fault after failed
  rw [Shuffle.nextParams_run] at failed
  split at failed <;> cases failed <;> rfl

/-! Control words move the activation at their end, when they cannot fail any more. -/

theorem change (change : Call ω π → Call ω π) : (modify change : Act ω π Unit).Stays := by
  intro call fault after failed
  cases failed

theorem leaveLoop : (Flow.leaveLoop : Act ω π Unit).Stays := by
  intro call fault after failed
  rw [Flow.leaveLoop_run] at failed
  split at failed
  · cases failed
  · cases failed
    rfl

theorem closeLoop : (Flow.closeLoop : Act ω π Unit).Stays := by
  intro call fault after failed
  rw [Flow.closeLoop_run] at failed
  split at failed
  · cases failed
  · cases failed
    rfl

theorem otherwise : (Flow.otherwise : Act ω π Unit).Stays := by
  intro call fault after failed
  rw [Flow.otherwise_run] at failed
  split at failed
  · cases failed
  · cases failed
    rfl

theorem continueIf : (Flow.continueIf : Act ω π Unit).Stays := by
  intro call fault after failed
  cases holds : call.machine.stack with
  | nil =>
    rw [Flow.continueIf_run_nil call holds] at failed
    cases failed
    rfl
  | cons top rest =>
    rw [Flow.continueIf_run_cons call holds] at failed
    split at failed
    · cases failed
    · have left := leaveLoop _ _ _ failed
      exact left

theorem openIf : (Flow.openIf : Act ω π Unit).Stays := by
  intro call fault after failed
  cases holds : call.machine.stack with
  | nil =>
    rw [Flow.openIf_run_nil call holds] at failed
    cases failed
    rfl
  | cons top rest =>
    rw [Flow.openIf_run_cons call holds] at failed
    split at failed
    · cases failed
    · split at failed
      · cases failed
      · cases failed
        rfl

theorem control {word : Act ω π Unit} (stays : word.Stays) (scope : Scope) :
    (Builtin.control word scope).Stays := by
  intro call fault after failed
  cases scope with
  | cons entry rest =>
    cases failed
    rfl
  | nil =>
    rw [Builtin.control_run] at failed
    split at failed
    · cases failed
    · next ran =>
      cases failed
      exact stays _ _ _ ran

end Act.Stays

/-- A built-in op that fails has left the activation where it was. -/
theorem Builtin.act_stays {host : Host ω π} (facade : host.Facade) (op : Builtin) (scope : Scope) :
    (op.act host scope).Stays := by
  by_cases isWord : op ∈ words
  · fin_cases isWord
    · exact .control (.change _) scope
    · exact .control .closeLoop scope
    · exact .control .leaveLoop scope
    · exact .control .continueIf scope
    · exact .control .openIf scope
    · exact .control .otherwise scope
    · exact .control (Act.Facade.pure ()).stays scope
    · exact .control (.change _) scope
  · by_cases next : op = .nextParams
    · subst next
      exact .nextParams scope
    · exact (act_facade facade isWord next scope).stays

namespace Frame

variable {host : Host ω π} {callee : Frame → Machine ω π → Run ω π} {frame : Frame}
  {machine : Machine ω π}

/-! ## Any run list -/

theorem perform_relist {act : Act ω π (List Value)} (facade : act.Facade) (name : String)
    (ops : List Value) (begins : List Nat) :
    (frame.relist ops begins).perform act name machine =
      (frame.perform act name machine).onFrame (relist ops begins) := by
  let call : Call ω π := ⟨machine, frame.spent, name⟩
  let around : Inside := { call.inside with ops, begins }
  have blind := facade.blind call around
  have kept := facade.inside call
  unfold perform
  rw [show (⟨machine, (frame.relist ops begins).spent, name⟩ : Call ω π) = call.withInside around
    from rfl, blind, show (⟨machine, frame.spent, name⟩ : Call ω π) = call from rfl]
  cases ran : act.run.run call with
  | mk outcome left =>
    rw [ran] at kept
    have same : left.withInside around = { left with frame := left.frame.relist ops begins } := by
      simp only [around, ← kept]
      rfl
    rw [same]
    cases outcome <;> rfl

theorem nextParams_relist (name : String) (bound : Scope) (ops : List Value) (begins : List Nat) :
    (frame.relist ops begins).perform (Shuffle.nextParams bound) name machine =
      (frame.perform (Shuffle.nextParams bound) name machine).onFrame (relist ops begins) := by
  unfold perform
  rw [Shuffle.nextParams_run, Shuffle.nextParams_run]
  cases bound with
  | cons entry rest => rfl
  | nil =>
    cases holds : machine.stack with
    | nil => rfl
    | cons top rest => cases top <;> rfl

theorem enter_relist (child : Frame) (ops : List Value) (begins : List Nat) :
    (frame.relist ops begins).enter callee child machine =
      (frame.enter callee child machine).onFrame (relist ops begins) := by
  unfold enter
  by_cases deep : machine.maxDepth < child.depth
  · rw [if_pos deep, if_pos deep]
    rfl
  · rw [if_neg deep, if_neg deep]
    simp only
    cases (callee child (machine.emit (.enter child.name child.depth))).outcome with
    | ok _ => rfl
    | error stop => cases stop <;> rfl

theorem dispatch_relist (facade : host.Facade) {handler : Handler π} (plain : handler.IsPlain)
    (name : String) (bound : Scope) (ops : List Value) (begins : List Nat) :
    (frame.relist ops begins).dispatch host callee name bound handler machine =
      (frame.dispatch host callee name bound handler machine).onFrame (relist ops begins) := by
  cases handler with
  | foreign plug => exact perform_relist (facade.op plug bound) name ops begins
  | procedure procedure =>
    exact enter_relist (frame.child name procedure bound) ops begins
  | builtin op =>
    by_cases next : op = .nextParams
    · subst next
      exact nextParams_relist name bound ops begins
    · have isPlain : op ∉ Builtin.words := fun isWord => plain op isWord rfl
      exact perform_relist (Builtin.act_facade facade isPlain next bound) name ops begins

/-! ## The op after -/

theorem perform_next {act : Act ω π (List Value)} (facade : act.Facade) {name : String}
    {after : Frame} {left : Machine ω π}
    (taken : frame.perform act name machine = .next after left) :
    after = { frame.spent with locals := after.locals } := by
  have kept := facade.frame ⟨machine, frame.spent, name⟩
  obtain ⟨turn, comes, performs⟩ := perform_performs act name frame machine
  rw [comes] at taken
  cases performs with
  | answered ran =>
    rw [ran] at kept
    cases taken
    exact kept
  | refused => cases taken

/-- An op that sets pending parameters leaves those that it popped. -/
theorem nextParams_next {name : String} {bound : Scope} {after : Frame} {left : Machine ω π}
    (taken : frame.perform (Shuffle.nextParams bound) name machine = .next after left) :
    ∃ fields rest, machine.stack = .obj fields :: rest ∧
      after = { frame.spent with pending := fields } := by
  unfold perform at taken
  rw [Shuffle.nextParams_run] at taken
  cases bound with
  | cons entry rest => cases taken
  | nil =>
    cases holds : machine.stack with
    | nil =>
      rw [holds] at taken
      cases taken
    | cons top rest =>
      rw [holds] at taken
      cases top with
      | obj fields =>
        cases taken
        exact ⟨fields, rest, rfl, rfl⟩
      | _ => cases taken

theorem enter_next {child after : Frame} {left : Machine ω π}
    (taken : frame.enter callee child machine = .next after left) : after = frame.spent := by
  obtain ⟨turn, comes, enters⟩ := enter_enters callee frame child machine
  rw [comes] at taken
  cases enters <;> cases taken
  rfl

theorem dispatch_next (facade : host.Facade) {handler : Handler π} (plain : handler.IsPlain)
    {name : String} {bound : Scope} {after : Frame} {left : Machine ω π}
    (taken : frame.dispatch host callee name bound handler machine = .next after left) :
    after = { frame.advance with locals := after.locals, pending := after.pending } := by
  cases handler with
  | foreign plug =>
    rw [perform_next (facade.op plug bound) taken]
    rfl
  | procedure procedure =>
    rw [enter_next taken]
    rfl
  | builtin op =>
    by_cases next : op = .nextParams
    · subst next
      obtain ⟨fields, rest, _, same⟩ := nextParams_next taken
      rw [same]
      rfl
    · have isPlain : op ∉ Builtin.words := fun isWord => plain op isWord rfl
      rw [perform_next (Builtin.act_facade facade isPlain next bound) taken]
      rfl

/-! ## Elements of run lists -/

theorem perform_ne_ended {act : Act ω π (List Value)} {name : String} :
    frame.perform act name machine ≠ .ended := by
  obtain ⟨turn, comes, performs⟩ := perform_performs act name frame machine
  rw [comes]
  cases performs <;> rintro ⟨⟩

theorem enter_ne_ended {child : Frame} : frame.enter callee child machine ≠ .ended := by
  obtain ⟨turn, comes, enters⟩ := enter_enters callee frame child machine
  rw [comes]
  cases enters <;> rintro ⟨⟩

theorem lt_of_next {after : Frame} {left : Machine ω π}
    (taken : frame.turn host callee machine = .next after left) : frame.pc < frame.ops.length := by
  obtain ⟨turn, comes, turns⟩ := turn_turns host callee frame machine
  rw [comes] at taken
  cases turns with
  | ended => cases taken
  | element found => exact (List.getElem?_eq_some_iff.mp found).1

theorem TakesUp.ne_ended {value : Value} {turn : Turn ω π}
    (takes : frame.TakesUp host callee value machine turn) : turn ≠ .ended := by
  cases takes with
  | malformed => rintro ⟨⟩
  | literal => rintro ⟨⟩
  | unknown => rintro ⟨⟩
  | @dispatched _ _ handler =>
    cases handler with
    | builtin op => exact perform_ne_ended
    | foreign plug => exact perform_ne_ended
    | procedure procedure => exact enter_ne_ended

theorem takeUp_ne_ended {value : Value} : frame.takeUp host callee value machine ≠ .ended := by
  obtain ⟨turn, comes, takes⟩ := takeUp_takesUp host callee value frame machine
  rw [comes]
  exact takes.ne_ended

/-- A run comes to an end where no element is left. -/
theorem ops_of_ended (taken : frame.turn host callee machine = .ended) :
    frame.ops[frame.pc]? = none := by
  obtain ⟨turn, comes, turns⟩ := turn_turns host callee frame machine
  rw [comes] at taken
  cases turns with
  | ended nothing => exact nothing
  | element _ takes => exact absurd taken takes.ne_ended

/-- What a name that is no control word's stands for is no control word. -/
theorem isPlain_of_name {registry : Registry π} (names : registry.NamesWords) {value : Value}
    {name : String} {params : Scope} (classified : Op.classify value = .ok (.invoke name params))
    (isPlain : Op.isWord value = false) {handler : Handler π}
    (found : registry.op name = .ok handler) : handler.IsPlain := by
  rintro op isWord rfl
  have named : Op.name? value = some op.name := by
    rw [← names name op isWord found]
    exact Op.name?_of_classify classified
  have isWord : Op.isWord value = true := by
    simp only [Op.isWord, List.any_eq_true, decide_eq_true_eq]
    exact ⟨op, isWord, named⟩
  rw [isWord] at isPlain
  cases isPlain

section

variable (facade : host.Facade) (names : machine.registry.NamesWords) {value : Value}
  (isPlain : Op.isWord value = false)

include facade names isPlain

/-- An op that is no control word does the same in any run list. -/
theorem takeUp_relist (ops : List Value) (begins : List Nat) :
    (frame.relist ops begins).takeUp host callee value machine =
      (frame.takeUp host callee value machine).onFrame (relist ops begins) := by
  have same : ∀ op, machine.traceStep (frame.relist ops begins) op = machine.traceStep frame op :=
    fun _ => rfl
  unfold takeUp
  split
  · rfl
  · rfl
  · next name params classified =>
    simp only [same]
    split
    · rfl
    · next handler found =>
      rw [Machine.traceStep_registry] at found
      exact dispatch_relist facade (isPlain_of_name names classified isPlain found) _ _ ops begins

/-- After an op that is no control word the activation goes on with the next one. -/
theorem takeUp_next {after : Frame} {left : Machine ω π}
    (taken : frame.takeUp host callee value machine = .next after left) :
    after = { frame.advance with locals := after.locals, pending := after.pending } := by
  obtain ⟨turn, comes, takes⟩ := takeUp_takesUp host callee value frame machine
  rw [comes] at taken
  cases takes with
  | malformed => cases taken
  | literal =>
    cases taken
    rfl
  | unknown => cases taken
  | dispatched classified found =>
    exact dispatch_next facade (isPlain_of_name names classified isPlain found) taken

end

end Frame

end DocMachine
