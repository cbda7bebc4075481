import DocMachine.Proofs.Steps
import DocMachine.Proofs.Words

/-!
# What a turn comes to

A handler, a call and a turn each come to one of a few things. They are listed here, each with what
led to it, and what a turn keeps, reports or refuses is then shown by cases on the list.

* `Frame.Performs`: a handler answers or refuses.
* `Frame.Enters`: a call is too deep, or it comes to what its callee comes to.
* `Frame.Invokes`: the next element is an op that has a handler.
* `Frame.TakesUp`: an element is malformed, a literal, an op without a handler, or an op whose
  handler takes over.
* `Frame.Turns`: the run list is done, or its next element is taken up.

Results:
1. `Frame.perform_performs`, `Frame.enter_enters`, `Frame.takeUp_takesUp` and `Frame.turn_turns`:
   the lists are complete.
-/

namespace DocMachine

variable {ω π : Type} {host : Host ω π}

theorem Registry.op_error {registry : Registry π} {name : String} {fault : Fault}
    (unknown : registry.op name = .error fault) : fault = .unknownOp name := by
  unfold op at unknown
  split at unknown
  · cases unknown
  · cases unknown
    rfl

namespace Frame

/-! ## Handlers -/

/-- What running the handler `act` may come to. -/
inductive Performs (act : Act ω π (List Value)) (name : String) (frame : Frame)
    (machine : Machine ω π) : Turn ω π → Prop
  | answered {values : List Value} {call : Call ω π} :
      act.run.run ⟨machine, frame.spent, name⟩ = (.ok values, call) →
      Performs act name frame machine (.next call.frame (call.machine.pushAll values))
  | refused {fault : Fault} {call : Call ω π} :
      act.run.run ⟨machine, frame.spent, name⟩ = (.error fault, call) →
      Performs act name frame machine (call.frame.fail fault call.machine)

theorem perform_performs (act : Act ω π (List Value)) (name : String) (frame : Frame)
    (machine : Machine ω π) : ∃ turn, frame.perform act name machine = turn ∧
      frame.Performs act name machine turn := by
  refine ⟨_, rfl, ?_⟩
  unfold perform
  split
  · next ran => exact .answered ran
  · next ran => exact .refused ran

/-! ## Calls -/

/-- What calling a procedure, whose activation starts as `child`, may come to.

* `deep`: the call would be too deep, and is not made.
* `returned`, `failed` and `starved`: the callee came to an end, failed, or used up its budget. -/
inductive Enters (callee : Frame → Machine ω π → Run ω π) (frame child : Frame)
    (machine : Machine ω π) : Turn ω π → Prop
  | deep : machine.maxDepth < child.depth →
      Enters callee frame child machine
        (frame.spent.fail (.stackOverflow machine.maxDepth) machine)
  | returned {inner : Run ω π} : child.depth ≤ machine.maxDepth →
      callee child (machine.emit (.enter child.name child.depth)) = inner →
      inner.outcome = .ok () → Enters callee frame child machine
        (.next frame.spent (inner.machine.emit (.exit child.name child.depth)))
  | failed {inner : Run ω π} {failure : Failure} : child.depth ≤ machine.maxDepth →
      callee child (machine.emit (.enter child.name child.depth)) = inner →
      inner.outcome = .error (.failed failure) → Enters callee frame child machine
        (.stop (.failed (failure.through frame.site)) frame.spent inner.machine)
  | starved {inner : Run ω π} : child.depth ≤ machine.maxDepth →
      callee child (machine.emit (.enter child.name child.depth)) = inner →
      inner.outcome = .error .starved → Enters callee frame child machine
        (.stop .starved frame.spent inner.machine)

theorem enter_enters (callee : Frame → Machine ω π → Run ω π) (frame child : Frame)
    (machine : Machine ω π) : ∃ turn, frame.enter callee child machine = turn ∧
      frame.Enters callee child machine turn := by
  refine ⟨_, rfl, ?_⟩
  unfold enter
  split
  · next deep => exact .deep deep
  · next shallow =>
    have shallow := Nat.le_of_not_lt shallow
    simp only [taken_spent]
    split
    · next returned => exact .returned shallow rfl returned
    · next failed => exact .failed shallow rfl failed
    · next starved => exact .starved shallow rfl starved

/-! ## Turns -/

/-- The op that comes next is an invocation of `name`, which stands for `handler`. -/
def Invokes (frame : Frame) (machine : Machine ω π) (name : String) (params : Scope)
    (handler : Handler π) : Prop :=
  ∃ value, frame.ops[frame.pc]? = some value ∧ Op.classify value = .ok (.invoke name params) ∧
    machine.registry.op name = .ok handler

/-- What taking up an element may come to.

* `malformed`: the element is neither an op nor a literal.
* `literal`: it is pushed.
* `unknown`: it is an op for whose name the machine has no handler.
* `dispatched`: the handler takes over, in the machine that has traced the op. -/
inductive TakesUp (host : Host ω π) (callee : Frame → Machine ω π → Run ω π) (value : Value)
    (frame : Frame) (machine : Machine ω π) : Turn ω π → Prop
  | malformed {fault : ProcedureFault} : Op.classify value = .error fault →
      TakesUp host callee value frame machine
        (frame.advance.fail (.invalidProcedure fault) machine)
  | literal {pushed : Value} : Op.classify value = .ok (.literal pushed) →
      TakesUp host callee value frame machine (.next frame.advance
        ((machine.traceStep frame (Op.literal pushed).traceName).pushAll [pushed]))
  | unknown {name : String} {params : Scope} {fault : Fault} :
      Op.classify value = .ok (.invoke name params) → machine.registry.op name = .error fault →
      TakesUp host callee value frame machine
        (frame.advance.fail fault (machine.traceStep frame name))
  | dispatched {name : String} {params : Scope} {handler : Handler π} :
      Op.classify value = .ok (.invoke name params) → machine.registry.op name = .ok handler →
      TakesUp host callee value frame machine (frame.dispatch host callee name
        (frame.pending.extend (Op.bindings params)) handler (machine.traceStep frame name))

/-- What a turn may come to: the run list is done, or its next element is taken up. -/
inductive Turns (host : Host ω π) (callee : Frame → Machine ω π → Run ω π) (frame : Frame)
    (machine : Machine ω π) : Turn ω π → Prop
  | ended : frame.ops[frame.pc]? = none → Turns host callee frame machine .ended
  | element {value : Value} {turn : Turn ω π} : frame.ops[frame.pc]? = some value →
      TakesUp host callee value frame machine turn → Turns host callee frame machine turn

theorem takeUp_takesUp (host : Host ω π) (callee : Frame → Machine ω π → Run ω π) (value : Value)
    (frame : Frame) (machine : Machine ω π) :
    ∃ turn, frame.takeUp host callee value machine = turn ∧
      frame.TakesUp host callee value machine turn := by
  refine ⟨_, rfl, ?_⟩
  unfold takeUp
  split
  · next refused => exact .malformed refused
  · next classified => exact .literal classified
  · next name params classified =>
    simp only [Machine.traceStep_registry]
    split
    · next unknown => exact .unknown classified unknown
    · next resolved => exact .dispatched classified resolved

theorem turn_turns (host : Host ω π) (callee : Frame → Machine ω π → Run ω π) (frame : Frame)
    (machine : Machine ω π) : ∃ turn, frame.turn host callee machine = turn ∧
      frame.Turns host callee machine turn := by
  refine ⟨_, rfl, ?_⟩
  unfold turn
  split
  · next nothing => exact .ended nothing
  · next value found =>
    obtain ⟨turn, comes, takes⟩ := takeUp_takesUp host callee value frame machine
    rw [comes]
    exact .element found takes

end Frame

end DocMachine
