import DocMachine.Proofs.Includes
import DocMachine.Proofs.Invariant
import DocMachine.Proofs.Places
import DocMachine.Proofs.Typed
import Mathlib

/-!
# Line by line and all at once

Values that are typed line by line do the same as the list of these values in a document, unless one
of them is a control word, which works on the list that it stands in.

* `Session.script` are the lines of values.
* `Session.Same`: the sessions are the same but for the place of the root and the trace.
* `Session.Concur`: both ways are done, or both fail at the same value.
* `Session.Abreast`: both ways have come to the same value.

Results:
1. `Session.Abreast.next`: from one value to the next.
2. `Session.Abreast.of_run` and `Session.Abreast.of_repl`: if one of the ways comes to an end, so does
   the other, and they concur.
3. `Session.repl_concurs`: the same for whole lists.
-/

namespace DocMachine

variable {ω π : Type} {host : Host ω π}

/-! ## Lists as documents -/

/-- A document that is nothing but a list of ops. -/
theorem Procedure.ofValue_run {values : List Value}
    (valid : ∀ v ∈ values, ∃ op, Op.classify v = .ok op) :
    ofValue (.obj [("run", .arr values)]) = .ok { run := values } := by
  have read : Param.record {} field [("run", .arr values)] = .ok { run := values } := by
    show ((Param.sequence TestCase.anything (.arr values) >>= fun run => pure ⟨[], [], [], run, []⟩ :
      Param.Read Procedure) >>= pure) = _
    rw [sequence_anything]
    rfl
  have checked : (values.forM fun value => Op.classify value >>= fun _ => pure ()) = .ok () := by
    clear read
    induction values with
    | nil => rfl
    | cons v rest ih =>
      obtain ⟨op, classified⟩ := valid v List.mem_cons_self
      have later := ih fun v listed => valid v (List.mem_cons_of_mem _ listed)
      show (Op.classify v >>= fun _ => pure ()) >>= (fun _ => _) = _
      rw [classified]
      exact later
  rw [ofValue_obj, read]
  simp only
  rw [checked]
  rfl

namespace Session

/-- Running a list in a document is running it at the root. -/
theorem exec_list {values : List Value} (valid : ∀ v ∈ values, ∃ op, Op.classify v = .ok op)
    (fuel : Nat) (session : Session ω π) :
    (exec host (fuel + 1) (.obj [("run", .arr values)])).run.run session =
      let run := (session.root.start values).run host (fuel + 1) session.machine
      (run.outcome, { session with machine := run.machine, root := run.frame }) := by
  rw [exec_run, Procedure.ofValue_run valid]
  rfl

end Session

/-! ## Single values -/

namespace Frame

variable {root frame : Frame} {machine left : Machine ω π} {value : Value} {fuel : Nat}

/-- A value that is run alone is all there is to run. -/
theorem run_alone (facade : host.Facade) (names : machine.registry.NamesWords)
    (isPlain : Op.isWord value = false)
    (taken : (root.start [value]).takeUp host (run host fuel) value machine = .next frame left) :
    (root.start [value]).run host (fuel + 1) machine =
      ⟨if fuel = 0 then .error .starved else .ok (), frame, left⟩ := by
  have same := takeUp_next facade names isPlain taken
  have turned : (root.start [value]).turn host (run host fuel) machine = .next frame left := taken
  rw [run_succ, turned]
  cases fuel with
  | zero => rfl
  | succ fuel =>
    have atEnd : frame.turn host (run host fuel) left = .ended := by
      rw [same]
      rfl
    simp only [run_succ, atEnd]
    rfl

theorem run_alone_stop {stop : Stop}
    (taken : (root.start [value]).takeUp host (run host fuel) value machine =
      .stop stop frame left) :
    (root.start [value]).run host (fuel + 1) machine = ⟨.error stop, frame, left⟩ := by
  have turned : (root.start [value]).turn host (run host fuel) machine = .stop stop frame left :=
    taken
  rw [run_succ, turned]

end Frame

namespace Session

/-! ## Both ways -/

/-- The lines of values. -/
def script (values : List Value) : List UInt8 :=
  Text.lineBytes (values.map Json.compact)

/-- The sessions are the same but for the place of the root and the trace. -/
structure Same (one other : Session ω π) : Prop where
  root : one.root.Beside other.root
  machine : one.machine.quiet = other.machine.quiet
  loading : one.loading = other.loading

/-- What came of typing values one by one, and what came of running them as a list. Both are done, or
both fail at the same value, with the same fault and the same activations inside of the root; and
they leave the same session. -/
inductive Concur (host : Host ω π) (fuel : Nat) (values : List Value) (session : Session ω π) :
    Except Stop Unit × Session ω π → Except Stop Unit × Session ω π → Prop
  | done {typed listed : Session ω π} : typed.Same listed →
      Concur host fuel values session (.ok (), typed) (.ok (), listed)
  | failed {before typed listed : Session ω π} (index : Nat) (value : Value) (fault : Fault)
      (inner : List Site) : values[index]? = some value →
      (repl host fuel (script (values.take index))).run.run session = (.ok (), before) →
      (eval host fuel (Json.compact value)).run.run before =
        (.error (.failed ⟨fault, inner ++ [⟨session.root.name, 0⟩]⟩), typed) →
      typed.Same listed →
      Concur host fuel values session
        (.error (.failed ⟨fault, inner ++ [⟨session.root.name, 0⟩]⟩), typed)
        (.error (.failed ⟨fault, inner ++ [⟨session.root.name, index⟩]⟩), listed)

/-- The values `done` have been typed, and the list stands at the values after them. -/
structure Abreast (host : Host ω π) (fuel : Nat) (values : List Value) (session : Session ω π)
    (done rest : List Value) (before : Session ω π) (frame : Frame) (machine : Machine ω π) :
    Prop where
  split : values = done ++ rest
  typed : (repl host fuel (script done)).run.run session = (.ok (), before)
  root : before.root.Beside frame
  quiet : before.machine.quiet = machine.quiet
  loading : before.loading = session.loading
  names : machine.registry.NamesWords
  ops : frame.ops = values
  pc : frame.pc = done.length
  name : frame.name = session.root.name

section

variable {fuel : Nat} {values done rest : List Value} {value : Value} {session before : Session ω π}
  {frame after : Frame} {machine left : Machine ω π}

/-- What is typed after other values starts from what these left. -/
theorem repl_append (fits : ∀ v ∈ done ++ rest, Json.Fits Json.maxDepth v) :
    (repl host fuel (script (done ++ rest))).run.run session =
      match (repl host fuel (script done)).run.run session with
      | (.ok _, left) => (repl host fuel (script rest)).run.run left
      | (.error stop, left) => (.error stop, left) := by
  have first := fun v listed => fits v (List.mem_append_left rest listed)
  have second := fun v listed => fits v (List.mem_append_right done listed)
  simp only [script]
  rw [repl_compact fits, repl_compact first, repl_compact second, forM_append_run]
  rfl

namespace Abreast

theorem mem (abreast : Abreast host fuel values session done (value :: rest) before frame machine) :
    value ∈ values := by
  rw [abreast.split]
  exact List.mem_append_right done List.mem_cons_self

theorem names_before (abreast : Abreast host fuel values session done rest before frame machine) :
    before.machine.registry.NamesWords := by
  rw [Machine.quiet_registry abreast.quiet]
  exact abreast.names

/-- The value that comes next does the same both ways. -/
theorem takes (facade : host.Facade) (plain : ∀ v ∈ values, Op.isWord v = false)
    (abreast : Abreast host fuel values session done (value :: rest) before frame machine)
    (callee : Nat) :
    Turn.Alike Frame.Beside ⟨session.root.name, 0⟩ ⟨session.root.name, done.length⟩
      ((before.root.start [value]).takeUp host (Frame.run host callee) value before.machine)
      (frame.takeUp host (Frame.run host callee) value machine) := by
  have beside : (before.root.start [value]).Beside frame :=
    ⟨abreast.root.name, abreast.root.depth, abreast.root.locals, abreast.root.pending⟩
  -- What the value calls starts from the same activation on both machines.
  have alike := Frame.takeUp_alike facade Frame.likeness_beside (Frame.run_alike facade callee)
    (.inr ⟨abreast.names_before, plain value abreast.mem⟩) beside abreast.quiet
  have one : (before.root.start [value]).site = ⟨session.root.name, 0⟩ := by
    rw [Frame.site, beside.name, abreast.name]
    rfl
  have other : frame.site = ⟨session.root.name, done.length⟩ := by
    rw [Frame.site, abreast.name, abreast.pc]
  rwa [one, other] at alike

/-- If the list goes on, so does the value alone, unless no fuel is left to see its end. -/
theorem ran_next (facade : host.Facade) (plain : ∀ v ∈ values, Op.isWord v = false)
    (abreast : Abreast host (fuel + 1) values session done (value :: rest) before frame machine)
    (taken : frame.takeUp host (Frame.run host fuel) value machine = .next after left) :
    ∃ root machine', (runRoot host (fuel + 1) [value]).run.run before =
        (if fuel = 0 then .error .starved else .ok (), { before with machine := machine', root }) ∧
      root.Beside after ∧ machine'.quiet = left.quiet := by
  have alike := abreast.takes facade plain fuel
  rw [taken] at alike
  generalize alone : (before.root.start [value]).takeUp host (Frame.run host fuel) value
    before.machine = turn at alike
  cases alike with
  | @next root _ machine' _ beside quiet =>
    refine ⟨root, machine', ?_, beside, quiet⟩
    rw [runRoot_run, Frame.run_alone facade abreast.names_before (plain value abreast.mem) alone]

section

variable (fits : ∀ v ∈ values, Json.Fits Json.maxDepth v)

include fits

/-- What is left to type starts from what was typed before. -/
theorem typed_from (abreast : Abreast host fuel values session done rest before frame machine)
    {more : List Value} (among : ∃ later, values = done ++ more ++ later) :
    (repl host fuel (script (done ++ more))).run.run session =
      (more.forM fun v => runRoot host fuel [v]).run.run before := by
  obtain ⟨later, rfl⟩ := among
  have listed := fun v listed => fits v (List.mem_append_left later listed)
  have moreFits := fun v among => listed v (List.mem_append_right done among)
  rw [repl_append listed, abreast.typed]
  simp only [script]
  rw [repl_compact moreFits]

/-- Both ways go on with the value after. -/
theorem next (facade : host.Facade) (keeps : host.KeepsRegistry Registry.NamesWords)
    (plain : ∀ v ∈ values, Op.isWord v = false)
    (abreast : Abreast host (fuel + 2) values session done (value :: rest) before frame machine)
    (taken : frame.takeUp host (Frame.run host (fuel + 1)) value machine = .next after left) :
    ∃ typed, Abreast host (fuel + 2) values session (done ++ [value]) rest typed after left := by
  have advanced := Frame.takeUp_next facade abreast.names (plain value abreast.mem) taken
  have kept : (frame.takeUp host (Frame.run host (fuel + 1)) value machine).Leaves fun left =>
      left.registry.NamesWords :=
    Frame.takeUp_keeps keeps (fun _ _ => Frame.run_keeps keeps (fuel + 1)) abreast.names
  rw [taken] at kept
  obtain ⟨root, machine', ran, beside, quiet⟩ := abreast.ran_next facade plain taken
  refine ⟨{ before with machine := machine', root }, ?_⟩
  exact
    { split := by rw [abreast.split, List.append_assoc, List.singleton_append]
      typed := by
        rw [abreast.typed_from fits ⟨rest, by rw [abreast.split]; simp⟩]
        show (runRoot host (fuel + 2) [value] >>= fun _ => pure ()).run.run before = _
        rw [run_bind, ran]
        rfl
      root := beside
      quiet := quiet
      loading := abreast.loading
      names := kept
      ops := by
        rw [advanced]
        exact abreast.ops
      pc := by
        rw [advanced, List.length_append]
        exact congrArg (· + 1) abreast.pc
      name := by
        rw [advanced]
        exact abreast.name }

/-- What typing the rest comes to. -/
theorem whole (abreast : Abreast host fuel values session done (value :: rest) before frame machine) :
    (repl host fuel (script values)).run.run session =
      (runRoot host fuel [value] >>= fun _ => rest.forM fun v => runRoot host fuel [v]).run.run
        before := by
  have all := abreast.typed_from fits ⟨[], by rw [List.append_nil]; exact abreast.split⟩
  rwa [← abreast.split] at all

/-- Both ways fail at the same value. -/
theorem failed (facade : host.Facade) (plain : ∀ v ∈ values, Op.isWord v = false)
    (abreast : Abreast host (fuel + 1) values session done (value :: rest) before frame machine)
    {failure : Failure}
    (taken : frame.takeUp host (Frame.run host fuel) value machine =
      .stop (.failed failure) after left) :
    Concur host (fuel + 1) values session ((repl host (fuel + 1) (script values)).run.run session)
      (.error (.failed failure), { session with machine := left, root := after }) := by
  have alike := abreast.takes facade plain fuel
  rw [taken] at alike
  generalize alone : (before.root.start [value]).takeUp host (Frame.run host fuel) value
    before.machine = turn at alike
  cases alike with
  | @failed fault inner root _ machine' _ beside quiet =>
    have ran : (runRoot host (fuel + 1) [value]).run.run before =
        (.error (.failed ⟨fault, inner ++ [⟨session.root.name, 0⟩]⟩),
          { before with machine := machine', root }) := by
      rw [runRoot_run, Frame.run_alone_stop alone]
    have place : values[done.length]? = some value := by
      rw [abreast.split, List.getElem?_append_right (Nat.le_refl _), Nat.sub_self]
      rfl
    have reached : (repl host (fuel + 1) (script (values.take done.length))).run.run session =
        (.ok (), before) := by
      rw [abreast.split, List.take_left]
      exact abreast.typed
    have line := ran
    rw [← eval_compact (fits value abreast.mem)] at line
    rw [abreast.whole fits, run_bind, ran]
    exact .failed done.length value fault inner place reached line ⟨beside, quiet, abreast.loading⟩

/-- If the list is starved of a callee, so is the line. -/
theorem starved (facade : host.Facade) (plain : ∀ v ∈ values, Op.isWord v = false)
    (abreast : Abreast host (fuel + 1) values session done (value :: rest) before frame machine)
    (taken : frame.takeUp host (Frame.run host fuel) value machine = .stop .starved after left) :
    ((repl host (fuel + 1) (script values)).run.run session).1 = .error .starved := by
  have alike := abreast.takes facade plain fuel
  rw [taken] at alike
  generalize alone : (before.root.start [value]).takeUp host (Frame.run host fuel) value
    before.machine = turn at alike
  cases alike with
  | starved beside quiet =>
    rw [abreast.whole fits, run_bind, runRoot_run, Frame.run_alone_stop alone]

/-- A line that leaves no fuel to see its end is starved. -/
theorem next_starved (facade : host.Facade) (plain : ∀ v ∈ values, Op.isWord v = false)
    (abreast : Abreast host 1 values session done (value :: rest) before frame machine)
    (taken : frame.takeUp host (Frame.run host 0) value machine = .next after left) :
    ((repl host 1 (script values)).run.run session).1 = .error .starved := by
  obtain ⟨root, machine', ran, -⟩ := abreast.ran_next facade plain taken
  rw [abreast.whole fits, run_bind, ran]
  rfl

omit fits in
/-- Both ways come to the end of the list. -/
theorem ended (abreast : Abreast host fuel values session done [] before frame machine) :
    Concur host fuel values session ((repl host fuel (script values)).run.run session)
      (.ok (), { session with machine, root := frame }) := by
  have all : values = done := by rw [abreast.split, List.append_nil]
  rw [show script values = script done by rw [all], abreast.typed]
  exact .done ⟨abreast.root, abreast.quiet, abreast.loading⟩

end

theorem turn_nil {callee : Frame → Machine ω π → Run ω π}
    (abreast : Abreast host fuel values session done [] before frame machine) :
    frame.turn host callee machine = .ended := by
  have atEnd : frame.ops[frame.pc]? = none := by
    rw [abreast.ops, abreast.pc, abreast.split, List.append_nil]
    exact List.getElem?_eq_none (Nat.le_refl _)
  rw [Frame.turn, atEnd]

theorem turn_cons {callee : Frame → Machine ω π → Run ω π}
    (abreast : Abreast host fuel values session done (value :: rest) before frame machine) :
    frame.turn host callee machine = frame.takeUp host callee value machine := by
  have next : frame.ops[frame.pc]? = some value := by
    rw [abreast.ops, abreast.pc, abreast.split, List.getElem?_append_right (Nat.le_refl _),
      Nat.sub_self]
    rfl
  rw [Frame.turn, next]

section

variable (facade : host.Facade) (keeps : host.KeepsRegistry Registry.NamesWords)
  (fits : ∀ v ∈ values, Json.Fits Json.maxDepth v) (plain : ∀ v ∈ values, Op.isWord v = false)

include facade keeps fits plain

/-- If the list comes to an end, so do the lines, with a little more fuel. -/
theorem of_run {budget : Nat} (less : budget < fuel)
    (abreast : Abreast host fuel values session done rest before frame machine)
    (finished : (frame.run host budget machine).Finished) :
    Concur host fuel values session ((repl host fuel (script values)).run.run session)
      ((frame.run host budget machine).outcome,
        { session with
          machine := (frame.run host budget machine).machine
          root := (frame.run host budget machine).frame }) := by
  induction rest generalizing budget done before frame machine with
  | nil =>
    cases budget with
    | zero => exact absurd finished (Frame.run_zero_not_finished _ _)
    | succ budget =>
      rw [Frame.run_succ, abreast.turn_nil]
      exact abreast.ended
  | cons value rest ih =>
    cases budget with
    | zero => exact absurd finished (Frame.run_zero_not_finished _ _)
    | succ budget =>
      obtain ⟨fuel, rfl⟩ : ∃ more, fuel = more + 2 := ⟨fuel - 2, by omega⟩
      have settled := Frame.turn_settled finished
      rw [abreast.turn_cons] at settled
      -- The line has more fuel for what the value calls, which makes no difference.
      have same : frame.takeUp host (Frame.run host (fuel + 1)) value machine =
          frame.takeUp host (Frame.run host budget) value machine :=
        Frame.takeUp_mono (fun _ _ => Frame.run_mono (by omega)) settled
      rw [Frame.run_succ, abreast.turn_cons, ← same] at finished ⊢
      cases taken : frame.takeUp host (Frame.run host (fuel + 1)) value machine with
      | ended => exact absurd taken Frame.takeUp_ne_ended
      | next after left =>
        rw [taken] at finished
        obtain ⟨typed, further⟩ := abreast.next fits facade keeps plain taken
        exact ih (by omega) further finished
      | stop stop after left =>
        rw [taken] at finished
        cases stop with
        | failed failure => exact abreast.failed fits facade plain taken
        | starved => exact absurd rfl finished

/-- If the lines come to an end, so does the list. -/
theorem of_repl (abreast : Abreast host fuel values session done rest before frame machine)
    (finished : ((repl host fuel (script values)).run.run session).1 ≠ .error .starved) :
    ∃ run, Frame.Ends host (frame, machine) run ∧
      Concur host fuel values session ((repl host fuel (script values)).run.run session)
        (run.outcome, { session with machine := run.machine, root := run.frame }) := by
  induction rest generalizing done before frame machine with
  | nil =>
    refine ⟨⟨.ok (), frame, machine⟩, ⟨⟨1, ?_⟩, by simp [Run.Finished]⟩, abreast.ended⟩
    rw [Frame.run_succ, abreast.turn_nil]
  | cons value rest ih =>
    cases fuel with
    | zero =>
      rw [abreast.whole fits, run_bind, runRoot_run] at finished
      exact absurd rfl finished
    | succ fuel =>
      cases taken : frame.takeUp host (Frame.run host fuel) value machine with
      | ended => exact absurd taken Frame.takeUp_ne_ended
      | next after left =>
        have step : Frame.Steps host (frame, machine) (after, left) :=
          ⟨fuel, abreast.turn_cons.trans taken⟩
        cases fuel with
        -- The line has to see its own end, which the list need not.
        | zero => exact absurd (abreast.next_starved fits facade plain taken) finished
        | succ fuel =>
          obtain ⟨typed, further⟩ := abreast.next fits facade keeps plain taken
          obtain ⟨run, ends, concur⟩ := ih further
          exact ⟨run, step.ends ends, concur⟩
      | stop stop after left =>
        cases stop with
        | failed failure =>
          refine ⟨⟨.error (.failed failure), after, left⟩, ⟨⟨fuel + 1, ?_⟩, by simp [Run.Finished]⟩,
            abreast.failed fits facade plain taken⟩
          rw [Frame.run_succ, abreast.turn_cons, taken]
        | starved => exact absurd (abreast.starved fits facade plain taken) finished

end

theorem start (fuel : Nat) (values : List Value) {session : Session ω π}
    (names : session.machine.registry.NamesWords) :
    Abreast host fuel values session [] values session (session.root.start values)
      session.machine where
  split := rfl
  typed := rfl
  root := ⟨rfl, rfl, rfl, rfl⟩
  quiet := rfl
  loading := rfl
  names := names
  ops := rfl
  pc := rfl
  name := rfl

end Abreast

end

/-- Values that are typed line by line, and the list of these values in a document: if one of the two
comes to an end, so does the other, and they concur. No JSON is taken for an import or a URI. -/
theorem repl_concurs (facade : host.Facade) (keeps : host.KeepsRegistry Registry.NamesWords)
    {values : List Value} (fits : ∀ v ∈ values, Json.Fits Json.maxDepth v)
    (valid : ∀ v ∈ values, ∃ op, Op.classify v = .ok op)
    (plain : ∀ v ∈ values, Op.isWord v = false) (session : Session ω π)
    (names : session.machine.registry.NamesWords) :
    (∀ fuel, ((repl host fuel (script values)).run.run session).1 ≠ .error .starved →
      ∃ enough, Concur host fuel values session
        ((repl host fuel (script values)).run.run session)
        ((exec host enough (.obj [("run", .arr values)])).run.run session)) ∧
    (∀ fuel, ((exec host fuel (.obj [("run", .arr values)])).run.run session).1 ≠ .error .starved →
      ∃ enough, Concur host enough values session
        ((repl host enough (script values)).run.run session)
        ((exec host fuel (.obj [("run", .arr values)])).run.run session)) ∧
    ∀ text v, Json.parse? text = some v → importOf? text = none ∧ isProcedureUri text = false := by
  refine ⟨fun fuel finished => ?_, fun fuel finished => ?_, fun text v denotes => ?_⟩
  · obtain ⟨run, ⟨⟨enough, rfl⟩, finished⟩, concur⟩ :=
      (Abreast.start fuel values names).of_repl facade keeps fits plain finished
    cases enough with
    | zero => exact absurd finished (Frame.run_zero_not_finished _ _)
    | succ enough =>
      refine ⟨enough + 1, ?_⟩
      rw [exec_list valid]
      exact concur
  · cases fuel with
    | zero =>
      rw [exec_run, Procedure.ofValue_run valid] at finished
      exact absurd rfl finished
    | succ fuel =>
      refine ⟨fuel + 2, ?_⟩
      rw [exec_list valid] at finished ⊢
      exact (Abreast.start (fuel + 2) values names).of_run facade keeps fits plain
        (Nat.lt_succ_self _) finished
  · exact ⟨importOf?_json denotes, isProcedureUri_json denotes⟩

/-- The first two lines set a pending parameter, and the third names an unknown op. It fails as the
third element of the list does, and the parameter is still pending. -/
theorem repl_concurs_pending :
    let values : List Value := [.obj [("a\n", .arr [.int (-7)])],
      .obj [("op", .str "set_next_params")], .obj [("op", .str "f")]]
    let session : Session (World Unit) (Plug Empty) :=
      { machine := { registry := Registry.builtins, console := false, world := { guest := () } } }
    ((exec (Standard.host Standard.noGuests) 4 (.obj [("run", .arr values)])).run.run session).1 =
        .error (.failed ⟨.unknownOp "f", [⟨"root", 2⟩]⟩) ∧
      ∃ fuel typed, (repl (Standard.host Standard.noGuests) fuel (script values)).run.run session =
          (.error (.failed ⟨.unknownOp "f", [⟨"root", 0⟩]⟩), typed) ∧
        typed.root.pending = [("a\n", .arr [.int (-7)])] := by
  intro values session
  have fits : ∀ v ∈ values, Json.Fits Json.maxDepth v := by
    have item : Json.Fits 125 (.int (-7)) := .int 125 (by decide) (by decide)
    have first : Json.Fits Json.maxDepth (.obj [("a\n", .arr [.int (-7)])]) :=
      .obj (by decide) (by simpa using .arr (by simpa using item))
    have op : ∀ name, Json.Fits Json.maxDepth (.obj [("op", .str name)]) :=
      fun name => .obj (by simp [Table.keys]) (by simpa using .str 126 name)
    simpa [values] using ⟨first, op "set_next_params", op "f"⟩
  have valid : ∀ v ∈ values, ∃ op, Op.classify v = .ok op := by
    simpa [values] using ⟨⟨_, rfl⟩, ⟨_, rfl⟩, ⟨_, rfl⟩⟩
  have plain : ∀ v ∈ values, Op.isWord v = false := by decide
  have failed : ((exec (Standard.host Standard.noGuests) 4 (.obj [("run", .arr values)])).run.run
      session).1 = .error (.failed ⟨.unknownOp "f", [⟨"root", 2⟩]⟩) := by cbv
  have pending : ((exec (Standard.host Standard.noGuests) 4 (.obj [("run", .arr values)])).run.run
      session).2.root.pending = [("a\n", .arr [.int (-7)])] := by cbv
  obtain ⟨fuel, concur⟩ := (repl_concurs (Standard.host_facade Standard.noGuests_facade)
    (Standard.host_keeps Standard.noGuests_keeps) fits valid plain session
    Registry.builtins_bindsWords.only).2.1 4 (by rw [failed]; simp)
  refine ⟨failed, fuel, ?_⟩
  generalize (exec (Standard.host Standard.noGuests) 4 (.obj [("run", .arr values)])).run.run
    session = listed at concur failed pending
  generalize (repl (Standard.host Standard.noGuests) fuel (script values)).run.run session =
    typed at concur ⊢
  cases concur with
  | done same => cases failed
  | failed index value fault inner place reached line same =>
    simp only [Except.error.injEq, Stop.failed.injEq, Failure.mk.injEq] at failed
    obtain ⟨rfl, trail⟩ := failed
    obtain ⟨rfl, -⟩ := List.append_eq_singleton_iff.mp trail |>.resolve_right (by simp)
    exact ⟨_, rfl, same.root.pending.trans pending⟩

end Session

end DocMachine
