import DocMachine.Proofs.Invariant
import DocMachine.Proofs.Scans
import DocMachine.Proofs.Steps
import DocMachine.Proofs.Turns

/-!
# Open loops

While a structured program runs, the open loops of its activation are those around the op that comes
next: they can be told from the place of the op alone, whatever the run did before.

* `Frame.IsLevel`: the open loops of a frame are those that a list tells for its program counter.
* `Structured.Holds`: the op that comes next is one of a part of a program.
* `Structured.turn_level`: a turn anywhere in a part of a program keeps that, by induction over the
  part. Breaks go to where the loop around is closed, and restarts to where none is open.

Result: `Structured.reaches_level` for any number of turns.
-/

namespace DocMachine

variable {ω π : Type} {host : Host ω π} {callee : Frame → Machine ω π → Run ω π}

/-- The open loops of the frame are those around the op that comes next. A frame tells a loop by the
first op of its body, which comes after the opening word. -/
def Frame.IsLevel (levels : List (List Nat)) (frame : Frame) : Prop :=
  ∃ around, levels[frame.pc]? = some around ∧ frame.begins = around.map (· + 1)

/-! ## Where words lead -/

namespace Frame

variable {frame after : Frame} {machine left : Machine ω π} {levels : List (List Nat)}

theorem IsLevel.begins {around : List Nat} (level : frame.IsLevel levels)
    (marked : levels[frame.pc]? = some around) : frame.begins = around.map (· + 1) := by
  obtain ⟨around', marked', opened⟩ := level
  rw [marked, Option.some.injEq] at marked'
  rw [marked', opened]

section

variable (binds : machine.registry.BindsWords)

include binds

theorem pending_of_next {op : Builtin} (isWord : op ∈ Builtin.words)
    (taken : frame.takeUp host callee op.word machine = .next after left) : frame.pending = [] := by
  cases pending : frame.pending with
  | nil => rfl
  | cons entry rest =>
    rw [takeUp_refused isWord binds pending] at taken
    cases taken

theorem openIf_next {count : Nat}
    (found : Flow.branchEnd? 0 (frame.ops.drop (frame.pc + 1)) = some count)
    (taken : frame.takeUp host callee Builtin.openIf.word machine = .next after left) :
    after = { frame with pc := frame.pc + 1 } ∨
      after = { frame with pc := frame.pc + 1 + count } := by
  have pending := pending_of_next binds (by decide) taken
  cases holds : machine.stack with
  | nil =>
    rw [takeUp_openIf_nil binds pending holds] at taken
    cases taken
  | cons top rest =>
    cases truth : top.truthy with
    | true =>
      rw [takeUp_openIf_true binds pending holds truth] at taken
      cases taken
      exact .inl rfl
    | false =>
      rw [takeUp_openIf_false binds pending holds truth found] at taken
      cases taken
      exact .inr rfl

theorem continueIf_next {count : Nat}
    (found : Flow.loopEnd? 0 (frame.ops.drop (frame.pc + 1)) = some count)
    (taken : frame.takeUp host callee Builtin.continueIf.word machine = .next after left) :
    after = { frame with pc := frame.pc + 1 } ∨
      after = { frame with pc := frame.pc + 1 + count, begins := frame.begins.tail } := by
  have pending := pending_of_next binds (by decide) taken
  cases holds : machine.stack with
  | nil =>
    rw [takeUp_continueIf_nil binds pending holds] at taken
    cases taken
  | cons top rest =>
    cases truth : top.truthy with
    | true =>
      rw [takeUp_continueIf_true binds pending holds truth] at taken
      cases taken
      exact .inl rfl
    | false =>
      rw [takeUp_continueIf_false binds pending holds truth found] at taken
      cases taken
      exact .inr rfl

end

/-! ## One op -/

section

variable (binds : machine.registry.BindsWords) (level : frame.IsLevel levels) {outer : List Nat}
  (here : levels[frame.pc]? = some outer)
  (taken : frame.turn host callee machine = .next after left)

include binds level here taken

theorem plain_level (facade : host.Facade) {op : Value} (isPlain : Op.isWord op = false)
    (placed : frame.ops[frame.pc]? = some op) (next : levels[frame.pc + 1]? = some outer) :
    after.ops = frame.ops ∧ after.IsLevel levels := by
  simp only [turn, placed] at taken
  rw [takeUp_next facade binds.only isPlain taken]
  exact ⟨rfl, outer, next, level.begins here⟩

theorem openIf_level {count : Nat} (placed : frame.ops[frame.pc]? = some Builtin.openIf.word)
    (found : Flow.branchEnd? 0 (frame.ops.drop (frame.pc + 1)) = some count)
    (next : levels[frame.pc + 1]? = some outer)
    (jump : levels[frame.pc + 1 + count]? = some outer) :
    after.ops = frame.ops ∧ after.IsLevel levels := by
  simp only [turn, placed] at taken
  rcases openIf_next binds found taken with rfl | rfl
  · exact ⟨rfl, outer, next, level.begins here⟩
  · exact ⟨rfl, outer, jump, level.begins here⟩

theorem otherwise_level {count : Nat}
    (placed : frame.ops[frame.pc]? = some Builtin.otherwise.word)
    (found : Flow.blockEnd 0 (frame.ops.drop (frame.pc + 1)) = .ok count)
    (jump : levels[frame.pc + 1 + count]? = some outer) :
    after.ops = frame.ops ∧ after.IsLevel levels := by
  simp only [turn, placed] at taken
  rw [takeUp_otherwise binds (pending_of_next binds (by decide) taken) found] at taken
  cases taken
  exact ⟨rfl, outer, jump, level.begins here⟩

theorem closeIf_level (placed : frame.ops[frame.pc]? = some Builtin.closeIf.word)
    (next : levels[frame.pc + 1]? = some outer) : after.ops = frame.ops ∧ after.IsLevel levels := by
  simp only [turn, placed] at taken
  rw [takeUp_closeIf binds (pending_of_next binds (by decide) taken)] at taken
  cases taken
  exact ⟨rfl, outer, next, level.begins here⟩

theorem openLoop_level (placed : frame.ops[frame.pc]? = some Builtin.openLoop.word)
    (next : levels[frame.pc + 1]? = some (frame.pc :: outer)) :
    after.ops = frame.ops ∧ after.IsLevel levels := by
  simp only [turn, placed] at taken
  rw [takeUp_openLoop binds (pending_of_next binds (by decide) taken)] at taken
  cases taken
  refine ⟨rfl, frame.pc :: outer, next, ?_⟩
  rw [level.begins here]
  rfl

theorem closeLoop_level {loop : Nat} {around : List Nat} (inside : outer = loop :: around)
    (placed : frame.ops[frame.pc]? = some Builtin.closeLoop.word)
    (jump : levels[loop + 1]? = some outer) : after.ops = frame.ops ∧ after.IsLevel levels := by
  simp only [turn, placed] at taken
  have opened := level.begins here
  rw [inside, List.map_cons] at opened
  rw [takeUp_closeLoop binds (pending_of_next binds (by decide) taken) opened] at taken
  cases taken
  exact ⟨rfl, outer, jump, level.begins here⟩

theorem leaveLoop_level (placed : frame.ops[frame.pc]? = some Builtin.leaveLoop.word) {exit : Nat}
    (leaves : frame.LeavesTo (frame.pc + 1) exit) (jump : levels[exit]? = some outer.tail) :
    after.ops = frame.ops ∧ after.IsLevel levels := by
  obtain ⟨count, found, rfl⟩ := leaves
  simp only [turn, placed] at taken
  rw [takeUp_leaveLoop binds (pending_of_next binds (by decide) taken) found] at taken
  cases taken
  refine ⟨rfl, outer.tail, jump, ?_⟩
  rw [level.begins here, List.map_tail]

theorem continueIf_level (placed : frame.ops[frame.pc]? = some Builtin.continueIf.word)
    {exit : Nat} (leaves : frame.LeavesTo (frame.pc + 1) exit)
    (next : levels[frame.pc + 1]? = some outer) (jump : levels[exit]? = some outer.tail) :
    after.ops = frame.ops ∧ after.IsLevel levels := by
  obtain ⟨count, found, rfl⟩ := leaves
  simp only [turn, placed] at taken
  rcases continueIf_next binds found taken with rfl | rfl
  · exact ⟨rfl, outer, next, level.begins here⟩
  · refine ⟨rfl, outer.tail, jump, ?_⟩
    rw [level.begins here, List.map_tail]

omit level here in
theorem recurse_level (placed : frame.ops[frame.pc]? = some Builtin.recurse.word)
    (jump : levels[0]? = some []) : after.ops = frame.ops ∧ after.IsLevel levels := by
  simp only [turn, placed] at taken
  rw [takeUp_recurse binds (pending_of_next binds (by decide) taken)] at taken
  cases taken
  exact ⟨rfl, [], jump, rfl⟩

end

end Frame

/-! ## Levels of parts -/

namespace Structured

variable {inLoop : Bool}

theorem length_loops (program : Structured inLoop) (outer : List Nat) (pc : Nat) :
    (program.loops outer pc).length = program.length := by
  induction program generalizing outer pc with
  | skip | plain | leave | leaveUnless | recurse => rfl
  | seq first second ihFirst ihSecond => simp [loops, ihFirst, ihSecond]
  | cond body ih => simp [loops, ih]
  | choice yes no ihYes ihNo =>
    simp [loops, ihYes, ihNo]
    omega
  | loop body ih => simp [loops, ih]

/-- The first op of a part, or the op after it if it has none, is inside the loops around the
part. -/
theorem loops_head (program : Structured inLoop) (outer : List Nat) (pc : Nat)
    (post : List (List Nat)) :
    ∃ rest, program.loops outer pc ++ outer :: post = outer :: rest := by
  induction program generalizing pc post with
  | skip => exact ⟨post, rfl⟩
  | plain | leave | leaveUnless | recurse => exact ⟨outer :: post, rfl⟩
  | seq first second ihFirst ihSecond =>
    obtain ⟨rest, same⟩ := ihSecond (pc + first.length) post
    rw [loops, List.append_assoc, same]
    exact ihFirst pc rest
  | cond body ih => exact ⟨_, rfl⟩
  | choice yes no ihYes ihNo => exact ⟨_, rfl⟩
  | loop body ih => exact ⟨_, rfl⟩

theorem drop_loops {levels : List (List Nat)} {outer : List Nat} {pc first : Nat}
    {part : Structured inLoop} {post : List (List Nat)}
    (marked : levels.drop pc = part.loops outer first ++ post) :
    levels.drop (pc + part.length) = post := by
  rw [← List.drop_drop, marked, ← length_loops part outer first, List.drop_left]

/-- The loops around a part, the word after it and what comes next: those around the part are around
its first op and around the word. -/
theorem loops_word {levels : List (List Nat)} {outer around : List Nat} {pc first : Nat}
    {part : Structured inLoop} {post : List (List Nat)}
    (marked : levels.drop pc = part.loops outer first ++ outer :: around :: post) :
    levels[pc]? = some outer ∧ levels[pc + part.length]? = some outer ∧
      levels.drop (pc + part.length + 1) = around :: post := by
  obtain ⟨rest, same⟩ := loops_head part outer first (around :: post)
  obtain ⟨last, after⟩ := drop_cons (drop_loops marked)
  exact ⟨(drop_cons (marked.trans same)).1, last, after⟩

/-! ## Parts that hold the next op -/

/-- The op that comes next is one of a part, which stands from `first` on inside the loops `outer`. A
break behind the part closes the innermost of them. -/
structure Holds (part : Structured inLoop) (frame : Frame) (levels : List (List Nat))
    (outer : List Nat) (first : Nat) : Prop where
  placed : ∃ post, frame.ops.drop first = part.flatten ++ post
  marked : ∃ later, levels.drop first = part.loops outer first ++ outer :: later
  leaves : inLoop = true → ∃ exit, frame.LeavesTo (first + part.length) exit ∧
    levels[exit]? = some outer.tail
  ge : first ≤ frame.pc
  lt : frame.pc < first + part.length

variable {levels : List (List Nat)} {outer : List Nat} {first : Nat} {frame after : Frame}
  {machine left : Machine ω π}

/-- A part that is one op is the next op. -/
theorem Holds.here {part : Structured inLoop} (holds : part.Holds frame levels outer first)
    (one : part.length = 1) : first = frame.pc := by
  have ge := holds.ge
  have lt := holds.lt
  omega

theorem Holds.seq {one two : Structured inLoop} (holds : (seq one two).Holds frame levels outer first) :
    one.Holds frame levels outer first ∨ two.Holds frame levels outer (first + one.length) := by
  obtain ⟨⟨post, placed⟩, ⟨later, marked⟩, leaves, ge, lt⟩ := holds
  rw [flatten, List.append_assoc] at placed
  rw [loops, List.append_assoc] at marked
  rw [length_seq, ← Nat.add_assoc] at leaves lt
  have placedTwo := drop_flatten placed
  by_cases before : frame.pc < first + one.length
  · obtain ⟨rest, same⟩ := loops_head two outer (first + one.length) later
    refine .inl ⟨⟨_, placed⟩, ⟨rest, same ▸ marked⟩, fun inside => ?_, ge, before⟩
    obtain ⟨exit, leaves, jump⟩ := leaves inside
    exact ⟨exit, leaves.before placedTwo, jump⟩
  · exact .inr ⟨⟨post, placedTwo⟩, ⟨later, drop_loops marked⟩, leaves, by omega, lt⟩

section

variable (binds : machine.registry.BindsWords) (level : frame.IsLevel levels)
  (taken : frame.turn host callee machine = .next after left)

include binds level taken

theorem cond_level {body : Structured inLoop} (holds : (cond body).Holds frame levels outer first)
    (inner : body.Holds frame levels outer (first + 1) →
      after.ops = frame.ops ∧ after.IsLevel levels) :
    after.ops = frame.ops ∧ after.IsLevel levels := by
  obtain ⟨⟨post, placed⟩, ⟨later, marked⟩, leaves, ge, lt⟩ := holds
  have stands := cond_at placed
  rw [loops, List.cons_append, List.append_assoc, List.singleton_append] at marked
  obtain ⟨hereIf, marked⟩ := drop_cons marked
  obtain ⟨enters, hereEnd, next⟩ := loops_word marked
  rw [past_cond] at lt
  obtain rfl | inside | atEnd : first = frame.pc ∨
      (first + 1 ≤ frame.pc ∧ frame.pc < first + 1 + body.length) ∨
      frame.pc = first + 1 + body.length := by omega
  · exact Frame.openIf_level binds level hereIf taken stands.opens stands.skips enters
      (drop_cons next).1
  · exact inner ⟨⟨_, stands.inside⟩, ⟨_, marked⟩,
      fun inLoop => (leaves inLoop).imp fun _ => And.imp_left stands.leaves, inside.1, inside.2⟩
  · have closes := stands.closes
    rw [← atEnd] at closes hereEnd next
    exact Frame.closeIf_level binds level hereEnd taken closes (drop_cons next).1

theorem choice_level {yes no : Structured inLoop}
    (holds : (choice yes no).Holds frame levels outer first)
    (innerYes : yes.Holds frame levels outer (first + 1) →
      after.ops = frame.ops ∧ after.IsLevel levels)
    (innerNo : no.Holds frame levels outer (first + 1 + yes.length + 1) →
      after.ops = frame.ops ∧ after.IsLevel levels) :
    after.ops = frame.ops ∧ after.IsLevel levels := by
  obtain ⟨⟨post, placed⟩, ⟨later, marked⟩, leaves, ge, lt⟩ := holds
  have stands := choice_at placed
  rw [loops, List.cons_append, List.append_assoc, List.cons_append, List.append_assoc,
    List.singleton_append] at marked
  obtain ⟨hereIf, marked⟩ := drop_cons marked
  have markedNo := (drop_cons (drop_loops marked)).2
  obtain ⟨entersNo, hereEnd, next⟩ := loops_word markedNo
  rw [past_choice] at lt
  -- The op is one of the three words, or inside one of the branches.
  obtain rfl | inYes | isElse | inNo | atEnd : first = frame.pc ∨
      (first + 1 ≤ frame.pc ∧ frame.pc < first + 1 + yes.length) ∨
      frame.pc = first + 1 + yes.length ∨
      (first + 1 + yes.length + 1 ≤ frame.pc ∧
        frame.pc < first + 1 + yes.length + 1 + no.length) ∨
      frame.pc = first + 1 + yes.length + 1 + no.length := by omega
  · obtain ⟨rest, same⟩ := loops_head yes outer (frame.pc + 1) _
    exact Frame.openIf_level binds level hereIf taken stands.opens stands.skipsYes
      (drop_cons (marked.trans same)).1 entersNo
  · exact innerYes ⟨⟨_, stands.insideYes⟩, ⟨_, marked⟩,
      fun inLoop => (leaves inLoop).imp fun _ => And.imp_left stands.leavesYes, inYes.1, inYes.2⟩
  · have turns := stands.turns
    have skips := stands.skipsNo
    have hereElse := (drop_cons (drop_loops marked)).1
    rw [← isElse] at turns skips hereElse next
    exact Frame.otherwise_level binds level hereElse taken turns skips (drop_cons next).1
  · exact innerNo ⟨⟨_, stands.insideNo⟩, ⟨_, markedNo⟩,
      fun inLoop => (leaves inLoop).imp fun _ => And.imp_left stands.leavesNo, inNo.1, inNo.2⟩
  · have closes := stands.closes
    rw [← atEnd] at closes hereEnd next
    exact Frame.closeIf_level binds level hereEnd taken closes (drop_cons next).1

theorem loop_level {body : Structured true}
    (holds : (loop body : Structured inLoop).Holds frame levels outer first)
    (inner : body.Holds frame levels (first :: outer) (first + 1) →
      after.ops = frame.ops ∧ after.IsLevel levels) :
    after.ops = frame.ops ∧ after.IsLevel levels := by
  obtain ⟨⟨post, placed⟩, ⟨later, marked⟩, -, ge, lt⟩ := holds
  have stands := loop_at placed
  rw [loops, List.cons_append, List.append_assoc, List.singleton_append] at marked
  obtain ⟨hereBegin, marked⟩ := drop_cons marked
  obtain ⟨enters, hereEnd, next⟩ := loops_word marked
  rw [past_loop] at lt
  obtain rfl | inside | atEnd : first = frame.pc ∨
      (first + 1 ≤ frame.pc ∧ frame.pc < first + 1 + body.length) ∨
      frame.pc = first + 1 + body.length := by omega
  · exact Frame.openLoop_level binds level hereBegin taken stands.opens enters
  · exact inner ⟨⟨_, stands.inside⟩, ⟨_, marked⟩,
      fun _ => ⟨_, stands.leaves, (drop_cons next).1⟩, inside.1, inside.2⟩
  · have closes := stands.closes
    rw [← atEnd] at closes hereEnd
    exact Frame.closeLoop_level binds level hereEnd taken rfl closes enters

/-- A turn at an op of a part goes on inside the right loops. -/
theorem turn_level (facade : host.Facade) (part : Structured inLoop)
    (holds : part.Holds frame levels outer first) (restarts : levels[0]? = some []) :
    after.ops = frame.ops ∧ after.IsLevel levels := by
  induction part generalizing outer first with
  | skip => exact absurd holds.lt (by simpa using holds.ge)
  | plain op isPlain =>
    obtain rfl := holds.here rfl
    obtain ⟨⟨_, placed⟩, ⟨_, marked⟩, -, -, -⟩ := holds
    obtain ⟨here, next⟩ := drop_cons marked
    exact Frame.plain_level binds level here taken facade isPlain (drop_cons placed).1
      (drop_cons next).1
  | seq one two ihOne ihTwo => exact holds.seq.elim ihOne ihTwo
  | cond body ih => exact cond_level binds level taken holds ih
  | choice yes no ihYes ihNo => exact choice_level binds level taken holds ihYes ihNo
  | loop body ih => exact loop_level binds level taken holds ih
  | leave =>
    obtain rfl := holds.here rfl
    obtain ⟨⟨_, placed⟩, ⟨_, marked⟩, leaves, -, -⟩ := holds
    obtain ⟨exit, leaves, jump⟩ := leaves rfl
    exact Frame.leaveLoop_level binds level (drop_cons marked).1 taken (drop_cons placed).1 leaves
      jump
  | leaveUnless =>
    obtain rfl := holds.here rfl
    obtain ⟨⟨_, placed⟩, ⟨_, marked⟩, leaves, -, -⟩ := holds
    obtain ⟨here, next⟩ := drop_cons marked
    obtain ⟨exit, leaves, jump⟩ := leaves rfl
    exact Frame.continueIf_level binds level here taken (drop_cons placed).1 leaves
      (drop_cons next).1 jump
  | recurse =>
    obtain rfl := holds.here rfl
    obtain ⟨_, placed⟩ := holds.placed
    exact Frame.recurse_level binds taken (drop_cons placed).1 restarts

end

/-! ## Runs -/

/-- Whatever a program has done, the open loops are those around the op that comes next. -/
theorem reaches_level (facade : host.Facade) (keeps : host.KeepsRegistry Registry.BindsWords)
    (program : Structured false) {frame after : Frame} {machine left : Machine ω π}
    (binds : machine.registry.BindsWords)
    (reach : Frame.Reaches host (frame.start program.flatten, machine) (after, left)) :
    after.ops = program.flatten ∧ after.IsLevel (program.loops [] 0 ++ [[]]) ∧
      left.registry.BindsWords := by
  obtain ⟨rest, same⟩ := loops_head program [] 0 []
  have restarts : (program.loops [] 0 ++ [[]])[0]? = some [] := by
    rw [same]
    rfl
  -- The registry is carried along, since a level is told only where the words mean themselves.
  generalize reached : (after, left) = state at reach
  induction reach generalizing after left with
  | refl =>
    cases reached
    exact ⟨rfl, ⟨[], restarts, rfl⟩, binds⟩
  | @tail before _ _ step ih =>
    subst reached
    obtain ⟨ops, level, binds⟩ := ih rfl
    obtain ⟨fuel, taken⟩ := step
    have lt : before.1.pc < 0 + program.length := by
      rw [Nat.zero_add, length, ← ops]
      exact Frame.lt_of_next taken
    have kept : (before.1.turn host (Frame.run host fuel) before.2).Leaves
        fun left => left.registry.BindsWords :=
      Frame.turn_keeps keeps (fun _ _ => Frame.run_keeps keeps fuel) binds
    rw [taken] at kept
    have placed : before.1.ops.drop 0 = program.flatten ++ [] := by
      rw [ops, List.append_nil]
      rfl
    obtain ⟨ops', level'⟩ := turn_level binds level taken facade program
      ⟨⟨[], placed⟩, ⟨[], rfl⟩, (fun inside => by cases inside), Nat.zero_le _, lt⟩ restarts
    exact ⟨ops'.trans ops, level', kept⟩

end Structured

end DocMachine
