import DocMachine.Proofs.Structured

/-!
# Searches over structured code

A control word that looks for its partner passes over whole parts of a program: blocks open and
close inside a part, so the count of open blocks is the same on both sides of it.

* `Flow.Search` is what the three searches have in common: some words open a block, some close
  one, and everything else is passed over.

* `Frame.LeavesTo` tells where a break goes on.
* `Structured.CondAt`, `Structured.ChoiceAt` and `Structured.LoopAt` tell where the parts of a block
  stand in a run list.

Result: `Flow.Search.flatten` for any search, with an instance for each of the three.
-/

namespace DocMachine

/-! ## One element -/

/-- An op that is no control word does not have the name of one. -/
theorem Op.name?_ne_of_plain {value : Value} (isPlain : Op.isWord value = false) (op : Builtin)
    (isWord : op ∈ Builtin.words) : Op.name? value ≠ some op.name := by
  intro named
  have isWord : Op.isWord value = true := by
    simp only [Op.isWord, List.any_eq_true, decide_eq_true_eq]
    exact ⟨op, isWord, named⟩
  rw [isWord] at isPlain
  cases isPlain

namespace Flow

/-- A search counts the blocks that are open. Inside a block it is `deeper` than before, and the end
of the block takes it back; every other element it passes over. A search that does not care for a
sort of block is no deeper inside one. -/
structure Search {F : Type → Type} [Functor F] (scan : Nat → List Value → F Nat) : Prop where
  passes : ∀ nested value rest, Op.isWord value = false →
    scan nested (value :: rest) = (· + 1) <$> scan nested rest
  passesWord : ∀ nested rest, ∀ op ∈ [Builtin.leaveLoop, .continueIf, .recurse],
    scan nested (op.word :: rest) = (· + 1) <$> scan nested rest
  loops : ∀ nested, ∃ deeper, ∀ rest,
    scan nested (Builtin.openLoop.word :: rest) = (· + 1) <$> scan deeper rest ∧
    scan deeper (Builtin.closeLoop.word :: rest) = (· + 1) <$> scan nested rest
  conditionals : ∀ nested, ∃ deeper, ∀ rest,
    scan nested (Builtin.openIf.word :: rest) = (· + 1) <$> scan deeper rest ∧
    scan deeper (Builtin.otherwise.word :: rest) = (· + 1) <$> scan deeper rest ∧
    scan deeper (Builtin.closeIf.word :: rest) = (· + 1) <$> scan nested rest

/-- A search passes over a part of a program as a whole. -/
theorem Search.flatten {F : Type → Type} [Functor F] [LawfulFunctor F]
    {scan : Nat → List Value → F Nat} (search : Search scan) {inLoop : Bool}
    (program : Structured inLoop) (nested : Nat) (post : List Value) :
    scan nested (program.flatten ++ post) = (· + program.length) <$> scan nested post := by
  have join : ∀ (first second : Nat) (found : F Nat),
      (· + first) <$> (· + second) <$> found = (· + (first + second)) <$> found := by
    intro first second found
    rw [← comp_map]
    congr 1
    funext count
    show count + second + first = count + (first + second)
    omega
  induction program generalizing nested post with
  | skip => exact (id_map _).symm
  | plain op isPlain => exact search.passes nested op post isPlain
  | seq first second ihFirst ihSecond =>
    rw [Structured.flatten, List.append_assoc, ihFirst, ihSecond, join, Structured.length_seq]
  | cond body ih =>
    obtain ⟨deeper, inside⟩ := search.conditionals nested
    rw [Structured.cond_append, (inside _).1, ih, (inside post).2.2, join, join,
      Structured.length_cond, show 1 + body.length + 1 = body.length + 2 by omega]
  | choice yes no ihYes ihNo =>
    obtain ⟨deeper, inside⟩ := search.conditionals nested
    rw [Structured.choice_append, (inside _).1, ihYes, (inside _).2.1, ihNo, (inside post).2.2,
      join, join, join, join, Structured.length_choice,
      show 1 + yes.length + 1 + no.length + 1 = yes.length + no.length + 3 by omega]
  | loop body ih =>
    obtain ⟨deeper, inside⟩ := search.loops nested
    rw [Structured.loop_append, (inside _).1, ih, (inside post).2, join, join,
      Structured.length_loop, show 1 + body.length + 1 = body.length + 2 by omega]
  | leave => exact search.passesWord nested post .leaveLoop (by simp)
  | leaveUnless => exact search.passesWord nested post .continueIf (by simp)
  | recurse => exact search.passesWord nested post .recurse (by simp)

/-! ## The three searches -/

theorem loopEnd?_search : Search loopEnd? where
  passes nested value rest isPlain := by
    have noBegin := Op.name?_ne_of_plain isPlain .openLoop (by decide)
    have noRepeat := Op.name?_ne_of_plain isPlain .closeLoop (by decide)
    conv_lhs => unfold loopEnd?
    split
    · next named => exact absurd named noBegin
    · next named => exact absurd named noRepeat
    · next named => exact absurd named noRepeat
    · rfl
  passesWord nested rest op isWord := by
    fin_cases isWord <;> rfl
  loops nested := ⟨nested + 1, fun _ => ⟨rfl, rfl⟩⟩
  conditionals nested := ⟨nested, fun _ => ⟨rfl, rfl, rfl⟩⟩

theorem branchEnd?_search : Search branchEnd? where
  passes nested value rest isPlain := by
    have noIf := Op.name?_ne_of_plain isPlain .openIf (by decide)
    have noElse := Op.name?_ne_of_plain isPlain .otherwise (by decide)
    have noEndif := Op.name?_ne_of_plain isPlain .closeIf (by decide)
    conv_lhs => unfold branchEnd?
    split
    · next named => exact absurd named noIf
    · next named => exact absurd named noElse
    · next named => exact absurd named noEndif
    · next named => exact absurd named noEndif
    · rfl
  passesWord nested rest op isWord := by
    fin_cases isWord <;> rfl
  loops nested := ⟨nested, fun _ => ⟨rfl, rfl⟩⟩
  conditionals nested := ⟨nested + 1, fun _ => ⟨rfl, rfl, rfl⟩⟩

theorem blockEnd_search : Search blockEnd where
  passes nested value rest isPlain := by
    have noIf := Op.name?_ne_of_plain isPlain .openIf (by decide)
    have noElse := Op.name?_ne_of_plain isPlain .otherwise (by decide)
    have noEndif := Op.name?_ne_of_plain isPlain .closeIf (by decide)
    conv_lhs => unfold blockEnd
    split
    · next named => exact absurd named noIf
    · next named => exact absurd named noElse
    · next named => exact absurd named noEndif
    · next named => exact absurd named noEndif
    · rfl
  passesWord nested rest op isWord := by
    fin_cases isWord <;> rfl
  loops nested := ⟨nested, fun _ => ⟨rfl, rfl⟩⟩
  conditionals nested := ⟨nested + 1, fun _ => ⟨rfl, rfl, rfl⟩⟩

/-! ## Partners -/

variable {inLoop : Bool} (part : Structured inLoop) (post : List Value)

/-- The way to an `else` that follows a part. -/
theorem branchEnd?_otherwise :
    branchEnd? 0 (part.flatten ++ Builtin.otherwise.word :: post) = some (part.length + 1) := by
  rw [branchEnd?_search.flatten]
  exact congrArg some (Nat.add_comm 1 part.length)

/-- The way to an `endif` that follows a part. -/
theorem branchEnd?_closeIf :
    branchEnd? 0 (part.flatten ++ Builtin.closeIf.word :: post) = some (part.length + 1) := by
  rw [branchEnd?_search.flatten]
  exact congrArg some (Nat.add_comm 1 part.length)

/-- The way from an `else` to an `endif` that follows a part. -/
theorem blockEnd_closeIf :
    blockEnd 0 (part.flatten ++ Builtin.closeIf.word :: post) = .ok (part.length + 1) := by
  rw [blockEnd_search.flatten]
  exact congrArg Except.ok (Nat.add_comm 1 part.length)

end Flow

/-! ## Places of parts -/

theorem drop_cons {α : Type} {ops : List α} {pc : Nat} {op : α} {post : List α}
    (placed : ops.drop pc = op :: post) : ops[pc]? = some op ∧ ops.drop (pc + 1) = post := by
  constructor
  · have first := congrArg (·[0]?) placed
    simpa using first
  · rw [← List.drop_drop, placed]
    rfl

theorem Structured.drop_flatten {ops : List Value} {pc : Nat} {inLoop : Bool}
    {part : Structured inLoop} {post : List Value} (placed : ops.drop pc = part.flatten ++ post) :
    ops.drop (pc + part.length) = post := by
  rw [← List.drop_drop, placed, length, List.drop_left]

/-- A break before `pc` goes on at `exit`. -/
def Frame.LeavesTo (frame : Frame) (pc exit : Nat) : Prop :=
  ∃ count, Flow.loopEnd? 0 (frame.ops.drop pc) = some count ∧ exit = pc + count

namespace Frame.LeavesTo

variable {frame : Frame} {pc exit : Nat} {post : List Value}

theorem before {inLoop : Bool} {part : Structured inLoop}
    (placed : frame.ops.drop pc = part.flatten ++ post)
    (leaves : frame.LeavesTo (pc + part.length) exit) : frame.LeavesTo pc exit := by
  obtain ⟨count, found, rfl⟩ := leaves
  rw [Structured.drop_flatten placed] at found
  refine ⟨count + part.length, ?_, by omega⟩
  rw [placed, Flow.loopEnd?_search.flatten, found]
  rfl

theorem beforeWord {op : Builtin} (isPassed : op = .otherwise ∨ op = .closeIf)
    (placed : frame.ops.drop pc = op.word :: post) (leaves : frame.LeavesTo (pc + 1) exit) :
    frame.LeavesTo pc exit := by
  obtain ⟨count, found, rfl⟩ := leaves
  rw [(drop_cons placed).2] at found
  refine ⟨count + 1, ?_, by omega⟩
  rw [placed]
  rcases isPassed with rfl | rfl
  · exact congrArg (Option.map (· + 1)) found
  · exact congrArg (Option.map (· + 1)) found

end Frame.LeavesTo

/-! ## Places of blocks -/

namespace Structured

variable {inLoop : Bool} {frame : Frame} {ops : List Value} {pc exit : Nat} {post : List Value}

section

variable {body : Structured inLoop}

/-- Where the parts of a conditional stand that starts at `pc`. -/
structure CondAt (ops : List Value) (pc : Nat) (body : Structured inLoop) (post : List Value) :
    Prop where
  opens : ops[pc]? = some Builtin.openIf.word
  inside : ops.drop (pc + 1) = body.flatten ++ Builtin.closeIf.word :: post
  ends : ops.drop (pc + 1 + body.length) = Builtin.closeIf.word :: post

theorem cond_at (placed : ops.drop pc = (cond body).flatten ++ post) : CondAt ops pc body post := by
  rw [cond_append] at placed
  obtain ⟨opens, inside⟩ := drop_cons placed
  exact ⟨opens, inside, drop_flatten inside⟩

theorem past_cond (pc : Nat) (body : Structured inLoop) :
    pc + (cond body).length = pc + 1 + body.length + 1 := by
  rw [length_cond]
  omega

namespace CondAt

theorem closes (stands : CondAt ops pc body post) :
    ops[pc + 1 + body.length]? = some Builtin.closeIf.word :=
  (drop_cons stands.ends).1

/-- The way past a body that is not run. -/
theorem skips (stands : CondAt ops pc body post) :
    Flow.branchEnd? 0 (ops.drop (pc + 1)) = some (body.length + 1) := by
  rw [stands.inside]
  exact Flow.branchEnd?_closeIf body post

/-- A break at the end of the body goes on where one behind the conditional does. -/
theorem leaves (stands : CondAt frame.ops pc body post)
    (behind : frame.LeavesTo (pc + (cond body).length) exit) :
    frame.LeavesTo (pc + 1 + body.length) exit := by
  rw [past_cond] at behind
  exact behind.beforeWord (.inr rfl) stands.ends

end CondAt

end

section

variable {yes no : Structured inLoop}

/-- Where the parts of a conditional with an alternative stand that starts at `pc`. -/
structure ChoiceAt (ops : List Value) (pc : Nat) (yes no : Structured inLoop)
    (post : List Value) : Prop where
  opens : ops[pc]? = some Builtin.openIf.word
  insideYes : ops.drop (pc + 1) = yes.flatten ++
    Builtin.otherwise.word :: (no.flatten ++ Builtin.closeIf.word :: post)
  endsYes : ops.drop (pc + 1 + yes.length) =
    Builtin.otherwise.word :: (no.flatten ++ Builtin.closeIf.word :: post)
  insideNo : ops.drop (pc + 1 + yes.length + 1) = no.flatten ++ Builtin.closeIf.word :: post
  endsNo : ops.drop (pc + 1 + yes.length + 1 + no.length) = Builtin.closeIf.word :: post

theorem choice_at (placed : ops.drop pc = (choice yes no).flatten ++ post) :
    ChoiceAt ops pc yes no post := by
  rw [choice_append] at placed
  obtain ⟨opens, insideYes⟩ := drop_cons placed
  have endsYes := drop_flatten insideYes
  have insideNo := (drop_cons endsYes).2
  exact ⟨opens, insideYes, endsYes, insideNo, drop_flatten insideNo⟩

theorem past_choice (pc : Nat) (yes no : Structured inLoop) :
    pc + (choice yes no).length = pc + 1 + yes.length + 1 + no.length + 1 := by
  rw [length_choice]
  omega

namespace ChoiceAt

theorem turns (stands : ChoiceAt ops pc yes no post) :
    ops[pc + 1 + yes.length]? = some Builtin.otherwise.word :=
  (drop_cons stands.endsYes).1

theorem closes (stands : ChoiceAt ops pc yes no post) :
    ops[pc + 1 + yes.length + 1 + no.length]? = some Builtin.closeIf.word :=
  (drop_cons stands.endsNo).1

/-- The way past the first branch, if it is not run. -/
theorem skipsYes (stands : ChoiceAt ops pc yes no post) :
    Flow.branchEnd? 0 (ops.drop (pc + 1)) = some (yes.length + 1) := by
  rw [stands.insideYes]
  exact Flow.branchEnd?_otherwise yes _

/-- The way past the second branch, if the first one was run. -/
theorem skipsNo (stands : ChoiceAt ops pc yes no post) :
    Flow.blockEnd 0 (ops.drop (pc + 1 + yes.length + 1)) = .ok (no.length + 1) := by
  rw [stands.insideNo]
  exact Flow.blockEnd_closeIf no post

theorem leavesNo (stands : ChoiceAt frame.ops pc yes no post)
    (behind : frame.LeavesTo (pc + (choice yes no).length) exit) :
    frame.LeavesTo (pc + 1 + yes.length + 1 + no.length) exit := by
  rw [past_choice] at behind
  exact behind.beforeWord (.inr rfl) stands.endsNo

theorem leavesYes (stands : ChoiceAt frame.ops pc yes no post)
    (behind : frame.LeavesTo (pc + (choice yes no).length) exit) :
    frame.LeavesTo (pc + 1 + yes.length) exit :=
  ((stands.leavesNo behind).before stands.insideNo).beforeWord (.inl rfl) stands.endsYes

end ChoiceAt

end

section

variable {body : Structured true}

/-- Where the parts of a loop stand that starts at `pc`. -/
structure LoopAt (ops : List Value) (pc : Nat) (body : Structured true) (post : List Value) :
    Prop where
  opens : ops[pc]? = some Builtin.openLoop.word
  inside : ops.drop (pc + 1) = body.flatten ++ Builtin.closeLoop.word :: post
  ends : ops.drop (pc + 1 + body.length) = Builtin.closeLoop.word :: post

theorem loop_at (placed : ops.drop pc = (loop body : Structured inLoop).flatten ++ post) :
    LoopAt ops pc body post := by
  rw [loop_append] at placed
  obtain ⟨opens, inside⟩ := drop_cons placed
  exact ⟨opens, inside, drop_flatten inside⟩

theorem past_loop (pc : Nat) (body : Structured true) :
    pc + (loop body : Structured inLoop).length = pc + 1 + body.length + 1 := by
  rw [length_loop]
  omega

namespace LoopAt

theorem closes (stands : LoopAt ops pc body post) :
    ops[pc + 1 + body.length]? = some Builtin.closeLoop.word :=
  (drop_cons stands.ends).1

/-- A break in the body goes on behind the loop. -/
theorem leaves (stands : LoopAt frame.ops pc body post) :
    frame.LeavesTo (pc + 1 + body.length) (pc + 1 + body.length + 1) :=
  ⟨1, by rw [stands.ends]; rfl, rfl⟩

end LoopAt

end

end Structured

end DocMachine
