import DocMachine.Proofs.WordArithmetic
import DocMachine.Proofs.Words
import DocMachine.Standard
import Mathlib.Order.Nat

/-!
# Partners of the control words

A control word that looks for its partner counts blocks on the way. Which op it finds can be said
without counting step by step: the first of its partners that stands outside of the blocks in between,
where a stretch of ops is as deep as it opens more blocks than it closes. Run lists need not be well
formed for that; blocks may be left open, and stray words may close what was not opened.

* `Flow.level`: how many more blocks some ops open than they close.
* `Frame.Stands`: an op ahead that stands outside of the blocks in between.
* `Frame.ClosesLoop`, `Frame.EndsBranch` and `Frame.BranchEnds`: the partners of the words.
* `Frame.Tracks`: a search counts what is open, and no less than nothing.
* `Act.Jumps` and `Act.SkipsBranch`: a word goes on after the first of its partners, or fails.

Results:
1. `Flow.Seek.Leads.run`: what a search has counted at each place it comes by.
2. `Flow.Seek.Leads.first` and `Flow.Seek.Leads.missed`: where it ends.
3. `Builtin.act_partners`: what the words do on any run list.
-/

namespace DocMachine

namespace Flow

/-! ## Levels -/

/-- How many more blocks some ops open than they close. -/
def level (opens closes : String) (ops : List Value) : Int :=
  (ops.countP fun op => Op.name? op = some opens) - (ops.countP fun op => Op.name? op = some closes : Nat)

@[simp] theorem level_nil (opens closes : String) : level opens closes [] = 0 := rfl

theorem level_append (opens closes : String) (first second : List Value) :
    level opens closes (first ++ second) = level opens closes first + level opens closes second := by
  simp only [level, List.countP_append, Nat.cast_add]
  ring

/-- The ops from one place up to another. -/
def stretch (ops : List Value) (start place : Nat) : List Value := (ops.take place).drop start

@[simp] theorem stretch_self (ops : List Value) (start : Nat) : stretch ops start start = [] :=
  List.drop_take_self

theorem stretch_of_le {ops : List Value} {start place : Nat} (le : place ≤ start) :
    stretch ops start place = [] :=
  List.drop_eq_nil_of_le ((List.length_take_le place ops).trans le)

theorem stretch_succ {ops : List Value} {start place : Nat} {op : Value} (le : start ≤ place)
    (stands : ops[place]? = some op) :
    stretch ops start (place + 1) = stretch ops start place ++ [op] := by
  have inside : place < ops.length := (List.getElem?_eq_some_iff.mp stands).1
  have reaches : start ≤ (ops.take place).length := by
    rw [List.length_take]
    exact le_min le (le.trans inside.le)
  rw [stretch, List.take_add_one, stands, List.drop_append_of_le_length reaches]
  rfl

end Flow

/-! ## Partners -/

namespace Frame

/-- The frame when it goes on after a place. -/
def past (frame : Frame) (place : Nat) : Frame := { frame with pc := place + 1 }

/-- The frame when it goes on after the place where the innermost loop ends. -/
def pastLoop (frame : Frame) (place : Nat) : Frame :=
  { frame with pc := place + 1, begins := frame.begins.tail }

/-- How deep in blocks a place ahead is, seen from the op being run. -/
def levelAt (frame : Frame) (opens closes : String) (place : Nat) : Int :=
  Flow.level opens closes (Flow.stretch frame.ops frame.pc place)

/-- An op of this name stands ahead, outside of the blocks in between. -/
structure Stands (frame : Frame) (name opens closes : String) (place : Nat) : Prop where
  ahead : frame.pc ≤ place
  named : frame.ops[place]?.bind Op.name? = some name
  outside : frame.levelAt opens closes place = 0

/-- The loop around the op being run ends at a place: in between as many loops are opened as closed, and
nowhere on the way more are closed than opened. -/
structure ClosesLoop (frame : Frame) (place : Nat) : Prop
    extends frame.Stands "repeat" "begin" "repeat" place where
  nests : ∀ earlier ≤ place, 0 ≤ frame.levelAt "begin" "repeat" earlier

/-- The branch that starts after the op being run ends at a place, with this word. -/
def EndsBranch (frame : Frame) (word : String) (place : Nat) : Prop :=
  frame.Stands word "if" "endif" place

/-- The branch that starts after the op being run ends at a place, with the other branch or for good. -/
def BranchEnds (frame : Frame) (place : Nat) : Prop :=
  frame.EndsBranch "else" place ∨ frame.EndsBranch "endif" place

/-- A search comes by every place up to the first partner, and the number of open blocks that it has
counted there is how many more were opened than closed on the way. -/
def Tracks {F : Type → Type} [Functor F] (frame : Frame) (scan : Nat → List Value → F Nat)
    (opens closes : String) (partner : Nat → Prop) : Prop :=
  ∀ place, frame.pc ≤ place → place ≤ frame.ops.length → (∀ earlier < place, ¬ partner earlier) →
    ∃ nested : Nat, (nested : Int) = frame.levelAt opens closes place ∧
      scan 0 (frame.ops.drop frame.pc) =
        (· + (place - frame.pc)) <$> scan nested (frame.ops.drop place)

theorem Stands.lands {frame : Frame} {name opens closes : String} {place : Nat}
    (stands : frame.Stands name opens closes place) :
    frame.pc + (place - frame.pc + 1) = place + 1 := by
  rw [← Nat.add_assoc, Nat.add_sub_cancel' stands.ahead]

theorem Stands.lt_length {frame : Frame} {name opens closes : String} {place : Nat}
    (stands : frame.Stands name opens closes place) : place < frame.ops.length := by
  obtain ⟨op, found, -⟩ := Option.bind_eq_some_iff.mp stands.named
  exact (List.getElem?_eq_some_iff.mp found).1

/-- If no partner stands before the first one of another kind, the search comes by every place up to that
one as well. -/
theorem Tracks.mono {F : Type → Type} [Functor F] {frame : Frame} {scan : Nat → List Value → F Nat}
    {opens closes : String} {partner other : Nat → Prop} (tracks : frame.Tracks scan opens closes partner)
    (sooner : ∀ place, partner place → ∃ earlier ≤ place, other earlier) :
    frame.Tracks scan opens closes other := by
  intro place ahead inside free
  refine tracks place ahead inside fun earlier before isPartner => ?_
  obtain ⟨first, le, isOther⟩ := sooner earlier isPartner
  exact free first (Nat.lt_of_le_of_lt le before) isOther

end Frame

namespace Flow.Seek

/-! ## Searches -/

/-- The search from the op being run ends at a place. -/
def EndsAt (seek : Seek) (frame : Frame) (outcome : Except Fault Unit) (place : Nat) : Prop :=
  ∃ name, seek.ends name = some outcome ∧ frame.Stands name seek.opens seek.closes place

variable {seek : Seek} {scan : Nat → List Value → Except Fault Nat} {frame : Frame}

/-- Past an op that does not end it, a search counts the blocks that are open there. -/
theorem Leads.step (leads : seek.Leads scan) (apart : seek.ends seek.opens = none) {nested : Nat}
    {op : Value} (goesOn : nested = 0 → (Op.name? op).bind seek.ends = none) (rest : List Value) :
    ∃ count : Nat, (count : Int) = nested + level seek.opens seek.closes [op] ∧
      scan nested (op :: rest) = (scan count rest).map (· + 1) := by
  have settles := seek.settles
  have differ : seek.closes ≠ seek.opens := by
    intro same
    rw [same, apart] at settles
    cases settles
  by_cases opened : Op.name? op = some seek.opens
  · refine ⟨nested + 1, ?_, ?_⟩
    · simp [level, opened, differ.symm]
    · rw [leads.cons, seek.stride_opens opened]
  by_cases closed : Op.name? op = some seek.closes
  · cases nested with
    | zero =>
      have unsettled : seek.ends seek.closes = none := by simpa [closed] using goesOn rfl
      rw [unsettled] at settles
      cases settles
    | succ inner =>
      refine ⟨inner, ?_, ?_⟩
      · simp [level, closed, differ]
      · rw [leads.cons, seek.stride_closes closed differ]
        rfl
  · refine ⟨nested, ?_, ?_⟩
    · simp [level, opened, closed]
    · rw [leads.cons, seek.stride_passes opened closed]
      intro none name named
      simpa [named] using goesOn none

/-- As long as it has not ended, a search comes by each place with the number of blocks that are open
there, which is therefore not negative. -/
theorem Leads.run (leads : seek.Leads scan) (apart : seek.ends seek.opens = none) (frame : Frame) :
    frame.Tracks scan seek.opens seek.closes fun place => ∃ outcome, seek.EndsAt frame outcome place := by
  intro place ahead inside free
  -- One place further, the count changes as the level does: both by what the op there opens or closes.
  induction place, ahead using Nat.le_induction with
  | base =>
    refine ⟨0, ?_, ?_⟩
    · rw [Frame.levelAt, stretch_self]
      rfl
    · rw [Nat.sub_self]
      exact (id_map (scan 0 (frame.ops.drop frame.pc))).symm
  | succ place ahead ih =>
    obtain ⟨count, counted, same⟩ := ih (Nat.le_of_succ_le inside) fun earlier before =>
      free earlier (Nat.lt_succ_of_lt before)
    have found : frame.ops[place]? = some frame.ops[place] := List.getElem?_eq_getElem inside
    -- Where nothing is open, an op that could end the search would be a partner.
    have goesOn : count = 0 → (Op.name? frame.ops[place]).bind seek.ends = none := by
      rintro rfl
      refine Option.eq_none_iff_forall_ne_some.mpr fun outcome ended => ?_
      obtain ⟨name, named, ends⟩ := Option.bind_eq_some_iff.mp ended
      have stands : frame.Stands name seek.opens seek.closes place :=
        ⟨ahead, by rw [found]; exact named, counted.symm⟩
      exact free place (Nat.lt_succ_self place) ⟨outcome, name, ends, stands⟩
    obtain ⟨next, moved, along⟩ := leads.step apart goesOn (frame.ops.drop (place + 1))
    refine ⟨next, ?_, ?_⟩
    · rw [Frame.levelAt, stretch_succ ahead found, level_append, moved, counted]
      rfl
    · rw [same, List.drop_eq_getElem_cons inside, along]
      cases scan next (frame.ops.drop (place + 1)) with
      | error fault => rfl
      | ok more =>
        show Except.ok (more + 1 + (place - frame.pc)) = Except.ok (more + (place + 1 - frame.pc))
        congr 1
        omega

/-- A search ends where it first can. -/
theorem Leads.first (leads : seek.Leads scan) (apart : seek.ends seek.opens = none) {place : Nat}
    {outcome : Except Fault Unit} (ends : seek.EndsAt frame outcome place)
    (least : ∀ earlier < place, ¬ ∃ outcome, seek.EndsAt frame outcome earlier) :
    scan 0 (frame.ops.drop frame.pc) = outcome.map fun _ => place - frame.pc + 1 := by
  obtain ⟨name, ended, stands⟩ := ends
  obtain ⟨op, found, named⟩ := Option.bind_eq_some_iff.mp stands.named
  obtain ⟨count, counted, same⟩ := leads.run apart frame place stands.ahead stands.lt_length.le least
  obtain rfl : count = 0 := by
    rw [stands.outside] at counted
    exact Int.natCast_eq_zero.mp counted
  have other : name ≠ seek.opens := by
    rintro rfl
    rw [apart] at ended
    cases ended
  have cons : frame.ops.drop place = op :: frame.ops.drop (place + 1) := by
    rw [List.drop_eq_getElem_cons stands.lt_length, (List.getElem?_eq_some_iff.mp found).2]
  rw [same, cons, leads.cons, seek.stride_ends named other ended]
  cases outcome with
  | error fault => rfl
  | ok _ => exact congrArg Except.ok (Nat.add_comm 1 _)

/-- A search that cannot end finds nothing. -/
theorem Leads.missed (leads : seek.Leads scan) (apart : seek.ends seek.opens = none)
    (never : ∀ place, ¬ ∃ outcome, seek.EndsAt frame outcome place) :
    scan 0 (frame.ops.drop frame.pc) = .error seek.missing := by
  rcases Nat.le_total frame.pc frame.ops.length with inside | beyond
  · obtain ⟨count, -, same⟩ := leads.run apart frame frame.ops.length inside le_rfl fun place _ =>
      never place
    rw [same, List.drop_length, leads.nil]
    rfl
  · rw [List.drop_eq_nil_of_le beyond, leads.nil]

/-! ### The three searches -/

variable {outcome : Except Fault Unit} {place : Nat}

theorem loop_endsAt : loop.EndsAt frame outcome place ↔
    outcome = .ok () ∧ frame.Stands "repeat" "begin" "repeat" place := by
  constructor
  · rintro ⟨name, ended, stands⟩
    obtain ⟨rfl, same⟩ := (Option.ite_none_right_eq_some (p := name = "repeat")).mp ended
    exact ⟨(Option.some.inj same).symm, stands⟩
  · rintro ⟨rfl, stands⟩
    exact ⟨"repeat", rfl, stands⟩

theorem branch_endsAt : branch.EndsAt frame outcome place ↔
    outcome = .ok () ∧ frame.BranchEnds place := by
  constructor
  · rintro ⟨name, ended, stands⟩
    obtain ⟨rfl | rfl, same⟩ :=
      (Option.ite_none_right_eq_some (p := name = "else" ∨ name = "endif")).mp ended
    · exact ⟨(Option.some.inj same).symm, .inl stands⟩
    · exact ⟨(Option.some.inj same).symm, .inr stands⟩
  · rintro ⟨rfl, stands | stands⟩
    · exact ⟨"else", rfl, stands⟩
    · exact ⟨"endif", rfl, stands⟩

theorem block_endsAt : block.EndsAt frame outcome place ↔
    outcome = .error .unboundElse ∧ frame.EndsBranch "else" place ∨
      outcome = .ok () ∧ frame.EndsBranch "endif" place := by
  constructor
  · rintro ⟨name, ended, stands⟩
    replace ended : (if name = "else" then some (.error .unboundElse)
      else if name = "endif" then some (.ok ()) else none) = some outcome := ended
    split at ended
    · next same =>
      subst same
      exact .inl ⟨(Option.some.inj ended).symm, stands⟩
    · obtain ⟨rfl, same⟩ := (Option.ite_none_right_eq_some (p := name = "endif")).mp ended
      exact .inr ⟨(Option.some.inj same).symm, stands⟩
  · rintro (⟨rfl, stands⟩ | ⟨rfl, stands⟩)
    · exact ⟨"else", rfl, stands⟩
    · exact ⟨"endif", rfl, stands⟩

/-- What holds of the search with faults holds of the one without. -/
theorem tracks_of_orMissing (seek : Seek) {scan? : Nat → List Value → Option Nat}
    {opens closes : String} {partner : Nat → Prop}
    (tracks : frame.Tracks (fun nested ops => seek.orMissing (scan? nested ops)) opens closes partner) :
    frame.Tracks scan? opens closes partner := by
  intro place ahead inside free
  obtain ⟨nested, counted, same⟩ := tracks place ahead inside free
  refine ⟨nested, counted, seek.orMissing_injective ?_⟩
  exact same.trans (seek.orMissing_map ..).symm

/-- The search ends well at every partner, and nowhere before the first one. -/
structure EndsAmong (seek : Seek) (frame : Frame) (partner : Nat → Prop) : Prop where
  well : ∀ place, partner place → seek.EndsAt frame (.ok ()) place
  sooner : ∀ place, (∃ outcome, seek.EndsAt frame outcome place) → ∃ earlier ≤ place, partner earlier

namespace EndsAmong

variable {scan? : Nat → List Value → Option Nat} {partner : Nat → Prop}
  (among : seek.EndsAmong frame partner)
  (leads : seek.Leads fun nested ops => seek.orMissing (scan? nested ops))
  (apart : seek.ends seek.opens = none)

include among leads apart

theorem tracks : frame.Tracks scan? seek.opens seek.closes partner :=
  tracks_of_orMissing seek ((leads.run apart frame).mono among.sooner)

theorem found (least : IsLeast {place | partner place} place) :
    scan? 0 (frame.ops.drop frame.pc) = some (place - frame.pc + 1) := by
  refine seek.orMissing_injective (leads.first apart (among.well place least.1) ?_)
  intro earlier before ends
  obtain ⟨first, le, isPartner⟩ := among.sooner earlier ends
  exact Nat.not_le_of_lt before ((least.2 isPartner).trans le)

theorem missed (never : ¬ ∃ place, partner place) : scan? 0 (frame.ops.drop frame.pc) = none := by
  refine seek.orMissing_injective (leads.missed apart ?_)
  intro place ends
  obtain ⟨first, -, isPartner⟩ := among.sooner place ends
  exact never ⟨first, isPartner⟩

end EndsAmong

theorem loop_stands : loop.EndsAmong frame (frame.Stands "repeat" "begin" "repeat") where
  well _ stands := loop_endsAt.mpr ⟨rfl, stands⟩
  sooner place ends := ⟨place, le_rfl, (loop_endsAt.mp ends.choose_spec).2⟩

theorem branch_among : branch.EndsAmong frame frame.BranchEnds where
  well _ ends := branch_endsAt.mpr ⟨rfl, ends⟩
  sooner place ends := ⟨place, le_rfl, (branch_endsAt.mp ends.choose_spec).2⟩

end Flow.Seek

namespace Frame

variable {frame : Frame}

/-- The first `repeat` that stands outside of the loops in between closes the loop: until then, no more
loops were closed than opened. -/
theorem Stands.closesLoop {place : Nat} (stands : frame.Stands "repeat" "begin" "repeat" place)
    (first : ∀ earlier < place, ¬ frame.Stands "repeat" "begin" "repeat" earlier) :
    frame.ClosesLoop place := by
  refine ⟨stands, fun earlier le => ?_⟩
  rcases Nat.le_total frame.pc earlier with ahead | behind
  · have inside : earlier ≤ frame.ops.length := le.trans stands.lt_length.le
    obtain ⟨nested, counted, -⟩ := Flow.Seek.loop_stands.tracks Flow.Seek.loop_leads rfl earlier ahead
      inside fun other before => first other (Nat.lt_of_lt_of_le before le)
    exact counted ▸ Int.natCast_nonneg nested
  · rw [levelAt, Flow.stretch_of_le behind, Flow.level_nil]

theorem Stands.exists_closesLoop {place : Nat}
    (stands : frame.Stands "repeat" "begin" "repeat" place) :
    ∃ earlier ≤ place, frame.ClosesLoop earlier := by
  classical
  have any : ∃ place, frame.Stands "repeat" "begin" "repeat" place := ⟨place, stands⟩
  exact ⟨Nat.find any, Nat.find_min' any stands,
    (Nat.find_spec any).closesLoop fun _ before => Nat.find_min any before⟩

end Frame

namespace Flow

variable {frame : Frame} {place : Nat}

theorem Seek.loop_among : loop.EndsAmong frame frame.ClosesLoop where
  well _ closes := loop_endsAt.mpr ⟨rfl, closes.toStands⟩
  sooner _ ends := (loop_endsAt.mp ends.choose_spec).2.exists_closesLoop

theorem Seek.block_ends_iff : (∃ outcome, block.EndsAt frame outcome place) ↔ frame.BranchEnds place := by
  constructor
  · rintro ⟨_, ends⟩
    exact (block_endsAt.mp ends).imp And.right And.right
  · rintro (isElse | isEnd)
    · exact ⟨_, block_endsAt.mpr (.inl ⟨rfl, isElse⟩)⟩
    · exact ⟨_, block_endsAt.mpr (.inr ⟨rfl, isEnd⟩)⟩

theorem blockEnd_first {outcome : Except Fault Unit} (ends : Seek.block.EndsAt frame outcome place)
    (first : ∀ earlier < place, ¬ frame.BranchEnds earlier) :
    blockEnd 0 (frame.ops.drop frame.pc) = outcome.map fun _ => place - frame.pc + 1 :=
  Seek.block_leads.first rfl ends fun earlier before =>
    mt Seek.block_ends_iff.mp (first earlier before)

theorem blockEnd_missed (never : ¬ ∃ place, frame.BranchEnds place) :
    blockEnd 0 (frame.ops.drop frame.pc) = .error (.unterminated .conditional) :=
  Seek.block_leads.missed rfl fun place => mt Seek.block_ends_iff.mp (not_exists.mp never place)

theorem tracks_blockEnd : frame.Tracks blockEnd "if" "endif" frame.BranchEnds :=
  (Seek.block_leads.run rfl frame).mono fun place ends =>
    ⟨place, le_rfl, Seek.block_ends_iff.mp ends⟩

end Flow

/-! ## The words -/

variable {ω π : Type}

/-- A word goes on after the first of its partners, in the frame that `goes` tells. If it has none it fails
with this fault, and only then. But for the frame it leaves what `stays` tells. -/
structure Act.Jumps (act : Act ω π (List Value)) (call : Call ω π) (partner : Nat → Prop) (fault : Fault)
    (stays : Call ω π) (goes : Nat → Frame) : Prop where
  found : ∀ place, IsLeast {place | partner place} place →
    act.run.run call = (.ok [], { stays with frame := goes place })
  fails : (act.run.run call).1 = .error fault ↔ ¬ ∃ place, partner place
  missed : (¬ ∃ place, partner place) → (act.run.run call).2 = stays

theorem Act.Jumps.control {word : Act ω π Unit} {call stays : Call ω π} {partner : Nat → Prop}
    {fault : Fault} {goes : Nat → Frame}
    (found : ∀ place, IsLeast {place | partner place} place →
      word.run.run call = (.ok (), { stays with frame := goes place }))
    (missed : (¬ ∃ place, partner place) → word.run.run call = (.error fault, stays)) :
    (Builtin.control word []).Jumps call partner fault stays goes where
  found place least := by rw [Builtin.control_run, found place least]
  fails := by
    rw [Builtin.control_run]
    constructor
    · rintro failed any
      classical
      rw [found _ (Nat.isLeast_find any)] at failed
      cases failed
    · intro never
      rw [missed never]
  missed never := by rw [Builtin.control_run, missed never]

/-- The word between two branches goes on after the end of the second one. A further such word must not
come first, and without an end the word fails. -/
structure Act.SkipsBranch (act : Act ω π (List Value)) (call : Call ω π) : Prop where
  found : ∀ place, IsLeast {place | call.frame.EndsBranch "endif" place} place →
    (∀ earlier < place, ¬ call.frame.EndsBranch "else" earlier) →
      act.run.run call = (.ok [], { call with frame := call.frame.past place })
  unbound : ∀ place, IsLeast {place | call.frame.EndsBranch "else" place} place →
    (∀ earlier < place, ¬ call.frame.EndsBranch "endif" earlier) →
      act.run.run call = (.error .unboundElse, call)
  fails : (act.run.run call).1 = .error (.unterminated .conditional) ↔
    ¬ ∃ place, call.frame.BranchEnds place
  missed : (¬ ∃ place, call.frame.BranchEnds place) → (act.run.run call).2 = call

namespace Flow

variable (call : Call ω π)

theorem leaveLoop_found {place : Nat} (least : IsLeast {place | call.frame.ClosesLoop place} place) :
    (leaveLoop : Act ω π Unit).run.run call =
      (.ok (), { call with frame := call.frame.pastLoop place }) := by
  rw [leaveLoop_run, Seek.loop_among.found Seek.loop_leads rfl least]
  dsimp only
  rw [least.1.lands]
  rfl

theorem leaveLoop_missed (never : ¬ ∃ place, call.frame.ClosesLoop place) :
    (leaveLoop : Act ω π Unit).run.run call = (.error (.unterminated .loop), call) := by
  rw [leaveLoop_run, Seek.loop_among.missed Seek.loop_leads rfl never]

theorem leaveLoop_jumps :
    (Builtin.control leaveLoop []).Jumps call call.frame.ClosesLoop (.unterminated .loop) call
      call.frame.pastLoop :=
  .control (fun _ => leaveLoop_found call) (leaveLoop_missed call)

section

variable {call} {top : Value} {rest : List Value} (holds : call.machine.stack = top :: rest)
  (untruth : top.truthy = false)

include holds untruth

theorem continueIf_jumps :
    (Builtin.control continueIf []).Jumps call call.frame.ClosesLoop (.unterminated .loop)
      { call with machine := { call.machine with stack := rest } } call.frame.pastLoop := by
  have ran := continueIf_run_cons call holds
  rw [if_neg (by simp [untruth])] at ran
  exact .control (fun place least => ran.trans (leaveLoop_found _ least)) fun never =>
    ran.trans (leaveLoop_missed _ never)

theorem openIf_jumps :
    (Builtin.control openIf []).Jumps call call.frame.BranchEnds (.unterminated .conditional)
      { call with machine := { call.machine with stack := rest } } call.frame.past := by
  have ran := openIf_run_cons call holds
  rw [if_neg (by simp [untruth])] at ran
  refine .control (fun place least => ?_) fun never => ?_
  · have lands : call.frame.pc + (place - call.frame.pc + 1) = place + 1 :=
      least.1.elim Frame.Stands.lands Frame.Stands.lands
    rw [ran, Seek.branch_among.found Seek.branch_leads rfl least]
    dsimp only
    rw [lands]
    rfl
  · rw [ran, Seek.branch_among.missed Seek.branch_leads rfl never]

end

theorem otherwise_found {place : Nat} (least : IsLeast {place | call.frame.EndsBranch "endif" place} place)
    (noElse : ∀ earlier < place, ¬ call.frame.EndsBranch "else" earlier) :
    (Builtin.control otherwise []).run.run call =
      (.ok [], { call with frame := call.frame.past place }) := by
  have first : ∀ earlier < place, ¬ call.frame.BranchEnds earlier := by
    rintro earlier before (isElse | isEnd)
    · exact noElse earlier before isElse
    · exact Nat.not_le_of_lt before (least.2 isEnd)
  rw [Builtin.control_run, otherwise_run,
    blockEnd_first (Seek.block_endsAt.mpr (.inr ⟨rfl, least.1⟩)) first]
  dsimp only [Except.map]
  rw [least.1.lands]
  rfl

theorem otherwise_unbound {place : Nat} (least : IsLeast {place | call.frame.EndsBranch "else" place} place)
    (noEnd : ∀ earlier < place, ¬ call.frame.EndsBranch "endif" earlier) :
    (Builtin.control otherwise []).run.run call = (.error .unboundElse, call) := by
  have first : ∀ earlier < place, ¬ call.frame.BranchEnds earlier := by
    rintro earlier before (isElse | isEnd)
    · exact Nat.not_le_of_lt before (least.2 isElse)
    · exact noEnd earlier before isEnd
  rw [Builtin.control_run, otherwise_run,
    blockEnd_first (Seek.block_endsAt.mpr (.inl ⟨rfl, least.1⟩)) first]
  rfl

theorem otherwise_missed (never : ¬ ∃ place, call.frame.BranchEnds place) :
    (Builtin.control otherwise []).run.run call = (.error (.unterminated .conditional), call) := by
  rw [Builtin.control_run, otherwise_run, blockEnd_missed never]

theorem otherwise_ends (any : ∃ place, call.frame.BranchEnds place) :
    ((Builtin.control otherwise []).run.run call).1 ≠ .error (.unterminated .conditional) := by
  classical
  obtain ⟨ends, first⟩ := Nat.isLeast_find any
  rcases ends with isElse | isEnd
  · have least : IsLeast {place | call.frame.EndsBranch "else" place} (Nat.find any) :=
      ⟨isElse, fun other isOther => first (.inl isOther)⟩
    rw [otherwise_unbound call least fun earlier before isEnd =>
      Nat.not_le_of_lt before (first (.inr isEnd))]
    simp
  · have least : IsLeast {place | call.frame.EndsBranch "endif" place} (Nat.find any) :=
      ⟨isEnd, fun other isOther => first (.inr isOther)⟩
    rw [otherwise_found call least fun earlier before isElse =>
      Nat.not_le_of_lt before (first (.inl isElse))]
    simp

theorem otherwise_skips : (Builtin.control otherwise []).SkipsBranch call where
  found _ := otherwise_found call
  unbound _ := otherwise_unbound call
  fails := by
    constructor
    · exact fun failed any => otherwise_ends call any failed
    · exact fun never => congrArg Prod.fst (otherwise_missed call never)
  missed never := congrArg Prod.snd (otherwise_missed call never)

end Flow

namespace Builtin

/-- The words that look for a partner find it by the levels of the ops ahead, on any run list and from any
place of it. What they count on the way is the level there, which is never below zero. -/
theorem act_partners (host : Host ω π) (call : Call ω π) :
    (leaveLoop.act host []).Jumps call call.frame.ClosesLoop (.unterminated .loop) call
      call.frame.pastLoop ∧
    (∀ top rest, call.machine.stack = top :: rest → top.truthy = false →
      (continueIf.act host []).Jumps call call.frame.ClosesLoop (.unterminated .loop)
        { call with machine := { call.machine with stack := rest } } call.frame.pastLoop ∧
      (openIf.act host []).Jumps call call.frame.BranchEnds (.unterminated .conditional)
        { call with machine := { call.machine with stack := rest } } call.frame.past) ∧
    (otherwise.act host []).SkipsBranch call ∧
    call.frame.Tracks Flow.loopEnd? "begin" "repeat" call.frame.ClosesLoop ∧
    call.frame.Tracks Flow.branchEnd? "if" "endif" call.frame.BranchEnds ∧
    call.frame.Tracks Flow.blockEnd "if" "endif" call.frame.BranchEnds := by
  refine ⟨Flow.leaveLoop_jumps call, fun top rest holds untruth => ?_, Flow.otherwise_skips call, ?_, ?_, ?_⟩
  · exact ⟨Flow.continueIf_jumps holds untruth, Flow.openIf_jumps holds untruth⟩
  · exact Flow.Seek.loop_among.tracks Flow.Seek.loop_leads rfl
  · exact Flow.Seek.branch_among.tracks Flow.Seek.branch_leads rfl
  · exact Flow.tracks_blockEnd

/-- A word left open, stray words and a value that only looks like an op do not lead the search astray. -/
theorem act_partners_stray :
    let host : Host (World Unit) (Plug Empty) := Standard.host Standard.noGuests
    let ops := [openLoop.word, continueIf.word, .arr [closeLoop.word], openLoop.word, closeIf.word,
      closeLoop.word, openIf.word, closeLoop.word, closeLoop.word]
    let call : Call (World Unit) (Plug Empty) :=
      ⟨{ registry := Registry.builtins, stack := [.int 0, .int 7], world := { guest := () } },
        { Frame.root with ops := ops, pc := 2, begins := [1] }, "while"⟩
    call.machine.stack = [.int 0, .int 7] ∧ (Value.int 0).truthy = false ∧
      IsLeast {place | call.frame.ClosesLoop place} 7 ∧
      (continueIf.act host []).run.run call =
        (.ok [], { call with
          machine := { call.machine with stack := [.int 7] }
          frame := { call.frame with pc := 8, begins := [] } }) := by
  intro host ops call
  have untruth : (Value.int 0).truthy = false := rfl
  have closes : call.frame.ClosesLoop 7 := ⟨⟨by decide, rfl, rfl⟩, by decide⟩
  have first : ∀ earlier < 7, ¬ (call.frame.pc ≤ earlier ∧
      call.frame.ops[earlier]?.bind Op.name? = some "repeat" ∧
      call.frame.levelAt "begin" "repeat" earlier = 0) := by decide
  have least : IsLeast {place | call.frame.ClosesLoop place} 7 :=
    ⟨closes, fun earlier isEnd => Nat.le_of_not_lt fun before =>
      first earlier before ⟨isEnd.ahead, isEnd.named, isEnd.outside⟩⟩
  exact ⟨rfl, untruth, least,
    ((act_partners host call).2.1 (.int 0) [.int 7] rfl untruth).1.found 7 least⟩

end Builtin

end DocMachine
