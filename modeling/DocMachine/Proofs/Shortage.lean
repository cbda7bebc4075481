import DocMachine.Proofs.Containment
import DocMachine.Proofs.Equality
import DocMachine.Proofs.WordArithmetic

/-!
# Missing values

An op that finds too few values on the stack says how many it needs and how many there are. It needs more
than there are, and all the counts and places with which it works are words. There is one exception: no
word counts the values that it takes to copy the one below as many others as a word can count.

* `WordAct` is an act with counts and places in words, so that it may also have no result.
* `Builtin.wordAct` is what a built-in op does in words.
* `Act.Counts`: from a call, an act does what another does in words, and is honest about values that it
  misses.
* `Builtin.Outgrows`: the op needs more values than a word can count.
* `Call.Fits`: what the op finds has a count that is a word, and so is a count that it is given.

Results:
1. `Act.Counts.popMany`, `Act.Counts.popPair` and `Act.Counts.peek`: values are taken from the stack in
   words.
2. `Act.Counts.swap`, `Act.Counts.fill`, `Act.Counts.openIf` and those beside them: so is everything that
   ops do with them.
3. `Builtin.act_counts`: so it is for all built-in ops, unless they outgrow words. Then the count of
   values that are needed ends the program.
-/

namespace DocMachine

variable {ω π : Type} {host : Host ω π}

/-! ## Acts in words -/

/-- What a handler does whose counts and places are words. It has no result if one of them is none. -/
abbrev WordAct (ω π : Type) := ExceptT Fault (StateT (Call ω π) Option)

namespace WordAct

/-- An act that does not count. -/
def ofAct {α : Type} (act : Act ω π α) : WordAct ω π α :=
  ExceptT.mk fun call => some (act.run.run call)

theorem run_bind {α β : Type} (act : WordAct ω π α) (rest : α → WordAct ω π β) (call : Call ω π) :
    (act >>= rest).run.run call =
      match act.run.run call with
      | some (.ok a, left) => (rest a).run.run left
      | some (.error fault, left) => some (.error fault, left)
      | none => none := by
  show (act.run.run call).bind (fun ran => (ExceptT.bindCont rest ran.1).run ran.2) = _
  cases act.run.run call with
  | none => rfl
  | some ran =>
    obtain ⟨outcome, left⟩ := ran
    cases outcome <;> rfl

theorem run_word {α β : Type} {word : Option α} {a : α} (known : word = some a)
    (rest : α → WordAct ω π β) (call : Call ω π) :
    (liftM word >>= rest).run.run call = (rest a).run.run call := by
  rw [known]
  rfl

/-! ### The stack

From here on, the stack is a list from the bottom up, as it is in memory. -/

/-- The stack from the bottom up. -/
def values : WordAct ω π (List Value) := ofAct do return (← Act.stack).reverse

/-- Pops `n` values; the old top comes last. -/
def popMany (n : Nat) : WordAct ω π (List Value) := do
  let values ← values
  if values.length < n then throw (.stackUnderflow n values.length)
  let start ← Word.sub? values.length n
  let (below, taken) ← Word.splitAt? values start
  ofAct (Act.setStack below.reverse)
  return taken

/-- Pops the operands of a binary op; the second one is the old top. -/
def popPair : WordAct ω π (Value × Value) := do
  match ← popMany 2 with
  | [x, y] => return (x, y)
  | _ => throw (.stackUnderflow 2 0)

/-- The value `offset` places below the top. -/
def peek (offset : Nat) : WordAct ω π Value := do
  let values ← values
  if values.length ≤ offset then
    let needed ← Word.add? offset 1
    throw (.stackUnderflow needed values.length)
  Word.fromEnd? values offset

/-! ### Ops -/

/-- An op without parameters that replaces the two values at the top. -/
def binary (f : Value → Value → Except Fault Value) (scope : Scope) : WordAct ω π (List Value) := do
  ofAct (Act.noParams scope)
  let (x, y) ← popPair
  return [← ofAct (Act.ofExcept (f x y))]

/-- A binary op that answers yes or no. -/
def predicate (f : Value → Value → Bool) : Scope → WordAct ω π (List Value) :=
  binary fun x y => .ok (.bool (f x y))

/-- A binary op that answers by the order of its operands. -/
def ordered (f : Ordering → Bool) : Scope → WordAct ω π (List Value) :=
  binary fun x y => (x.compare y).map fun order => .bool (f order)

/-- Copies the value at an offset, by the copier of its kind if there is one. -/
def dup (host : Host ω π) (scope : Scope) : WordAct ω π (List Value) := do
  let params ← ofAct (Act.params (Param.record {} Shuffle.DupParams.field scope))
  let value ← peek params.offset
  return [Shuffle.copied host (← ofAct get).machine.registry value params.deep]

/-- Values chosen by offset from those at the top; the first offset gives the new top. -/
def reorder? (order : List Nat) (items : List Value) : Option (List Value) :=
  order.reverse.mapM (Word.fromEnd? items)

/-- Reorders as many values at the top as there are offsets. -/
def swap (scope : Scope) : WordAct ω π (List Value) := do
  let order ← ofAct (Act.params (Param.record [1, 0] Shuffle.orderField scope))
  match order.find? fun offset => decide (order.length ≤ offset) with
  | some offset => ofAct (Act.blame (.offsetOutside offset order.length))
  | none =>
    let items ← popMany order.length
    reorder? order items

/-- Packs values at the top into one composite. -/
def pack (scope : Scope) : WordAct ω π (List Value) := do
  let params ← ofAct (Act.params (Param.record {} Shuffle.PackParams.field scope))
  let count ← ofAct (Act.params (Param.required "n" params.count))
  match params.keys with
  | some keys => if keys.length ≠ count then ofAct (Act.blame (.keyCount keys.length count))
  | none => pure ()
  let items ← popMany count
  return [Shuffle.composite params.keys (if params.forward then items else items.reverse)]

/-- Fills a format string with values from the stack and with parameters. -/
def fill (scope : Scope) : WordAct ω π (List Value) := do
  match scope.get? "fmt" with
  | some (.str text) =>
    let template ← ofAct (Format.formatting (Format.Template.parse text))
    let args ← popMany template.positionalCount
    let filled ← (Format.Template.renderFrom? args (scope.erase "fmt") .unset template).run
    return [.str (← ofAct (Format.formatting filled))]
  | some _ => ofAct (Act.blame .formatNotText)
  | none => ofAct (Act.blame (.missing "fmt"))

/-- A control word: it takes no parameters and pushes nothing. -/
def control (word : WordAct ω π Unit) (scope : Scope) : WordAct ω π (List Value) := do
  ofAct (Act.noParams scope)
  word
  return []

/-- The way to the partner of a control word. -/
def partner (seek : Flow.Seek) : WordAct ω π Nat := do
  let ops ← ofAct Flow.upcoming
  let found ← (seek.search? 0 ops).run
  ofAct (Act.ofExcept found)

/-- Leaves the innermost loop. -/
def leaveLoop : WordAct ω π Unit := do
  let count ← partner .loop
  ofAct do
    Flow.skip count
    Act.onFrame fun frame => { frame with begins := frame.begins.tail }

/-- Leaves the innermost loop unless the top is true. -/
def continueIf : WordAct ω π Unit := do
  if (← ofAct Act.pop).truthy then pure () else leaveLoop

/-- Skips the branch that follows unless the top is true. -/
def openIf : WordAct ω π Unit := do
  if (← ofAct Act.pop).truthy then pure ()
  else
    let count ← partner .branch
    ofAct (Flow.skip count)

/-- Skips the second branch. -/
def otherwise : WordAct ω π Unit := do
  let count ← partner .block
  ofAct (Flow.skip count)

end WordAct

/-- What a built-in op does in words. Those that are not listed pop one value at most and do not count. -/
def Builtin.wordAct (host : Host ω π) : Builtin → Scope → WordAct ω π (List Value)
  | .add => .binary Arith.add
  | .subtract => .binary Arith.subtract
  | .multiply => .binary Arith.multiply
  | .divide => .binary Arith.divide
  | .modulo => .binary Arith.modulo
  | .both => .predicate fun x y => x.truthy && y.truthy
  | .either => .predicate fun x y => x.truthy || y.truthy
  | .differ => .predicate fun x y => x.truthy != y.truthy
  | .equal => .predicate Value.same
  | .unequal => .predicate fun x y => !x.same y
  | .greater => .ordered (· == .gt)
  | .atLeast => .ordered (· != .lt)
  | .less => .ordered (· == .lt)
  | .atMost => .ordered (· != .gt)
  | .dup => .dup host
  | .swap => .swap
  | .pack => .pack
  | .format => .fill
  | .leaveLoop => .control .leaveLoop
  | .continueIf => .control .continueIf
  | .openIf => .control .openIf
  | .otherwise => .control .otherwise
  | op => fun scope => .ofAct (op.act host scope)

/-! ## Agreement -/

/-- If the act misses values, it needs more than there are. -/
def Act.IsHonest {α : Type} (act : Act ω π α) : Prop :=
  ∀ call needed available, (act.run.run call).1 = .error (.stackUnderflow needed available) →
    available < needed

/-- From this call, the act does what it does in words and, if it misses values, needs more than there
are. -/
structure Act.Counts {α : Type} (act : Act ω π α) (inWords : WordAct ω π α) (call : Call ω π) : Prop where
  same : inWords.run.run call = some (act.run.run call)
  honest : ∀ needed available, (act.run.run call).1 = .error (.stackUnderflow needed available) →
    available < needed

section

variable {α β : Type} {call left : Call ω π} {act : Act ω π α} {inWords : WordAct ω π α}
  {rest : α → Act ω π β} {wordRest : α → WordAct ω π β}

namespace Act.Counts

theorem ofHonest (honest : act.IsHonest) : act.Counts (.ofAct act) call := ⟨rfl, honest call⟩

theorem ofOk {a : α} (ran : act.run.run call = (.ok a, left))
    (same : inWords.run.run call = some (.ok a, left)) : act.Counts inWords call := by
  refine ⟨ran ▸ same, fun needed available short => ?_⟩
  rw [ran] at short
  cases short

theorem ofShort {needed available : Nat} (few : available < needed)
    (ran : act.run.run call = (.error (.stackUnderflow needed available), left))
    (same : inWords.run.run call = some (.error (.stackUnderflow needed available), left)) :
    act.Counts inWords call := by
  refine ⟨ran ▸ same, fun needed available short => ?_⟩
  rw [ran] at short
  cases short
  exact few

theorem pure (a : α) : (Pure.pure a : Act ω π α).Counts (Pure.pure a) call := ofOk rfl rfl

theorem bind (first : act.Counts inWords call)
    (second : ∀ a left, act.run.run call = (.ok a, left) → (rest a).Counts (wordRest a) left) :
    (act >>= rest).Counts (inWords >>= wordRest) call := by
  have same := first.same
  have honest := first.honest
  cases ran : act.run.run call with
  | mk outcome left =>
    rw [ran] at same honest
    cases outcome with
    | ok a =>
      have follows := second a left ran
      refine ⟨?_, fun needed available short => ?_⟩
      · rw [WordAct.run_bind, same, DocMachine.run_bind, ran]
        exact follows.same
      · rw [DocMachine.run_bind, ran] at short
        exact follows.honest needed available short
    | error fault =>
      refine ⟨?_, fun needed available short => ?_⟩
      · rw [WordAct.run_bind, same, DocMachine.run_bind, ran]
      · rw [DocMachine.run_bind, ran] at short
        cases short
        exact honest needed available rfl

/-- What comes after a value is known in words. -/
theorem known {word : Option α} {a : α} {act : Act ω π β} (same : word = some a)
    (counts : act.Counts (wordRest a) call) : act.Counts (liftM word >>= wordRest) call where
  same := (WordAct.run_word same wordRest call).trans counts.same
  honest := counts.honest

/-- A value that is known in words. -/
theorem word {word : Option α} {a : α} (same : word = some a) :
    (Pure.pure a : Act ω π α).Counts (liftM word) call := by
  rw [same]
  exact pure a

end Act.Counts

namespace Act.IsHonest

/-- An act that misses no values. -/
theorem works (works : act.Works Fault.isUnderflow) : act.IsHonest :=
  fun call needed available short => by cases (works call _ _ (Prod.ext short rfl)).2

theorem reads (reads : act.Reads Fault.isUnderflow) : act.IsHonest := works (.reads reads)

theorem sure (sure : act.IsSure) : act.IsHonest := works (.sure sure)

theorem bind (first : act.IsHonest) (second : ∀ a, (rest a).IsHonest) : (act >>= rest).IsHonest :=
  fun _ => (Counts.bind (.ofHonest first) fun a _ _ => .ofHonest (second a)).honest

theorem pop : (Act.pop : Act ω π Value).IsHonest := by
  intro call needed available short
  cases held : call.machine.stack with
  | nil =>
    rw [pop_run_nil held] at short
    cases short
    exact Nat.one_pos
  | cons top rest =>
    rw [pop_run_cons held] at short
    cases short

end Act.IsHonest

/-- What comes after an act that changes nothing and misses no values. -/
theorem Act.Counts.read (reads : act.Reads Fault.isUnderflow)
    (second : ∀ a, act.run.run call = (.ok a, call) → (rest a).Counts (wordRest a) call) :
    (act >>= rest).Counts (.ofAct act >>= wordRest) call := by
  refine bind (ofHonest (.reads reads)) fun a left ran => ?_
  obtain ⟨result, ran', -⟩ := reads call
  cases ran.symm.trans ran'
  exact second a ran

end

/-! ## Ops that do not count -/

namespace Act.IsHonest

variable {α : Type} {scope : Scope}

theorem unary {f : Value → Except Fault Value} (late : ∀ x, Fault.Late (f x)) :
    (Builtin.unary f scope : Act ω π _).IsHonest :=
  bind (reads (.noParams scope)) fun _ => bind pop fun value =>
    bind (reads (.late (late value))) fun _ => sure (.pure _)

theorem discard : (Shuffle.discard scope : Act ω π _).IsHonest :=
  bind (reads (.noParams scope)) fun _ => bind pop fun _ => sure (.pure _)

theorem size : (Shuffle.size scope : Act ω π _).IsHonest :=
  bind (reads (.noParams scope)) fun _ => reads (.look fun _ => .pure _)

theorem unpack : (Shuffle.unpack scope : Act ω π _).IsHonest := by
  refine bind (reads (.params _)) fun keys => bind pop fun value => ?_
  split
  · exact sure (.pure _)
  · exact sure (.pure _)
  · exact reads (.throw rfl)
  · exact reads (.params _)
  · exact reads (.throw rfl)

theorem nextParams : (Shuffle.nextParams scope : Act ω π _).IsHonest := by
  refine bind (reads (.noParams scope)) fun _ => bind pop fun value => ?_
  split
  · exact sure (.bind (.change _) fun _ => .pure _)
  · exact reads (.throw rfl)

theorem require : (Assertion.require scope : Act ω π _).IsHonest := by
  refine bind (reads (.params _)) fun params => bind pop fun value => ?_
  simp only
  split
  · exact bind (reads (.throw rfl)) fun _ => sure (.pure _)
  · exact sure (.pure _)

theorem control {word : Act ω π Unit} (honest : word.IsHonest) : (Builtin.control word scope).IsHonest :=
  bind (reads (.noParams scope)) fun _ => bind honest fun _ => sure (.pure _)

theorem closeLoop : (Flow.closeLoop : Act ω π Unit).IsHonest := by
  refine works (.look fun call => ?_)
  split
  · exact .sure (.change _)
  · exact .throw rfl

/-- An op that works on resources is as honest as what it does with a plugin that it finds. -/
theorem resolve {role : Role} {rest : Plugin π × String × Scope → Act ω π α} {call : Call ω π}
    (each : ∀ plugin uri params, Resource.Finds call.machine.registry role scope plugin uri params →
      (rest (plugin, uri, params)).IsHonest) {needed available : Nat}
    (short : ((Resource.resolve role scope >>= rest).run.run call).1 =
      .error (.stackUnderflow needed available)) : available < needed := by
  obtain ⟨result, ran, other⟩ := Reads.resolve role scope call
  rw [run_bind, ran] at short
  cases result with
  | ok found =>
    obtain ⟨plugin, uri, params⟩ := found
    rw [Resource.resolve_run] at ran
    have finds := Resource.target_finds (Prod.mk.inj ran).1
    exact each plugin uri params finds call needed available short
  | error fault =>
    cases short
    cases other _ rfl

end Act.IsHonest

/-! ## Taking values -/

namespace Act.Counts

variable {α β : Type} {call : Call ω π}

/-- What comes of the stack as it is in memory. -/
theorem run_values (rest : List Value → WordAct ω π β) :
    (WordAct.values >>= rest).run.run call = (rest call.machine.stack.reverse).run.run call := rfl

theorem popMany (n : Nat) : (Act.popMany n : Act ω π _).Counts (WordAct.popMany n) call := by
  by_cases few : call.machine.stack.length < n
  · refine ofShort few ((IsLocal.popMany_run n call).trans (if_pos few)) ?_
    rw [WordAct.popMany, run_values]
    simp only [List.length_reverse]
    rw [if_pos few]
    rfl
  · have enough : n ≤ call.machine.stack.length := Nat.le_of_not_lt few
    refine ofOk ((IsLocal.popMany_run n call).trans (if_neg few)) ?_
    rw [WordAct.popMany, run_values]
    simp only [List.length_reverse]
    rw [if_neg few, WordAct.run_word (Word.sub?_eq enough),
      WordAct.run_word (Word.splitAt?_reverse enough), List.reverse_reverse]
    rfl

theorem popPair : (Act.popPair : Act ω π _).Counts WordAct.popPair call := by
  have counts : (Act.popMany 2 : Act ω π _).Counts (WordAct.popMany 2) call := popMany 2
  have same := counts.same
  rw [IsLocal.popMany_run] at same
  by_cases few : call.machine.stack.length < 2
  · rw [if_pos few] at same
    refine ofShort few (IsLocal.popPair_run_short few) ?_
    rw [WordAct.popPair, WordAct.run_bind, same]
  · obtain ⟨y, x, rest, held⟩ : ∃ y x rest, call.machine.stack = y :: x :: rest := by
      rcases held : call.machine.stack with _ | ⟨y, _ | ⟨x, rest⟩⟩
      · exact absurd (by simp [held]) few
      · exact absurd (by simp [held]) few
      · exact ⟨y, x, rest, rfl⟩
    rw [if_neg few, held] at same
    refine ofOk (IsLocal.popPair_run_cons held) ?_
    rw [WordAct.popPair, WordAct.run_bind, same]
    rfl

/-- A value can be looked for below as many others as a word can count but one. -/
theorem peek {offset : Nat} (small : offset + 1 < Word.limit) :
    (Act.peek offset : Act ω π _).Counts (WordAct.peek offset) call := by
  have peeked := IsLocal.peek_run offset call
  have counted : ¬ maxCount ≤ offset := by
    simp only [maxCount, Word.limit] at small ⊢
    omega
  rw [if_neg counted] at peeked
  by_cases few : call.machine.stack.length ≤ offset
  · rw [List.getElem?_eq_none few] at peeked
    refine ofShort (Nat.lt_succ_of_le few) peeked ?_
    rw [WordAct.peek, run_values]
    simp only [List.length_reverse]
    rw [if_pos few, WordAct.run_word (Word.add?_eq small)]
    rfl
  · have inside : offset < call.machine.stack.length := Nat.lt_of_not_le few
    rw [List.getElem?_eq_getElem inside] at peeked
    refine ofOk peeked ?_
    rw [WordAct.peek, run_values]
    simp only [List.length_reverse]
    rw [if_neg few, Word.fromEnd?_eq (by rwa [List.length_reverse]), List.reverse_reverse,
      List.getElem?_eq_getElem inside]
    rfl

/-! ## Ops on values -/

variable {scope : Scope}

/-- A result that is pushed. -/
theorem answer {result : Except Fault α} (late : Fault.Late result) (push : α → List Value) :
    (Act.ofExcept result >>= fun a => Pure.pure (push a) : Act ω π _).Counts
      (WordAct.ofAct (Act.ofExcept result) >>= fun a => Pure.pure (push a)) call :=
  read (.late late) fun a _ => pure (push a)

theorem binary {f : Value → Value → Except Fault Value} (late : ∀ x y, Fault.Late (f x y)) :
    (Builtin.binary f scope : Act ω π _).Counts (.binary f scope) call :=
  read (.noParams scope) fun _ _ => bind popPair fun pair _ _ => answer (late pair.1 pair.2) ([·])

theorem predicate (f : Value → Value → Bool) :
    (Builtin.predicate f scope : Act ω π _).Counts (.predicate f scope) call :=
  binary fun _ _ => .ok _

theorem ordered (f : Ordering → Bool) :
    (Builtin.ordered f scope : Act ω π _).Counts (.ordered f scope) call :=
  binary fun x y => .map _ (Value.compare_late x y)

theorem dup (few : ∀ params, Param.record {} Shuffle.DupParams.field scope = .ok params →
      params.offset + 1 < Word.limit) :
    (Shuffle.dup host scope).Counts (.dup host scope) call := by
  unfold Shuffle.dup WordAct.dup
  cases given : Param.record {} Shuffle.DupParams.field scope with
  | error fault => exact read (.params _) fun _ ran => by cases ran
  | ok params =>
    refine read (.params _) fun params' ran => ?_
    cases ran
    exact bind (peek (few params given)) fun value left _ => ⟨rfl, nofun⟩

/-- Offsets that lie among the items choose some of them. -/
theorem reorder?_eq {order : List Nat} {items : List Value}
    (inside : ∀ offset ∈ order, offset < items.length) :
    WordAct.reorder? order items = some (Shuffle.reorder order items) := by
  have reversed : ∀ offset ∈ order.reverse, offset < items.length :=
    fun offset there => inside offset (List.mem_reverse.mp there)
  rw [WordAct.reorder?, Word.mapM_fromEnd? reversed .null, Shuffle.reorder, List.map_reverse]

theorem swap : (Shuffle.swap scope : Act ω π _).Counts (.swap scope) call := by
  refine read (.params _) fun order _ => ?_
  cases within : order.find? fun offset => decide (order.length ≤ offset) with
  | some offset => exact ofHonest (.reads (.blame _))
  | none =>
    refine bind (popMany _) fun items left taken => word (reorder?_eq fun offset there => ?_)
    have small : offset < order.length := by simpa using List.find?_eq_none.mp within offset there
    rw [IsLocal.popMany_run] at taken
    split at taken
    · cases taken
    · next enough =>
      cases taken
      rwa [List.length_reverse, List.length_take, Nat.min_eq_left (Nat.le_of_not_lt enough)]

theorem pack : (Shuffle.pack scope : Act ω π _).Counts (.pack scope) call := by
  refine read (.params _) fun params _ => read (.params _) fun count _ => ?_
  have packed : (do
      let items ← Act.popMany count
      return [Shuffle.composite params.keys (if params.forward then items else items.reverse)] :
        Act ω π (List Value)).Counts (do
      let items ← WordAct.popMany count
      return [Shuffle.composite params.keys (if params.forward then items else items.reverse)]) call :=
    bind (popMany count) fun _ _ _ => pure _
  simp only
  generalize params.keys = keys at packed ⊢
  cases keys with
  | none => exact packed
  | some keys =>
    simp only
    split
    · exact read (.blame _) fun _ _ => packed
    · exact packed

/-- The arguments of a format string are counted in words, as it has no more parts than characters. -/
theorem fill (few : ∀ text, scope.get? "fmt" = some (.str text) → text.length < Word.limit) :
    (Format.fill scope : Act ω π _).Counts (.fill scope) call := by
  unfold Format.fill WordAct.fill
  cases given : scope.get? "fmt" with
  | none => exact ofHonest (.reads (.blame _))
  | some value =>
    cases value with
    | str text =>
      refine read (.late (.mapError (fun _ => rfl) _)) fun template parsed => ?_
      refine bind (popMany _) fun args _ _ => ?_
      have parts : template.length ≤ text.length := by
        cases read : Format.Template.parse text with
        | error fault =>
          rw [read] at parsed
          cases parsed
        | ok template' =>
          rw [read] at parsed
          cases parsed
          exact Format.Template.pieces_length read
      refine known (Format.Template.renderFrom?_yields ?_) (answer (.mapError (fun _ => rfl) _) _)
      calc 0 + template.length = template.length := Nat.zero_add _
        _ ≤ text.length := parts
        _ < Word.limit := few text given
    | null | bool _ | num _ | arr _ | obj _ => exact ofHonest (.reads (.blame _))

/-! ## Control words -/

theorem control {word : Act ω π Unit} {inWords : WordAct ω π Unit} (counts : word.Counts inWords call) :
    (Builtin.control word scope).Counts (.control inWords scope) call :=
  read (.noParams scope) fun _ _ => bind counts fun _ _ _ => pure _

/-- The open blocks are counted in words, as they are no more than the ops. -/
theorem partner {seek : Flow.Seek} {scan : Nat → List Value → Except Fault Nat} (leads : seek.Leads scan)
    (late : ∀ ops, Fault.Late (scan 0 ops)) (few : call.frame.ops.length < Word.limit) :
    (Flow.upcoming >>= fun ops => Act.ofExcept (scan 0 ops) : Act ω π Nat).Counts (.partner seek) call := by
  refine read .upcoming fun ops ahead => ?_
  cases ahead
  refine known (leads.search? ?_) (ofHonest (.reads (.late (late _))))
  calc 0 + (call.frame.ops.drop call.frame.pc).length
      ≤ call.frame.ops.length := by simp
    _ < Word.limit := few

theorem search {seek : Flow.Seek} {scan? : Nat → List Value → Option Nat} {next : Nat → Act ω π Unit}
    (leads : seek.Leads fun nested ops => seek.orMissing (scan? nested ops))
    (other : seek.missing.isEarly = false) (few : call.frame.ops.length < Word.limit)
    (sure : ∀ count, (next count).IsSure) :
    (Flow.upcoming >>= fun ops =>
        match scan? 0 ops with
        | some count => next count
        | none => MonadExcept.throw seek.missing).Counts
      (WordAct.partner seek >>= fun count => .ofAct (next count)) call := by
  have late (ops : List Value) : Fault.Late (seek.orMissing (scan? 0 ops)) := by
    cases scan? 0 ops with
    | some count => exact .ok count
    | none => exact .error other
  have counts := bind (partner leads late few) fun count _ _ => ofHonest (.sure (sure count))
  rw [bind_assoc] at counts
  convert counts using 3 with ops
  cases scan? 0 ops <;> rfl

theorem leaveLoop (few : call.frame.ops.length < Word.limit) :
    (Flow.leaveLoop : Act ω π Unit).Counts .leaveLoop call :=
  search Flow.Seek.loop_leads rfl few fun _ => .bind (.skip _) fun _ => .change _

/-- Popping the condition leaves the ops as they are. -/
theorem unlessTop {act : Act ω π Unit} {inWords : WordAct ω π Unit}
    (counts : ∀ left : Call ω π, left.frame = call.frame → act.Counts inWords left) :
    (do if (← Act.pop).truthy then Pure.pure () else act).Counts
      (do if (← WordAct.ofAct Act.pop).truthy then Pure.pure () else inWords) call := by
  refine bind (ofHonest .pop) fun top left popped => ?_
  have same : left.frame = call.frame := by
    cases held : call.machine.stack with
    | nil =>
      rw [pop_run_nil held] at popped
      cases popped
    | cons top rest =>
      rw [pop_run_cons held] at popped
      cases popped
      rfl
  split
  · exact pure ()
  · exact counts left same

theorem continueIf (few : call.frame.ops.length < Word.limit) :
    (Flow.continueIf : Act ω π Unit).Counts .continueIf call :=
  unlessTop fun _ same => leaveLoop (same ▸ few)

theorem openIf (few : call.frame.ops.length < Word.limit) :
    (Flow.openIf : Act ω π Unit).Counts .openIf call :=
  unlessTop fun _ same => search Flow.Seek.branch_leads rfl (same ▸ few) .skip

theorem otherwise (few : call.frame.ops.length < Word.limit) :
    (Flow.otherwise : Act ω π Unit).Counts .otherwise call := by
  have counts : ((Flow.upcoming >>= fun ops => Act.ofExcept (Flow.blockEnd 0 ops)) >>= Flow.skip :
      Act ω π Unit).Counts .otherwise call :=
    bind (partner Flow.Seek.block_leads (Flow.blockEnd_late 0) few) fun count _ _ =>
      ofHonest (.sure (.skip count))
  rwa [bind_assoc] at counts

/-! ## Resources -/

/-- A plugin of variables misses no values, and what is asked of another one is honest. -/
theorem fetch (honest : ∀ plug uri params,
      Resource.Finds call.machine.registry .getter scope (.foreign plug) uri params →
        (host.get plug uri params).IsHonest) :
    (Resource.fetch host scope).Counts (.ofAct (Resource.fetch host scope)) call := by
  refine ⟨rfl, fun needed available short => IsHonest.resolve (fun plugin uri params finds => ?_) short⟩
  refine .bind ?_ fun _ => .sure (.pure _)
  rcases plugin with reach | plug
  · exact .works (.getVariable reach uri params)
  · exact honest plug uri params finds

theorem store (honest : ∀ plug uri params,
      Resource.Finds call.machine.registry .putter scope (.foreign plug) uri params →
        ∀ value, (host.put plug value uri params).IsHonest) :
    (Resource.store host scope).Counts (.ofAct (Resource.store host scope)) call := by
  refine ⟨rfl, fun needed available short => IsHonest.resolve (fun plugin uri params finds => ?_) short⟩
  refine .bind .pop fun value => .bind ?_ fun _ => .sure (.pure _)
  rcases plugin with reach | plug
  · exact .works (.putVariable reach value uri params)
  · exact honest plug uri params finds value

theorem remove (honest : ∀ plug uri params,
      Resource.Finds call.machine.registry .deleter scope (.foreign plug) uri params →
        (host.delete plug uri params).IsHonest) :
    (Resource.remove host scope).Counts (.ofAct (Resource.remove host scope)) call := by
  refine ⟨rfl, fun needed available short => IsHonest.resolve (fun plugin uri params finds => ?_) short⟩
  refine .bind ?_ fun _ => .sure (.pure _)
  rcases plugin with reach | plug
  · exact .works (.deleteVariable reach uri params)
  · exact honest plug uri params finds

end Act.Counts

/-! ## Built-in ops -/

/-- What each field that is read keeps holds of the record that is read. -/
theorem Param.record_keeps {α : Type} {field : α → String → Value → Param.Read α} {scope : Scope}
    (keeps : α → Prop)
    (step : ∀ acc key value next, (key, value) ∈ scope → keeps acc → field acc key value = .ok next →
      keeps next)
    {first last : α} (start : keeps first) (read : Param.record first field scope = .ok last) :
    keeps last := by
  induction scope generalizing first with
  | nil =>
    cases read
    exact start
  | cons entry rest ih =>
    obtain ⟨key, value⟩ := entry
    replace read : (field first key value >>= fun next => Param.record next field rest) = .ok last := read
    cases taken : field first key value with
    | error fault =>
      rw [taken] at read
      cases read
    | ok next =>
      rw [taken] at read
      have kept : keeps next := step first key value next (List.mem_cons_self ..) start taken
      exact ih (fun acc key value next there => step acc key value next (List.mem_cons_of_mem _ there))
        kept read

/-- What the op finds has a count that is a word, and so is a count that it is given. -/
structure Call.Fits (call : Call ω π) (scope : Scope) : Prop where
  stack : call.machine.stack.length < Word.limit
  ops : call.frame.ops.length < Word.limit
  text : ∀ key text, (key, Value.str text) ∈ scope → text.length < Word.limit
  given : ∀ key i, (key, Value.num (.int i)) ∈ scope → i < Word.limit

namespace Builtin

/-- The op needs more values than a word can count: as many are above the one that it copies as a word
can count. -/
def Outgrows (op : Builtin) (scope : Scope) : Prop :=
  op = dup ∧ ∃ params, Param.record {} Shuffle.DupParams.field scope = .ok params ∧
    params.offset + 1 = Word.limit

variable {scope : Scope} {call : Call ω π}

theorem offset_lt (fits : call.Fits scope) {params : Shuffle.DupParams}
    (read : Param.record {} Shuffle.DupParams.field scope = .ok params) : params.offset < Word.limit := by
  refine Param.record_keeps (fun params => params.offset < Word.limit) ?_ (by decide) read
  intro acc key value next there small taken
  unfold Shuffle.DupParams.field at taken
  split at taken
  · cases asked : Param.boolean value with
    | error fault =>
      rw [asked] at taken
      cases taken
    | ok deep =>
      rw [asked] at taken
      cases taken
      exact small
  · cases asked : Param.count value with
    | error fault =>
      rw [asked] at taken
      cases taken
    | ok offset =>
      rw [asked] at taken
      cases taken
      unfold Param.count at asked
      split at asked
      · next i =>
        have given := fits.given _ i there
        split at asked
        · cases asked
        · cases asked
          show i.toNat < Word.limit
          omega
      · cases asked
  · cases taken

/-- What an op that outgrows words does: counting the values that it needs ends the program. -/
theorem act_outgrows {op : Builtin} (fits : call.Fits scope) (outgrows : op.Outgrows scope) :
    (op.wordAct host scope).run.run call = none ∧
      (op.act host scope).run.run call = (.error .countOverflow, call) := by
  obtain ⟨rfl, params, read, beyond⟩ := outgrows
  have few : call.machine.stack.length ≤ params.offset := by
    have height := fits.stack
    omega
  constructor
  · show (WordAct.dup host scope).run.run call = none
    have lost : Word.add? params.offset 1 = none := if_neg (by omega)
    have peeked : (WordAct.peek params.offset : WordAct ω π Value).run.run call = none := by
      rw [WordAct.peek, Act.Counts.run_values]
      simp only [List.length_reverse]
      rw [if_pos few, lost]
      rfl
    rw [WordAct.dup, read]
    show (WordAct.peek params.offset >>= _).run.run call = none
    rw [WordAct.run_bind, peeked]
  · show (Shuffle.dup host scope).run.run call = _
    have greatest : Act.maxCount ≤ params.offset := by
      simp only [Act.maxCount, Word.limit] at beyond ⊢
      omega
    rw [Shuffle.dup, read]
    show (Act.peek params.offset >>= _).run.run call = _
    rw [run_bind, Act.IsLocal.peek_run, if_pos greatest]

/-- A built-in op does what it does in words, so that no sum or difference is none and no place is outside,
and if it misses values, it needs more than there are. One that outgrows words cannot count them, and ends the
program. -/
theorem act_counts {op : Builtin} (fits : call.Fits scope)
    (honest : Act.Reaches (· = call.machine.registry) (fun _ act => act.IsHonest) host op scope) :
    (¬ op.Outgrows scope → (op.act host scope).Counts (op.wordAct host scope) call) ∧
    (op.Outgrows scope → (op.wordAct host scope).run.run call = none ∧
      (op.act host scope).run.run call = (.error .countOverflow, call)) := by
  refine ⟨fun stays => ?_, act_outgrows fits⟩
  cases op with
  | add => exact .binary Arith.add_late
  | subtract => exact .binary Arith.subtract_late
  | multiply => exact .binary Arith.multiply_late
  | divide => exact .binary Arith.divide_late
  | modulo => exact .binary Arith.modulo_late
  | both | either | differ | equal | unequal => exact .predicate _
  | greater | atLeast | less | atMost => exact .ordered _
  | negation | asBool => exact .ofHonest (.unary fun _ => .ok _)
  | asInt => exact .ofHonest (.unary Arith.toInt_late)
  | asFloat => exact .ofHonest (.unary Arith.toFloat_late)
  | dup =>
    refine .dup fun params read => ?_
    have small := offset_lt fits read
    have apart : params.offset + 1 ≠ Word.limit := fun beyond => stays ⟨rfl, params, read, beyond⟩
    omega
  | swap => exact .swap
  | discard => exact .ofHonest .discard
  | size => exact .ofHonest .size
  | pack => exact .pack
  | unpack => exact .ofHonest .unpack
  | nextParams => exact .ofHonest .nextParams
  | openLoop => exact .ofHonest (.control (.sure (.change _)))
  | closeLoop => exact .ofHonest (.control .closeLoop)
  | leaveLoop => exact .control (.leaveLoop fits.ops)
  | continueIf => exact .control (.continueIf fits.ops)
  | openIf => exact .control (.openIf fits.ops)
  | otherwise => exact .control (.otherwise fits.ops)
  | closeIf => exact .ofHonest (.control (.sure (.pure ())))
  | recurse => exact .ofHonest (.control (.sure (.change _)))
  | fetch => exact .fetch fun plug uri params => honest.getter rfl _ rfl plug uri params
  | store => exact .store fun plug uri params => honest.putter rfl _ rfl plug uri params
  | remove => exact .remove fun plug uri params => honest.deleter rfl _ rfl plug uri params
  | format => exact .fill fun text given => fits.text _ text (Table.mem_of_get? given)
  | require => exact .ofHonest .require

/-- To copy the value below as many others as a word can count but one takes as many values as a word can
count, and it is said so. -/
theorem act_counts_last_offset :
    let host : Host (World Unit) (Plug Empty) := Standard.host Standard.noGuests
    let call : Call (World Unit) (Plug Empty) :=
      ⟨{ registry := Registry.builtins, stack := [.null], world := { guest := () } }, .root, "dup"⟩
    let scope : Scope := [("offset", .num (.int 0xfffffffffffffffe))]
    call.Fits scope ∧ ¬ dup.Outgrows scope ∧
      (dup.wordAct host scope).run.run call =
        some (.error (.stackUnderflow 0xffffffffffffffff 1), call) := by
  intro host call scope
  have fits : call.Fits scope :=
    ⟨by decide, by decide, by simp [scope], by simp [scope, Word.limit]⟩
  have stays : ¬ dup.Outgrows scope := by
    rintro ⟨-, params, read, beyond⟩
    cases read
    cases beyond
  have honest : Act.Reaches (· = call.machine.registry) (fun _ act => act.IsHonest) host dup scope :=
    (Registry.builtins_onlyVariables.finds dup scope).reaches
  have ran : (dup.act host scope).run.run call =
      (.error (.stackUnderflow 0xffffffffffffffff 1), call) := rfl
  exact ⟨fits, stays, ((act_counts fits honest).1 stays).same.trans (congrArg some ran)⟩

/-- At the greatest offset, counting the values that are needed ends the program. -/
theorem act_counts_greatest_offset :
    let host : Host (World Unit) (Plug Empty) := Standard.host Standard.noGuests
    let call : Call (World Unit) (Plug Empty) :=
      ⟨{ registry := Registry.builtins, stack := [], world := { guest := () } }, .root, "dup"⟩
    let scope : Scope := [("offset", .num (.int 0xffffffffffffffff))]
    (dup.wordAct host scope).run.run call = none ∧
      (dup.act host scope).run.run call = (.error .countOverflow, call) ∧
      Fault.countOverflow.isCrash = true :=
  ⟨rfl, rfl, rfl⟩

end Builtin

end DocMachine
