import DocMachine.Proofs.Containment
import DocMachine.Proofs.Permuted

/-!
# Packing and unpacking

What is packed can be unpacked. An array gives its items back in their order, and an object, asked for all
its keys, the values under them, though each removal puts another entry into the free place.

* `Builtin.Rewrites`: what an op makes of the stack, wherever it is run.
* `Builtin.Chain`: what ops make of it one after the other.
* `Shuffle.Packs` and `Shuffle.Unpacks`: how the parameters of the two ops are read.
* `Shuffle.Held`: the keys are in an object, each asked for once.

Results:
1. `Shuffle.takeOut_held`: keys are looked up, though each removal changes the table.
2. `Builtin.pack_rewrites`, `Builtin.unpack_items` and `Builtin.unpack_entries`: what the ops do.
3. `Builtin.pack_restored`: unpacking after packing restores the stack, or reverses the values that were
   packed in reverse.
-/

namespace DocMachine

/-! ## What success tells -/

/-- Values are popped, and the answer is made of them. -/
theorem Act.popMany_eq_ok {ω π α : Type} {count : Nat} {answer : List Value → α} {a : α}
    {call left : Call ω π} :
    (Act.popMany count >>= fun items => pure (answer items) : Act ω π α).run.run call =
      (.ok a, left) ↔ count ≤ call.machine.stack.length ∧
        answer (call.machine.stack.take count).reverse = a ∧ call.popped count = left := by
  rw [run_bind, Act.IsLocal.popMany_run]
  by_cases few : call.machine.stack.length < count
  · rw [if_pos few]
    exact ⟨nofun, fun ran => absurd ran.1 (Nat.not_le.mpr few)⟩
  · rw [if_neg few]
    constructor
    · intro ran
      cases ran
      exact ⟨Nat.le_of_not_lt few, rfl, rfl⟩
    · rintro ⟨-, rfl, rfl⟩
      rfl

theorem Frame.perform_eq_next {ω π : Type} {act : Act ω π (List Value)} {name : String}
    {frame after : Frame} {machine left : Machine ω π} :
    frame.perform act name machine = .next after left ↔ ∃ values call,
      act.run.run ⟨machine, frame.spent, name⟩ = (.ok values, call) ∧ call.frame = after ∧
        call.machine.pushAll values = left := by
  constructor
  · intro went
    obtain ⟨turn, comes, performs⟩ := perform_performs act name frame machine
    rw [comes] at went
    cases performs with
    | answered ran =>
      cases went
      exact ⟨_, _, ran, rfl, rfl⟩
    | refused => cases went
  · rintro ⟨values, call, ran, rfl, rfl⟩
    rw [perform, ran]

namespace Machine

variable {ω π : Type}

theorem pushAll_eq (machine : Machine ω π) (values : List Value) :
    machine.pushAll values = { machine with stack := values.reverse ++ machine.stack } := by
  rw [pushAll, List.foldl_flip_cons_eq_append, List.map_id']

end Machine

namespace Table

variable {κ α : Type} [DecidableEq κ]

theorem mem_keys_erase {table : Table κ α} (apart : table.keys.Nodup) (key other : κ) :
    other ∈ (table.erase key).keys ↔ key ≠ other ∧ other ∈ table.keys := by
  rw [mem_keys, mem_keys, get?_erase apart]
  by_cases same : key = other
  · simp [same]
  · simp [same]

/-- Looking up all its keys gives the values of a table. -/
theorem map_get?_keys {table : Table κ α} (apart : table.keys.Nodup) :
    table.keys.map table.get? = table.values.map some := by
  rw [keys, values, List.map_map, List.map_map]
  exact List.map_congr_left fun entry there => (get?_eq_some apart _ _).mpr there

end Table

namespace Builtin

/-- Wherever it is run, with these parameters, the op goes on with another stack, and with everything else
as it was. -/
def Rewrites (op : Builtin) (scope : Scope) (before after : List Value) : Prop :=
  ∀ ⦃ω π : Type⦄ (host : Host ω π) (callee : Frame → Machine ω π → Run ω π) (name : String)
    (frame : Frame) (machine : Machine ω π), machine.stack = before →
    frame.dispatch host callee name scope (.builtin op) machine =
      .next frame.spent { machine with stack := after }

/-- Where it is run, the op goes on as it rewrites the stack. -/
theorem Rewrites.next {ω π : Type} {host : Host ω π} {callee : Frame → Machine ω π → Run ω π}
    {op : Builtin} {name : String} {scope : Scope} {frame after : Frame} {machine left : Machine ω π}
    {stack : List Value} (rewrites : op.Rewrites scope machine.stack stack)
    (accepted : frame.dispatch host callee name scope (.builtin op) machine = .next after left) :
    after = frame.spent ∧ left = { machine with stack := stack } :=
  Turn.next.inj (accepted.symm.trans (rewrites host callee name frame machine rfl))

/-- Ops with their parameters take a stack to another one, each the stack that the one before it left. -/
inductive Chain : List (Builtin × Scope) → List Value → List Value → Prop
  | nil (stack : List Value) : Chain [] stack stack
  | cons {op : Builtin} {scope : Scope} {rest : List (Builtin × Scope)}
      {before middle after : List Value} : op.Rewrites scope before middle → Chain rest middle after →
      Chain ((op, scope) :: rest) before after

theorem Chain.append {first second : List (Builtin × Scope)} {before middle after : List Value}
    (one : Chain first before middle) (other : Chain second middle after) :
    Chain (first ++ second) before after := by
  induction one with
  | nil => exact other
  | cons rewrites _ ih => exact .cons rewrites (ih other)

end Builtin

namespace Shuffle

/-- The parameters of `pack` are read as these. -/
def Packs (scope : Scope) (params : PackParams) : Prop :=
  Param.record {} PackParams.field scope = .ok params

/-- The parameter of `unpack` is read as these keys, or as none. -/
def Unpacks (scope : Scope) (keys : Option (List String)) : Prop :=
  Param.record none unpackField scope = .ok keys

/-- The values that are packed, in their order: the old top comes last, or first if they are packed in
reverse. -/
def taken (forward : Bool) (count : Nat) (stack : List Value) : List Value :=
  if forward then (stack.take count).reverse else stack.take count

/-- The values that a composite is unpacked to, with keys or without. -/
def spread {ω π : Type} : Option (List String) → Value → Act ω π (List Value)
  | none, .arr items => pure items
  | none, .obj fields => pure (fields.map fun entry => .str entry.1)
  | none, other => throw (.type (.unpackWithoutKeys other.typeName))
  | some keys, .obj fields => Act.params (takeOut fields keys.reverse)
  | some _, other => throw (.type (.unpackWithKeys other.typeName))

/-- The composite is popped first, and then unpacked. -/
theorem unpack_run {ω π : Type} {scope : Scope} {keys : Option (List String)} {call : Call ω π}
    {top : Value} {below : List Value} (reads : Unpacks scope keys)
    (holds : call.machine.stack = top :: below) :
    (unpack scope : Act ω π _).run.run call =
      (spread keys top : Act ω π _).run.run
        { call with machine := { call.machine with stack := below } } := by
  have popped : (unpack scope : Act ω π _) = Act.pop >>= spread keys := by
    unfold unpack
    rw [show Param.record none unpackField scope = .ok keys from reads]
    rfl
  rw [popped, run_bind, Act.pop_run_cons holds]

/-- The keys are in an object, and each is asked for once. -/
def Held (fields : Scope) (keys : List String) : Prop :=
  keys.Nodup ∧ ∀ key ∈ keys, key ∈ fields.keys

variable {fields : Scope} {keys : List String} {key : String} {value : Value}

/-- After one of them has been taken out, the other keys are still held. -/
theorem held_cons (apart : fields.keys.Nodup) :
    Held fields (key :: keys) ↔ key ∈ fields.keys ∧ Held (Table.erase fields key) keys := by
  have others : ∀ other, other ∈ Table.keys (Table.erase fields key) ↔ key ≠ other ∧ other ∈ fields.keys :=
    Table.mem_keys_erase apart key
  constructor
  · rintro ⟨distinct, held⟩
    obtain ⟨fresh, distinct⟩ := List.nodup_cons.mp distinct
    obtain ⟨here, held⟩ := List.forall_mem_cons.mp held
    exact ⟨here, distinct, fun other given =>
      (others other).mpr ⟨(ne_of_mem_of_not_mem given fresh).symm, held other given⟩⟩
  · rintro ⟨here, distinct, held⟩
    exact ⟨List.nodup_cons.mpr ⟨fun again => ((others key).mp (held key again)).1 rfl, distinct⟩,
      List.forall_mem_cons.mpr ⟨here, fun other given => ((others other).mp (held other given)).2⟩⟩

theorem takeOut_cons (found : fields.get? key = some value) :
    takeOut fields (key :: keys) = (takeOut (Table.erase fields key) keys).map (value :: ·) := by
  rw [takeOut, found]

/-- Keys that are held are looked up. -/
theorem takeOut_held (apart : fields.keys.Nodup) (held : Held fields keys) :
    ∃ values, values.map some = keys.map fields.get? ∧ takeOut fields keys = .ok values := by
  induction keys generalizing fields with
  | nil => exact ⟨[], rfl, rfl⟩
  | cons key keys ih =>
    obtain ⟨here, later⟩ := (held_cons apart).mp held
    obtain ⟨value, found⟩ := Option.ne_none_iff_exists'.mp ((Table.mem_keys fields key).mp here)
    obtain ⟨values, looked, taken⟩ := ih (Table.nodup_erase apart key) later
    have same : keys.map (Table.get? (Table.erase fields key)) = keys.map fields.get? := by
      refine List.map_congr_left fun other given => ?_
      have differ : key ≠ other := ((Table.mem_keys_erase apart key other).mp (later.2 other given)).1
      rw [Table.get?_erase apart, if_neg differ]
    refine ⟨value :: values, ?_, ?_⟩
    · rw [List.map_cons, List.map_cons, looked, same, found]
    · rw [takeOut_cons found, taken]
      rfl

/-- A table gives back all its values, the last one first. -/
theorem takeOut_reverse (apart : fields.keys.Nodup) :
    takeOut fields fields.keys.reverse = .ok fields.values.reverse := by
  obtain ⟨values, looked, taken⟩ :=
    takeOut_held apart ⟨List.nodup_reverse.mpr apart, fun key => List.mem_reverse.mp⟩
  rw [List.map_reverse, Table.map_get?_keys apart, ← List.map_reverse] at looked
  rw [taken, List.map_injective_iff.mpr (Option.some_injective Value) looked]

end Shuffle

namespace Builtin

open Shuffle

variable {scope : Scope} {stack below : List Value}

/-- A handler that leaves everything but the stack alone rewrites the stack. -/
theorem rewrites_of_run {op : Builtin} {before values : List Value}
    (ran : ∀ ⦃ω π : Type⦄ (host : Host ω π) (call : Call ω π), call.machine.stack = before →
      (op.act host scope).run.run call =
        (.ok values, { call with machine := { call.machine with stack := below } })) :
    op.Rewrites scope before (values.reverse ++ below) := by
  intro ω π host callee name frame machine holds
  exact Frame.perform_eq_next.mpr
    ⟨values, _, ran host ⟨machine, frame.spent, name⟩ holds, rfl, Machine.pushAll_eq _ _⟩

/-- Packing succeeds if each value has a key, or none has one, and if there are values enough. -/
theorem pack_eq_ok {ω π : Type} {call left : Call ω π} {count : Nat} {forward : Bool}
    {keys : Option (List String)} {values : List Value} (reads : Packs scope ⟨some count, forward, keys⟩) :
    (Shuffle.pack scope : Act ω π _).run.run call = (.ok values, left) ↔
      (∀ names ∈ keys, names.length = count) ∧ count ≤ call.machine.stack.length ∧
        [composite keys (taken forward count call.machine.stack)] = values ∧ call.popped count = left := by
  have popped : ∀ keys : Option (List String), (Act.popMany count >>= fun items =>
      pure [composite keys (if forward then items else items.reverse)] : Act ω π _).run.run call =
        (.ok values, left) ↔ count ≤ call.machine.stack.length ∧
          [composite keys (taken forward count call.machine.stack)] = values ∧ call.popped count = left := by
    intro keys
    rw [Act.popMany_eq_ok, List.reverse_reverse]
    rfl
  unfold Shuffle.pack
  rw [show Param.record {} PackParams.field scope = .ok ⟨some count, forward, keys⟩ from reads]
  cases keys with
  | none => exact (popped none).trans (and_iff_right nofun).symm
  | some names =>
    show (if names.length ≠ count then _ else Act.popMany count >>= _ : Act ω π _).run.run call = _ ↔ _
    by_cases named : names.length = count
    · rw [if_neg (Classical.not_not.mpr named)]
      refine (popped (some names)).trans (and_iff_right ?_).symm
      rintro _ ⟨⟩
      exact named
    · rw [if_pos named]
      exact ⟨nofun, fun ran => absurd (ran.1 names rfl) named⟩

theorem pack_rewrites {count : Nat} {forward : Bool} {keys : Option (List String)}
    (reads : Packs scope ⟨some count, forward, keys⟩) (named : ∀ names ∈ keys, names.length = count)
    (enough : count ≤ stack.length) :
    Builtin.pack.Rewrites scope stack (composite keys
      (if forward then (stack.take count).reverse else stack.take count) :: stack.drop count) := by
  show Builtin.pack.Rewrites scope stack
    ([composite keys (taken forward count stack)].reverse ++ stack.drop count)
  refine rewrites_of_run fun ω π host call holds => ?_
  subst holds
  exact (pack_eq_ok reads).mpr ⟨named, enough, rfl, rfl⟩

theorem unpack_items (reads : Unpacks scope none) (items : List Value) :
    Builtin.unpack.Rewrites scope (.arr items :: below) (items.reverse ++ below) := by
  refine rewrites_of_run fun ω π host call holds => ?_
  show (Shuffle.unpack scope : Act ω π _).run.run call = _
  rw [unpack_run reads holds]
  rfl

theorem unpack_keys {keys : List String} {fields : Scope} {values : List Value}
    (reads : Unpacks scope (some keys)) (taken : takeOut fields keys.reverse = .ok values) :
    Builtin.unpack.Rewrites scope (.obj fields :: below) (values.reverse ++ below) := by
  refine rewrites_of_run fun ω π host call holds => ?_
  show (Shuffle.unpack scope : Act ω π _).run.run call = _
  rw [unpack_run reads holds, spread, taken]
  rfl

/-- An object under all its keys gives back its values, the first one on top. -/
theorem unpack_entries {fields : Scope} (reads : Unpacks scope (some fields.keys))
    (apart : fields.keys.Nodup) :
    Builtin.unpack.Rewrites scope (.obj fields :: below) (fields.values ++ below) := by
  have rewrites : Builtin.unpack.Rewrites scope (.obj fields :: below)
      (fields.values.reverse.reverse ++ below) := unpack_keys reads (takeOut_reverse apart)
  rwa [List.reverse_reverse] at rewrites

/-- The keys and the values of an object that was packed. -/
theorem packed_entries {keys : List String} {values : List Value} (length : keys.length = values.length)
    (apart : keys.Nodup) :
    Table.keys (keys.zip values) = keys ∧ Table.values (keys.zip values) = values ∧
      composite (some keys) values.reverse = .obj (keys.zip values) := by
  have named : Table.keys (keys.zip values) = keys := List.map_fst_zip (Nat.le_of_eq length)
  refine ⟨named, List.map_snd_zip (Nat.le_of_eq length.symm), ?_⟩
  rw [composite, List.reverse_reverse, Table.ofEntries_eq (by rwa [named])]

/-- Values are packed into an array that ends with the old top, and unpacking restores the stack. Packed in
reverse they begin with it, and unpacking reverses them, so that doing it twice restores the stack. With a
key for each value the first key holds the old top, and the same keys restore the stack. -/
theorem pack_restored {stack : List Value} {count : Nat} (enough : count ≤ stack.length) :
    (∀ pack unpack, Packs pack ⟨some count, true, none⟩ → Unpacks unpack none →
      Builtin.pack.Rewrites pack stack (.arr (stack.take count).reverse :: stack.drop count) ∧
        Chain [(.pack, pack), (.unpack, unpack)] stack stack) ∧
    (∀ pack unpack, Packs pack ⟨some count, false, none⟩ → Unpacks unpack none →
      let both := [(Builtin.pack, pack), (.unpack, unpack)]
      Builtin.pack.Rewrites pack stack (.arr (stack.take count) :: stack.drop count) ∧
        Chain both stack ((stack.take count).reverse ++ stack.drop count) ∧
        Chain (both ++ both) stack stack) ∧
    (∀ keys pack unpack, keys.Nodup → keys.length = count →
      Packs pack ⟨some count, true, some keys⟩ → Unpacks unpack (some keys) →
      Builtin.pack.Rewrites pack stack (.obj (keys.zip (stack.take count)) :: stack.drop count) ∧
        Chain [(.pack, pack), (.unpack, unpack)] stack stack) := by
  have unnamed : ∀ names ∈ (none : Option (List String)), names.length = count := nofun
  have whole : stack.take count ++ stack.drop count = stack := List.take_append_drop count stack
  refine ⟨fun pack unpack packs unpacks => ?_, fun pack unpack packs unpacks => ?_,
    fun keys pack unpack apart length packs unpacks => ?_⟩
  · have packed := pack_rewrites packs unnamed enough
    have unpacked : Builtin.unpack.Rewrites unpack (.arr (stack.take count).reverse :: stack.drop count)
        ((stack.take count).reverse.reverse ++ stack.drop count) := unpack_items unpacks _
    rw [List.reverse_reverse, whole] at unpacked
    exact ⟨packed, .cons packed (.cons unpacked (.nil stack))⟩
  · -- What is packed in reverse is an array of the values from the top down.
    have reversed : ∀ {stack : List Value}, count ≤ stack.length →
        Chain [(Builtin.pack, pack), (.unpack, unpack)] stack
          ((stack.take count).reverse ++ stack.drop count) := fun {stack} enough =>
      .cons (pack_rewrites packs unnamed enough) (.cons (unpack_items unpacks _) (.nil _))
    refine ⟨pack_rewrites packs unnamed enough, reversed enough, (reversed enough).append ?_⟩
    have top : (stack.take count).reverse.length = count := by
      rw [List.length_reverse, List.length_take, Nat.min_eq_left enough]
    have again := @reversed ((stack.take count).reverse ++ stack.drop count) (by simp [top])
    rw [List.take_left' top, List.drop_left' top, List.reverse_reverse, whole] at again
    exact again
  · have same : keys.length = (stack.take count).length := by
      rw [length, List.length_take, Nat.min_eq_left enough]
    obtain ⟨named, held, composed⟩ := packed_entries same apart
    have packed := pack_rewrites packs (by rintro _ ⟨⟩; exact length) enough
    simp only [if_true, composed] at packed
    have unpacked : Builtin.unpack.Rewrites unpack
        (.obj (keys.zip (stack.take count)) :: stack.drop count)
        (Table.values (keys.zip (stack.take count)) ++ stack.drop count) :=
      unpack_entries (by rwa [named]) (by rwa [named])
    rw [held, whole] at unpacked
    exact ⟨packed, .cons packed (.cons unpacked (.nil stack))⟩

/-- Two of three values, in all three ways. -/
theorem pack_restored_pair :
    let stack : List Value := [.int 3, .str "b", .null]
    let keys : Scope := [("keys", .arr [.str "y", .str "x"])]
    let plain : Scope := [("n", .int 2)]
    let backward : Scope := [("forward", .bool false), ("n", .int 2)]
    2 ≤ stack.length ∧
      (Packs plain ⟨some 2, true, none⟩ ∧ Packs backward ⟨some 2, false, none⟩ ∧
        Packs (("n", .int 2) :: keys) ⟨some 2, true, some ["y", "x"]⟩ ∧ Unpacks [] none ∧
        Unpacks keys (some ["y", "x"])) ∧
      Chain [(.pack, plain), (.unpack, [])] stack stack ∧
      Chain [(.pack, backward), (.unpack, [])] stack [.str "b", .int 3, .null] ∧
      Builtin.pack.Rewrites (("n", .int 2) :: keys) stack [.obj [("y", .int 3), ("x", .str "b")], .null] ∧
      Chain [(.pack, ("n", .int 2) :: keys), (.unpack, keys)] stack stack := by
  intro stack keys plain backward
  have enough : 2 ≤ stack.length := by decide
  have read : Packs plain ⟨some 2, true, none⟩ ∧ Packs backward ⟨some 2, false, none⟩ ∧
      Packs (("n", .int 2) :: keys) ⟨some 2, true, some ["y", "x"]⟩ ∧ Unpacks [] none ∧
      Unpacks keys (some ["y", "x"]) := ⟨rfl, rfl, rfl, rfl, rfl⟩
  have ⟨packs, packsBack, packsKeys, unpacks, unpacksKeys⟩ := read
  obtain ⟨restored, reversed, keyed⟩ := pack_restored enough
  have both := keyed ["y", "x"] _ _ (by decide) rfl packsKeys unpacksKeys
  exact ⟨enough, read, (restored _ _ packs unpacks).2, (reversed _ _ packsBack unpacks).2.1, both.1, both.2⟩

end Builtin

end DocMachine
