import DocMachine.Proofs.Packing

/-!
# Reordering the top of the stack

Each place at the top takes the value at an offset. Where the offsets are a permutation, the op acts by it:
one after the other, two permutations act as their product, and a permutation is undone by its inverse. The
op asks less of the offsets, though: it takes any that lie among the places. An offset that is given twice
then puts a value into two places, and another value is lost.

* `Shuffle.Orders`: how the parameter of the op is read.
* `Shuffle.chosen`: the stack with the values at these offsets at its top.
* `Shuffle.offsets`: a permutation as a list of offsets.

Results:
1. `Shuffle.swap_eq_ok` and `Builtin.swap_rewrites`: when the op succeeds, and what it does.
2. `Shuffle.getElem?_chosen`: where each value of the reordered stack comes from.
3. `Builtin.swap_acts`: permutations act on the top of the stack.
4. `Shuffle.chosen_perm` and `Builtin.swap_retains`: no value is lost or doubled where no offset is given
   twice, and nowhere else if the values differ.
-/

namespace DocMachine

namespace Shuffle

/-- The parameter of `swap` is read as these offsets. -/
def Orders (scope : Scope) (order : List Nat) : Prop :=
  Param.record [1, 0] orderField scope = .ok order

/-- The offsets lie among the places that they are for. -/
def Within (order : List Nat) : Prop :=
  ∀ offset ∈ order, offset < order.length

instance (order : List Nat) : Decidable (Within order) :=
  inferInstanceAs (Decidable (∀ offset ∈ order, offset < order.length))

/-- The stack with the values at these offsets at its top, in the places of as many others. -/
def chosen (order : List Nat) (stack : List Value) : List Value :=
  order.map (fun offset => stack.getD offset .null) ++ stack.drop order.length

/-- A permutation as a list of offsets: each place takes the value at the offset that it is sent to. -/
def offsets {n : Nat} (p : Equiv.Perm (Fin n)) : List Nat :=
  List.ofFn fun place => (p place).val

/-- Offsets as they are written in a document. -/
def written (order : List Nat) : Scope :=
  [("order", .arr (order.map fun offset : Nat => .int offset))]

variable {order : List Nat} {stack : List Value}

theorem orders_written (order : List Nat) : Orders (written order) order := by
  have each : (order.map fun offset : Nat => Value.int offset).mapM Param.count = .ok order := by
    induction order with
    | nil => rfl
    | cons offset order ih =>
      have counted : Param.count (.int offset) = .ok offset := by
        rw [Value.int, Param.count, if_neg (Int.not_lt.mpr (Int.natCast_nonneg offset)), Int.toNat_natCast]
      rw [List.map_cons, List.mapM_cons, counted, ih]
      rfl
  rw [Orders, written, Param.record, List.foldlM_cons, orderField, Param.sequence, each]
  rfl

/-- Reordering succeeds if the offsets lie among the places, and if there are values enough. -/
theorem swap_eq_ok {ω π : Type} {scope : Scope} {call left : Call ω π} {values : List Value}
    (reads : Orders scope order) :
    (Shuffle.swap scope : Act ω π _).run.run call = (.ok values, left) ↔
      Within order ∧ order.length ≤ call.machine.stack.length ∧
        reorder order (call.machine.stack.take order.length).reverse = values ∧
          call.popped order.length = left := by
  have read : (Act.params (Param.record [1, 0] orderField scope) : Act ω π _) = pure order := by
    rw [show Param.record [1, 0] orderField scope = .ok order from reads]
    rfl
  rw [Shuffle.swap, read, pure_bind]
  cases found : order.find? fun offset => decide (order.length ≤ offset) with
  | none =>
    have within : Within order := by
      simpa [Within] using List.find?_eq_none.mp found
    exact Act.popMany_eq_ok.trans (and_iff_right within).symm
  | some offset =>
    have outside : order.length ≤ offset := by simpa using List.find?_some found
    have given : offset ∈ order := List.mem_of_find?_eq_some found
    exact ⟨nofun, fun ran => absurd (ran.1 offset given) (Nat.not_lt.mpr outside)⟩

/-- The reordered values are pushed onto those that lay beneath them. -/
theorem reorder_append (within : Within order) :
    (reorder order (stack.take order.length).reverse).reverse ++ stack.drop order.length =
      chosen order stack := by
  rw [reorder, List.reverse_reverse, List.reverse_reverse, chosen]
  congr 1
  refine List.map_congr_left fun offset given => ?_
  rw [List.getD_eq_getElem?_getD, List.getD_eq_getElem?_getD, List.getElem?_take_of_lt (within offset given)]

/-- A place at the top holds what lay at the offset given for it, and a deeper one what it held. -/
theorem getElem?_chosen (within : Within order) (enough : order.length ≤ stack.length) (place : Nat) :
    (chosen order stack)[place]? =
      if upper : place < order.length then stack[order[place]]? else stack[place]? := by
  rw [chosen]
  split
  · next upper =>
    have below : order[place] < stack.length :=
      Nat.lt_of_lt_of_le (within _ (List.getElem_mem upper)) enough
    rw [List.getElem?_append_left (by simpa using upper), List.getElem?_map,
      List.getElem?_eq_getElem upper, Option.map_some, List.getD_eq_getElem _ _ below,
      List.getElem?_eq_getElem below]
  · next deeper =>
    have past : order.length ≤ place := Nat.le_of_not_lt deeper
    rw [List.getElem?_append_right (by simpa using past), List.length_map, List.getElem?_drop,
      Nat.add_sub_cancel' past]

theorem length_chosen (enough : order.length ≤ stack.length) :
    (chosen order stack).length = stack.length := by
  rw [chosen, List.length_append, List.length_map, List.length_drop, Nat.add_sub_cancel' enough]

/-! ## Permutations -/

section

variable {n : Nat} (p q : Equiv.Perm (Fin n))

theorem length_offsets : (offsets p).length = n := List.length_ofFn

theorem within_offsets : Within (offsets p) := by
  intro offset given
  obtain ⟨place, rfl⟩ := List.mem_ofFn.mp given
  rw [length_offsets]
  exact (p place).isLt

theorem getElem?_chosen_offsets (enough : n ≤ stack.length) (place : Fin n) :
    (chosen (offsets p) stack)[place.val]? = stack[(p place).val]? := by
  have upper : place.val < (offsets p).length := by rw [length_offsets]; exact place.isLt
  rw [getElem?_chosen (within_offsets p) (by rwa [length_offsets]), dif_pos upper]
  simp [offsets]

theorem getElem?_chosen_deeper (enough : n ≤ stack.length) {place : Nat} (deeper : n ≤ place) :
    (chosen (offsets p) stack)[place]? = stack[place]? := by
  have below : ¬ place < (offsets p).length := by rw [length_offsets]; exact Nat.not_lt.mpr deeper
  rw [getElem?_chosen (within_offsets p) (by rwa [length_offsets]), dif_neg below]

/-- What a permutation makes of the stack is told by what lies where. -/
theorem chosen_eq_of_getElem? {after : List Value} (enough : n ≤ stack.length)
    (upper : ∀ place : Fin n, after[place.val]? = stack[(p place).val]?)
    (deeper : ∀ place, n ≤ place → after[place]? = stack[place]?) : after = chosen (offsets p) stack := by
  refine List.ext_getElem? fun place => ?_
  rcases Nat.lt_or_ge place n with inTop | below
  · rw [upper ⟨place, inTop⟩, ← getElem?_chosen_offsets p enough ⟨place, inTop⟩]
  · rw [deeper place below, getElem?_chosen_deeper p enough below]

/-- Choosing by one permutation and then by another one is choosing by their product. -/
theorem chosen_chosen (enough : n ≤ stack.length) :
    chosen (offsets q) (chosen (offsets p) stack) = chosen (offsets (p * q)) stack := by
  have enough' : n ≤ (chosen (offsets p) stack).length := by
    rwa [length_chosen (by rwa [length_offsets])]
  refine chosen_eq_of_getElem? (p * q) enough (fun place => ?_) fun place below => ?_
  · rw [getElem?_chosen_offsets q enough', getElem?_chosen_offsets p enough, Equiv.Perm.mul_apply]
  · rw [getElem?_chosen_deeper q enough' below, getElem?_chosen_deeper p enough below]

theorem chosen_one (enough : n ≤ stack.length) :
    chosen (offsets (1 : Equiv.Perm (Fin n))) stack = stack :=
  (chosen_eq_of_getElem? 1 enough (fun _ => rfl) fun _ _ => rfl).symm

end

/-! ## Offsets that are given twice -/

theorem chosen_range {n : Nat} (enough : n ≤ stack.length) :
    (List.range n).map (fun offset => stack.getD offset .null) = stack.take n := by
  refine List.ext_getElem (by simp [enough]) fun place _ below => ?_
  have inStack : place < stack.length := Nat.lt_of_lt_of_le (by simp_all) enough
  simp [inStack]

/-- If no offset is given twice, the values are those of the stack. -/
theorem chosen_perm (within : Within order) (enough : order.length ≤ stack.length) (distinct : order.Nodup) :
    (chosen order stack).Perm stack := by
  have among : order ⊆ List.range order.length := fun offset given => List.mem_range.mpr (within offset given)
  -- As many distinct offsets as there are places are all of them.
  have all : order.Perm (List.range order.length) :=
    (List.subperm_of_subset distinct among).perm_of_length_le (by simp)
  have moved := (all.map fun offset => stack.getD offset .null).append_right (stack.drop order.length)
  rwa [chosen_range enough, List.take_append_drop] at moved

/-- If the values are those of the stack, and differ, no offset is given twice. -/
theorem nodup_of_chosen_perm (differ : (stack.take order.length).Nodup)
    (perm : (chosen order stack).Perm stack) : order.Nodup := by
  have whole := List.take_append_drop order.length stack
  have moved : (order.map fun offset => stack.getD offset .null).Perm (stack.take order.length) := by
    refine (List.perm_append_right_iff (stack.drop order.length)).mp ?_
    rwa [whole]
  exact (moved.nodup_iff.mpr differ).of_map _

theorem mem_of_mem_chosen (within : Within order) (enough : order.length ≤ stack.length) {value : Value}
    (there : value ∈ chosen order stack) : value ∈ stack := by
  rcases List.mem_append.mp there with top | beneath
  · obtain ⟨offset, given, rfl⟩ := List.mem_map.mp top
    rw [List.getD_eq_getElem _ _ (Nat.lt_of_lt_of_le (within offset given) enough)]
    exact List.getElem_mem _
  · exact List.mem_of_mem_drop beneath

end Shuffle

namespace Builtin

open Shuffle

variable {scope : Scope} {order : List Nat} {stack : List Value}

theorem swap_rewrites (reads : Orders scope order) (within : Within order)
    (enough : order.length ≤ stack.length) : Builtin.swap.Rewrites scope stack (chosen order stack) := by
  rw [← reorder_append within]
  refine rewrites_of_run fun ω π host call holds => ?_
  subst holds
  exact (swap_eq_ok reads).mpr ⟨within, enough, rfl, rfl⟩

/-- The op goes on only with the values that it has chosen. -/
theorem swap_next {ω π : Type} {host : Host ω π} {callee : Frame → Machine ω π → Run ω π} {name : String}
    {frame after : Frame} {machine left : Machine ω π} (reads : Orders scope order)
    (accepted : frame.dispatch host callee name scope (.builtin .swap) machine = .next after left) :
    Within order ∧ order.length ≤ machine.stack.length ∧ after = frame.spent ∧
      left = { machine with stack := chosen order machine.stack } := by
  obtain ⟨values, call, ran, -, -⟩ := Frame.perform_eq_next.mp accepted
  obtain ⟨within, enough, -, -⟩ := (swap_eq_ok reads).mp ran
  exact ⟨within, enough, (swap_rewrites reads within enough).next accepted⟩

/-- A permutation moves to each place at the top what lay at the offset that the place is sent to, and
leaves what lies deeper. A second permutation after it acts as their product, and its inverse undoes it. -/
theorem swap_acts {n : Nat} (enough : n ≤ stack.length) (p : Equiv.Perm (Fin n)) {first : Scope}
    (reads : Orders first (offsets p)) :
    (∃ after, Builtin.swap.Rewrites first stack after ∧
      (∀ place : Fin n, after[place.val]? = stack[(p place).val]?) ∧
      ∀ place, n ≤ place → after[place]? = stack[place]?) ∧
    (∀ (q : Equiv.Perm (Fin n)) (second both : Scope), Orders second (offsets q) →
      Orders both (offsets (p * q)) → ∃ after, Chain [(.swap, first), (.swap, second)] stack after ∧
        Builtin.swap.Rewrites both stack after) ∧
    (∀ back : Scope, Orders back (offsets p⁻¹) → Chain [(.swap, first), (.swap, back)] stack stack) := by
  have acts : ∀ {q : Equiv.Perm (Fin n)} {scope : Scope} {stack : List Value}, Orders scope (offsets q) →
      n ≤ stack.length → Builtin.swap.Rewrites scope stack (chosen (offsets q) stack) :=
    fun {q} _ _ reads enough => swap_rewrites reads (within_offsets q) (by rwa [length_offsets])
  have high : n ≤ (chosen (offsets p) stack).length := by
    rwa [length_chosen (by rwa [length_offsets])]
  have product : ∀ {q : Equiv.Perm (Fin n)} {second : Scope}, Orders second (offsets q) →
      Chain [(.swap, first), (.swap, second)] stack (chosen (offsets (p * q)) stack) := by
    intro q second reads'
    rw [← chosen_chosen p q enough]
    exact .cons (acts reads enough) (.cons (acts reads' high) (.nil _))
  refine ⟨⟨_, acts reads enough, getElem?_chosen_offsets p enough,
    fun _ => getElem?_chosen_deeper p enough⟩, fun q second both reads' reads'' =>
    ⟨_, product reads', acts reads'' enough⟩, fun back reads' => ?_⟩
  have undone := product reads'
  rwa [mul_inv_cancel, chosen_one enough] at undone

/-- A rotation of three values is not its own inverse: two of them make the one that undoes it. -/
theorem swap_acts_rotation :
    let stack : List Value := [.int 3, .str "b", .null, .bool true]
    let p : Equiv.Perm (Fin 3) := ⟨![2, 0, 1], ![1, 2, 0], by decide, by decide⟩
    let first := written [2, 0, 1]
    let back := written [1, 2, 0]
    3 ≤ stack.length ∧ (Orders first (offsets p) ∧ Orders back (offsets (p * p)) ∧ Orders back (offsets p⁻¹)) ∧
      Builtin.swap.Rewrites first stack [.null, .int 3, .str "b", .bool true] ∧
      (∃ after, Chain [(.swap, first), (.swap, first)] stack after ∧ Builtin.swap.Rewrites back stack after) ∧
      Chain [(.swap, first), (.swap, back)] stack stack := by
  intro stack p first back
  have enough : 3 ≤ stack.length := by decide
  have reads : Orders first (offsets p) := orders_written _
  have reads' : Orders back (offsets (p * p)) ∧ Orders back (offsets p⁻¹) :=
    ⟨orders_written _, orders_written _⟩
  obtain ⟨⟨after, moved, upper, deeper⟩, product, undone⟩ := swap_acts enough p reads
  obtain rfl : after = chosen (offsets p) stack := chosen_eq_of_getElem? p enough upper deeper
  exact ⟨enough, ⟨reads, reads'⟩, moved, product p first back reads reads'.1, undone back reads'.2⟩

/-- Reordering keeps the height of the stack and brings in no value. No value is lost or doubled if no
offset is given twice and, where the values at the top differ, only then. -/
theorem swap_retains {ω π : Type} {host : Host ω π} {callee : Frame → Machine ω π → Run ω π} {name : String}
    {frame after : Frame} {machine left : Machine ω π} (reads : Orders scope order)
    (accepted : frame.dispatch host callee name scope (.builtin .swap) machine = .next after left) :
    (left.stack.length = machine.stack.length ∧ ∀ value ∈ left.stack, value ∈ machine.stack) ∧
    (order.Nodup → left.stack.Perm machine.stack) ∧
    ((machine.stack.take order.length).Nodup → left.stack.Perm machine.stack → order.Nodup) := by
  obtain ⟨within, enough, -, rfl⟩ := swap_next reads accepted
  exact ⟨⟨length_chosen enough, fun value => mem_of_mem_chosen within enough⟩, chosen_perm within enough,
    nodup_of_chosen_perm⟩

/-- Three of four values change their places, among them one that the stack holds twice. -/
theorem swap_retains_rotation :
    let machine : Machine (World Unit) (Plug Empty) :=
      { stack := [.int 3, .str "b", .null, .int 3], registry := Registry.builtins, world := { guest := () } }
    let left := { machine with stack := [.null, .int 3, .str "b", .int 3] }
    Orders (written [2, 0, 1]) [2, 0, 1] ∧
      Frame.root.dispatch (Standard.host Standard.noGuests) (fun frame machine => ⟨.ok (), frame, machine⟩)
        "swap" (written [2, 0, 1]) (.builtin .swap) machine = .next Frame.root.spent left ∧
      left.stack.Perm machine.stack := by
  intro machine left
  have reads : Orders (written [2, 0, 1]) [2, 0, 1] := orders_written _
  have accepted : Frame.root.dispatch (Standard.host Standard.noGuests)
      (fun frame machine => ⟨.ok (), frame, machine⟩) "swap" (written [2, 0, 1]) (.builtin .swap) machine =
        .next Frame.root.spent left :=
    swap_rewrites reads (by decide) (by decide) _ _ _ _ _ rfl
  exact ⟨reads, accepted, (swap_retains reads accepted).2.1 (by decide)⟩

/-- An offset that is given twice lies among the places, and is taken: the top is doubled, and the value
beneath it is lost. -/
theorem swap_retains_repeated_offset :
    let stack : List Value := [.int 2, .int 1]
    let after : List Value := [.int 2, .int 2]
    Orders (written [0, 0]) [0, 0] ∧ Builtin.swap.Rewrites (written [0, 0]) stack after ∧
      ¬ after.Perm stack := by
  intro stack after
  have reads : Orders (written [0, 0]) [0, 0] := orders_written _
  refine ⟨reads, swap_rewrites reads (by decide) (by decide), fun perm => ?_⟩
  have there : Value.int 1 ∈ after := perm.mem_iff.mpr (by simp [stack])
  simp [after, Value.int] at there

end Builtin

end DocMachine
