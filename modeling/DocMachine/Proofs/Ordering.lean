import DocMachine.Proofs.Equality
import DocMachine.Value.Order

/-!
# The order of values

Values whose numbers are integers that arithmetic may yield are compared without floats. On them the
test for equality is an equivalence, and the order respects it: it does not tell equal values apart, it
is the same in both directions, and it is transitive, also where not all items of two arrays can be
compared.

* `Value.IsExact`: the numbers of a value are such integers.
* `Value.Ordered`: what there is to compare two values by.
* `Lawful`: the laws of equality and order.

Results:
1. `Value.compare_ok`: values are comparable exactly if there is something to compare them by.
2. `Value.compare_swap`, `Value.compare_eq`, `Value.compare_congr` and `Value.compare_trans`: the laws,
   one by one, each on items first.
3. `Value.exact_lawful`: the laws hold of these values.
-/

namespace DocMachine

namespace Value

/-- The values whose numbers are integers that arithmetic may yield. -/
def IsExact (v : Value) : Prop := v.Integral Number.leastInt Number.greatestInt

variable {a b c : Value} {o : Ordering}

theorem viewed_exact {i : Int} (low : Number.leastInt ≤ i) (high : i ≤ Number.greatestInt) :
    Number.viewed i = .int i := by
  simp [Number.viewed, Number.isWord, low, high]

theorem IsExact.viewed {i : Int} (exact : a.IsExact) (stands : a.integer? = some i) :
    Number.viewed i = .int i := by
  obtain ⟨low, high⟩ := Integral.range (by decide) (by decide) exact stands
  exact viewed_exact low high

theorem IsExact.items {xs : List Value} (exact : (Value.arr xs).IsExact) : ∀ x ∈ xs, x.IsExact := by
  cases exact with
  | arr items => exact items

/-! ## Equality -/

theorem same_iff_agree (left : a.IsExact) (right : b.IsExact) :
    a.same b = true ↔ Agree Eq a b := by
  refine same_iff (by decide) (by decide) (fun i j low high low' high' => ?_) left right
  rw [viewed_exact low high, viewed_exact low' high']
  simp [Number.same]

theorem same_refl (exact : a.IsExact) : a.same a = true :=
  (same_iff_agree exact exact).mpr (.refl (fun _ => rfl) exact)

theorem same_symm (left : a.IsExact) (right : b.IsExact) (same : a.same b = true) :
    b.same a = true :=
  (same_iff_agree right left).mpr (((same_iff_agree left right).mp same).symm fun _ _ => Eq.symm)

theorem same_trans (left : a.IsExact) (middle : b.IsExact) (right : c.IsExact)
    (first : a.same b = true) (second : b.same c = true) : a.same c = true :=
  (same_iff_agree left right).mpr (((same_iff_agree left middle).mp first).trans
    (fun _ _ _ => Eq.trans) ((same_iff_agree middle right).mp second))

theorem same_comm (left : a.IsExact) (right : b.IsExact) : a.same b = b.same a := by
  rw [Bool.eq_iff_iff]
  exact ⟨same_symm left right, same_symm right left⟩

/-! ## What values are compared by -/

/-- What there is to compare two values by: two integers, two strings or the items of two arrays. -/
inductive Ordered : Value → Value → Ordering → Prop
  | numbers {a b : Value} {o : Ordering} {i j : Int} : a.integer? = some i → b.integer? = some j →
      Ord.compare i j = o → Ordered a b o
  | strings {o : Ordering} {s t : String} : Ord.compare s t = o → Ordered (.str s) (.str t) o
  | arrays {o : Ordering} {xs ys : List Value} : compareItems xs ys = .ok o →
      Ordered (.arr xs) (.arr ys) o

theorem compareNumbers_ok (left : a.IsExact) (right : b.IsExact) :
    compareNumbers a b = .ok o ↔
      ∃ i j, a.integer? = some i ∧ b.integer? = some j ∧ Ord.compare i j = o := by
  have read : ∀ {v : Value}, v.IsExact → v.number? = v.integer?.map .int := by
    intro v exact
    cases stands : v.integer? with
    | some i =>
      rw [number?_of_integer stands, exact.viewed stands]
      rfl
    | none =>
      cases exact with
      | bool p => cases stands
      | int low high => cases stands
      | _ => rfl
  rw [compareNumbers, read left, read right]
  cases a.integer? <;> cases b.integer? <;> simp [Number.compare]

/-- Values are comparable exactly if there is something to compare them by. -/
theorem compare_ok (left : a.IsExact) (right : b.IsExact) :
    a.compare b = .ok o ↔ Ordered a b o := by
  have numbers : compareNumbers a b = .ok o ↔
      ∃ i j, a.integer? = some i ∧ b.integer? = some j ∧ Ord.compare i j = o :=
    compareNumbers_ok left right
  constructor
  · intro compared
    unfold compare at compared
    split at compared
    · exact .strings (Except.ok.inj compared)
    · exact .arrays compared
    · obtain ⟨i, j, stands, stands', order⟩ := numbers.mp compared
      exact .numbers stands stands' order
  · rintro (⟨stands, stands', order⟩ | order | order)
    · unfold compare
      split
      · cases stands
      · cases stands
      · exact numbers.mpr ⟨_, _, stands, stands', order⟩
    · simp [compare, order]
    · simp [compare, order]

/-! ## The laws -/

variable {xs xs' ys zs : List Value}

/-- Items that are ordered alike in both directions are ordered so in sequence, too. -/
theorem compareItems_swap (left : ∀ x ∈ xs, x.IsExact) (right : ∀ y ∈ ys, y.IsExact)
    (each : ∀ x ∈ xs, ∀ {y o}, y.IsExact → x.compare y = .ok o → y.compare x = .ok o.swap)
    (compared : compareItems xs ys = .ok o) : compareItems ys xs = .ok o.swap := by
  induction xs generalizing ys with
  | nil =>
    cases ys with
    | nil =>
      cases compared
      rfl
    | cons y ys =>
      cases compared
      rfl
  | cons x xs ih =>
    cases ys with
    | nil =>
      cases compared
      rfl
    | cons y ys =>
      obtain ⟨exact, left⟩ := List.forall_mem_cons.mp left
      obtain ⟨exact', right⟩ := List.forall_mem_cons.mp right
      obtain ⟨first, each⟩ := List.forall_mem_cons.mp each
      rw [compareItems] at compared ⊢
      rw [same_comm exact' exact]
      split at compared
      · next same => rw [if_pos same, ih left right each compared]
      · next differ => rw [if_neg differ, first exact' compared]

/-- The order is the same in both directions. -/
theorem compare_swap (left : a.IsExact) (right : b.IsExact) (compared : a.compare b = .ok o) :
    b.compare a = .ok o.swap := by
  induction a using Value.induction generalizing b o with
  | arr xs ih =>
    rcases (compare_ok left right).mp compared with stands | - | items
    · cases stands
    · rw [compare]
      exact compareItems_swap left.items right.items (fun x among => ih x among (left.items x among))
        items
  | _ =>
    refine (compare_ok right left).mpr ?_
    rcases (compare_ok left right).mp compared with ⟨stands, stands', order⟩ | order
    · exact .numbers stands' stands (by rw [← order, ← Std.OrientedOrd.eq_swap])
    all_goals exact .strings (by rw [← order, ← Std.OrientedOrd.eq_swap])

/-- Items are ordered as equal if all are the same. -/
theorem compareItems_eq
    (each : ∀ x ∈ xs, ∀ y ∈ ys, ∀ {o}, x.compare y = .ok o → (o = .eq ↔ x.same y = true))
    (compared : compareItems xs ys = .ok o) : o = .eq ↔ sameItems xs ys = true := by
  induction xs generalizing ys with
  | nil => cases ys <;> cases compared <;> simp [sameItems]
  | cons x xs ih =>
    cases ys with
    | nil =>
      cases compared
      simp [sameItems]
    | cons y ys =>
      rw [compareItems] at compared
      rw [sameItems, Bool.and_eq_true]
      split at compared
      · next same =>
        have rest := ih (fun x among y among' =>
          each x (List.mem_cons_of_mem _ among) y (List.mem_cons_of_mem _ among')) compared
        rw [rest, and_iff_right same]
      · next differ =>
        have first := each x List.mem_cons_self y List.mem_cons_self compared
        rw [first, iff_false_intro differ, false_and]

/-- Values are ordered as equal exactly if they are. -/
theorem compare_eq (left : a.IsExact) (right : b.IsExact) (compared : a.compare b = .ok o) :
    o = .eq ↔ a.same b = true := by
  induction a using Value.induction generalizing b o with
  | arr xs ih =>
    rcases (compare_ok left right).mp compared with stands | - | items
    · cases stands
    · rw [same]
      exact compareItems_eq (fun x among y among' =>
        ih x among (left.items x among) (right.items y among')) items
  | _ =>
    rcases (compare_ok left right).mp compared with ⟨stands, stands', order⟩ | order
    · rw [same_integer stands right, stands', left.viewed stands]
      simp [right.viewed stands', Number.same, ← order]
    all_goals simp [same, sameScalar, ← order]

/-- Items are ordered as the same other items are. -/
theorem compareItems_congr (left : ∀ x ∈ xs, x.IsExact) (left' : ∀ x' ∈ xs', x'.IsExact)
    (right : ∀ y ∈ ys, y.IsExact)
    (each : ∀ x ∈ xs, ∀ {x' y o}, x'.IsExact → y.IsExact → x.same x' = true →
      x.compare y = .ok o → x'.compare y = .ok o)
    (same : IsStack xs xs') (compared : compareItems xs ys = .ok o) :
    compareItems xs' ys = .ok o := by
  induction same generalizing ys with
  | nil => exact compared
  | @cons x x' xs xs' same _ ih =>
    cases ys with
    | nil => exact compared
    | cons y ys =>
      obtain ⟨exact, left⟩ := List.forall_mem_cons.mp left
      obtain ⟨exact', left'⟩ := List.forall_mem_cons.mp left'
      obtain ⟨exact'', right⟩ := List.forall_mem_cons.mp right
      obtain ⟨first, each⟩ := List.forall_mem_cons.mp each
      rw [compareItems] at compared ⊢
      split at compared
      · next equal =>
        rw [if_pos (same_trans exact' exact exact'' (same_symm exact exact' same) equal)]
        exact ih left left' right each compared
      · next differ =>
        rw [if_neg fun equal => differ (same_trans exact exact' exact'' same equal)]
        exact first exact' exact'' same compared

/-- A value is ordered as the same other value is. -/
theorem compare_congr {a' : Value} (left : a.IsExact) (left' : a'.IsExact) (right : b.IsExact)
    (equal : a.same a' = true) (compared : a.compare b = .ok o) : a'.compare b = .ok o := by
  induction a using Value.induction generalizing a' b o with
  | arr xs ih =>
    obtain ⟨xs', rfl, -⟩ := (agree_arr xs).mp ((same_iff_agree left left').mp equal)
    rw [same, sameItems_iff] at equal
    rcases (compare_ok left right).mp compared with stands | - | items
    · cases stands
    · rw [compare]
      exact compareItems_congr left.items left'.items right.items
        (fun x among => ih x among (left.items x among)) equal items
  | _ =>
    refine (compare_ok left' right).mpr ?_
    have agree := (same_iff_agree left left').mp equal
    rcases (compare_ok left right).mp compared with ⟨stands, stands', order⟩ | order
    · obtain ⟨i, stands'', rfl⟩ := (agree_integer stands).mp agree
      exact .numbers stands'' stands' order
    all_goals
      obtain rfl := (agree_str _).mp agree
      exact .strings order

/-- A value is ordered against the same other value as against this one. -/
theorem compare_congr_right {b' : Value} (left : a.IsExact) (right : b.IsExact) (right' : b'.IsExact)
    (equal : b.same b' = true) (compared : a.compare b = .ok o) : a.compare b' = .ok o := by
  have swapped := compare_congr right right' left equal (compare_swap left right compared)
  rw [← Ordering.swap_swap (o := o)]
  exact compare_swap right' left swapped

/-- Items that are ordered transitively are so in sequence, too, even if some of the later ones cannot
be compared. -/
theorem compareItems_trans (left : ∀ x ∈ xs, x.IsExact) (middle : ∀ y ∈ ys, y.IsExact)
    (right : ∀ z ∈ zs, z.IsExact)
    (each : ∀ x ∈ xs, ∀ {y z}, y.IsExact → z.IsExact → x.compare y = .ok .lt →
      y.compare z = .ok .lt → x.compare z = .ok .lt)
    (first : compareItems xs ys = .ok .lt) (second : compareItems ys zs = .ok .lt) :
    compareItems xs zs = .ok .lt := by
  induction xs generalizing ys zs with
  | nil =>
    cases ys with
    | nil => cases first
    | cons y ys =>
      cases zs with
      | nil => cases second
      | cons z zs => rfl
  | cons x xs ih =>
    cases ys with
    | nil => cases first
    | cons y ys =>
      cases zs with
      | nil => cases second
      | cons z zs =>
        obtain ⟨exact, left⟩ := List.forall_mem_cons.mp left
        obtain ⟨exact', middle⟩ := List.forall_mem_cons.mp middle
        obtain ⟨exact'', right⟩ := List.forall_mem_cons.mp right
        obtain ⟨here, each⟩ := List.forall_mem_cons.mp each
        -- Items that are less than others are not the same, so they decide.
        have decides : x.compare z = .ok .lt → compareItems (x :: xs) (z :: zs) = .ok .lt := by
          intro less
          have differ : ¬ x.same z = true := by
            rw [← compare_eq exact exact'' less]
            decide
          rw [compareItems, if_neg differ, less]
        rw [compareItems] at first second
        split at first
        · next equal =>
          split at second
          · next equal' =>
            rw [compareItems, if_pos (same_trans exact exact' exact'' equal equal')]
            exact ih left middle right each first second
          · exact decides (compare_congr exact' exact exact'' (same_symm exact exact' equal) second)
        · split at second
          · next equal' => exact decides (compare_congr_right exact exact' exact'' equal' first)
          · exact decides (here exact' exact'' first second)

/-- The order is transitive. -/
theorem compare_trans (left : a.IsExact) (middle : b.IsExact) (right : c.IsExact)
    (first : a.compare b = .ok .lt) (second : b.compare c = .ok .lt) : a.compare c = .ok .lt := by
  induction a using Value.induction generalizing b c with
  | arr xs ih =>
    rcases (compare_ok left middle).mp first with stands | - | items
    · cases stands
    · rcases (compare_ok middle right).mp second with stands | - | items'
      · cases stands
      · rw [compare]
        exact compareItems_trans left.items middle.items right.items
          (fun x among => ih x among (left.items x among)) items items'
  | _ =>
    refine (compare_ok left right).mpr ?_
    rcases (compare_ok left middle).mp first with ⟨stands, between, order⟩ | order
    · rcases (compare_ok middle right).mp second with ⟨between', stands', order'⟩ | order' | items
      · obtain rfl := Option.some.inj (between.symm.trans between')
        exact .numbers stands stands' (Std.TransCmp.lt_trans order order')
      all_goals cases between
    all_goals
      rcases (compare_ok middle right).mp second with ⟨stands, -⟩ | order'
      · cases stands
      · exact .strings (Std.TransCmp.lt_trans order order')

end Value

/-! ## Equality and order together -/

/-- The laws of a test for equality and of an order that need not compare all pairs.

* The order of two elements is that of the other way round, reversed.
* Elements are ordered as equal exactly if they are, and equal ones are ordered alike. -/
structure Lawful {α ε : Type} (same : α → α → Bool) (compare : α → α → Except ε Ordering) : Prop where
  equivalence : Equivalence fun a b => same a b = true
  swap : ∀ a b o, compare a b = .ok o ↔ compare b a = .ok o.swap
  eq : ∀ a b o, compare a b = .ok o → (o = .eq ↔ same a b = true)
  congr : ∀ a a' b b' o, same a a' = true → same b b' = true →
    (compare a b = .ok o ↔ compare a' b' = .ok o)
  trans : ∀ a b c, compare a b = .ok .lt → compare b c = .ok .lt → compare a c = .ok .lt

namespace Value

/-- A value whose numbers are integers that arithmetic may yield. -/
abbrev Exact := { v : Value // v.IsExact }

/-- Equality and order are lawful on values whose numbers are integers that arithmetic may yield,
whatever is nested in them. -/
theorem exact_lawful : Lawful (fun a b : Exact => a.val.same b.val)
    (fun a b : Exact => a.val.compare b.val) where
  equivalence :=
    ⟨fun a => same_refl a.property, fun {a b} => same_symm a.property b.property,
      fun {a b c} => same_trans a.property b.property c.property⟩
  swap a b o := by
    constructor
    · exact compare_swap a.property b.property
    · intro swapped
      rw [← Ordering.swap_swap (o := o)]
      exact compare_swap b.property a.property swapped
  eq a b o := compare_eq a.property b.property
  congr a a' b b' o same same' := by
    constructor
    · intro compared
      have moved := compare_congr a.property a'.property b.property same compared
      exact compare_congr_right a'.property b.property b'.property same' moved
    · intro compared
      have back := same_symm a.property a'.property same
      have back' := same_symm b.property b'.property same'
      have moved := compare_congr a'.property a.property b'.property back compared
      exact compare_congr_right a.property b'.property b.property back' moved
  trans a b c := compare_trans a.property b.property c.property

-- What comes after the first items that differ need not be comparable.
example : (Value.arr [.bool true, .int 2, .null]).compare (.arr [.int 1, .int 3, .obj []]) = .ok .lt :=
  by cbv

end Value

end DocMachine
