import DocMachine.Proofs.Permuted
import DocMachine.Proofs.Reports
import Mathlib.Data.List.Forall2
import Mathlib.Data.List.Perm.Subperm
import Mathlib.Data.Option.Basic

/-!
# Equality of values

Two values are the same if they have the same structure, apart from the order of keys, and the same
numbers in it. The test for this walks the entries of the first of two objects only, so it relies on
the number of entries and on distinct keys.

* `Value.Integral least greatest v`: the numbers of `v` are integers between the two, and its objects
  have no key twice.
* `Value.Agree R`: the values have the same structure, objects being maps, with integers at the same
  places that are related by `R`.

Results:
1. `Value.induction`: a property of all values is shown on the items and the entries first.
2. `Value.same_iff`: the test for equality tells whether values agree, given how it tells numbers apart.
3. `Value.Agree.refl`, `Value.Agree.symm` and `Value.Agree.trans`: values agree as their numbers do.
-/

namespace DocMachine

/-- The number as which an integer is compared. -/
def Number.viewed (i : Int) : Number :=
  if isWord i then .int i else .float (Float.ofInt i)

theorem Table.mem_of_get? {κ α : Type} [DecidableEq κ] {table : Table κ α} {key : κ} {value : α}
    (found : table.get? key = some value) : (key, value) ∈ table := by
  induction table with
  | nil => cases found
  | cons entry rest ih =>
    obtain ⟨first, held⟩ := entry
    rw [get?] at found
    split at found
    · next same =>
      subst same
      obtain rfl := Option.some.inj found
      exact List.mem_cons_self
    · exact List.mem_cons_of_mem _ (ih found)

/-- A table as long as another one, whose keys the other one has as well, has no other keys. -/
theorem Table.keys_perm_of_subset {κ α : Type} {xs ys : Table κ α} (apart : xs.keys.Nodup)
    (among : ∀ key ∈ xs.keys, key ∈ ys.keys) (long : xs.length = ys.length) :
    xs.keys.Perm ys.keys := by
  refine (List.subperm_of_subset apart among).perm_of_length_le (Nat.le_of_eq ?_)
  rw [keys, keys, List.length_map, List.length_map, long]

namespace Value

variable {R : Int → Int → Prop} {least greatest : Int} {a b c : Value}

/-- A property of all values may be shown with the items of an array and the entries of an object
already known to have it. -/
@[elab_as_elim]
theorem induction {motive : Value → Prop} (null : motive .null) (bool : ∀ b, motive (.bool b))
    (num : ∀ n, motive (.num n)) (str : ∀ s, motive (.str s))
    (arr : ∀ items, (∀ item ∈ items, motive item) → motive (.arr items))
    (obj : ∀ fields, (∀ entry ∈ fields, motive entry.2) → motive (.obj fields)) :
    ∀ v, motive v
  | .null => null
  | .bool b => bool b
  | .num n => num n
  | .str s => str s
  | .arr items => arr items fun item _ => induction null bool num str arr obj item
  | .obj fields => obj fields fun entry _ => induction null bool num str arr obj entry.2
termination_by v => sizeOf v
decreasing_by
  · have smaller := List.sizeOf_lt_of_mem ‹item ∈ items›
    simp only [Value.arr.sizeOf_spec]
    omega
  · have smaller := List.sizeOf_lt_of_mem ‹entry ∈ fields›
    have inside : sizeOf entry = 1 + sizeOf entry.1 + sizeOf entry.2 := rfl
    simp only [Value.obj.sizeOf_spec]
    omega

/-- The value's numbers are integers from `least` to `greatest`, and the keys of its objects are
distinct. -/
inductive Integral (least greatest : Int) : Value → Prop
  | null : Integral least greatest .null
  | bool (b : Bool) : Integral least greatest (.bool b)
  | int {i : Int} : least ≤ i → i ≤ greatest → Integral least greatest (.num (.int i))
  | str (s : String) : Integral least greatest (.str s)
  | arr {items : List Value} : (∀ item ∈ items, Integral least greatest item) →
      Integral least greatest (.arr items)
  | obj {fields : Table String Value} : fields.keys.Nodup →
      (∀ entry ∈ fields, Integral least greatest entry.2) → Integral least greatest (.obj fields)

/-- The integer that a value stands for; booleans stand for 0 and 1. -/
def integer? : Value → Option Int
  | bool b => some (if b then 1 else 0)
  | num (.int i) => some i
  | _ => none

/-- The values have the same structure, with related integers at the same places.

* A boolean may stand where the other value has a number.
* Objects are maps: the order of their keys does not count. -/
inductive Agree (R : Int → Int → Prop) : Value → Value → Prop
  | null : Agree R .null .null
  | numbers {a b : Value} {i j : Int} : a.integer? = some i → b.integer? = some j → R i j →
      Agree R a b
  | str (s : String) : Agree R (.str s) (.str s)
  | arr {xs ys : List Value} : List.Forall₂ (Agree R) xs ys → Agree R (.arr xs) (.arr ys)
  | obj {xs ys : Table String Value} :
      (∀ key, Option.Rel (Agree R) (xs.get? key) (ys.get? key)) → Agree R (.obj xs) (.obj ys)

/-! ## Numbers -/

theorem number?_of_integer {i : Int} (stands : a.integer? = some i) :
    a.number? = some (Number.viewed i) := by
  cases a with
  | bool b =>
    obtain rfl := Option.some.inj stands
    cases b <;> rfl
  | num n =>
    cases n with
    | int j =>
      obtain rfl := Option.some.inj stands
      rfl
    | float x => cases stands
  | _ => cases stands

/-- Two booleans are compared as the numbers that they stand for, too. -/
theorem sameScalar_integer {i j : Int} (left : a.integer? = some i) (right : b.integer? = some j) :
    a.sameScalar b = (Number.viewed i).same (Number.viewed j) := by
  have sameNumber : sameScalar.sameNumber a b = (Number.viewed i).same (Number.viewed j) := by
    simp only [sameScalar.sameNumber, number?_of_integer left, number?_of_integer right]
  cases a with
  | bool p =>
    cases b with
    | bool q =>
      obtain rfl := Option.some.inj left
      obtain rfl := Option.some.inj right
      cases p <;> cases q <;> rfl
    | num n => exact sameNumber
    | _ => cases right
  | num n =>
    cases b with
    | bool q => exact sameNumber
    | num n' => exact sameNumber
    | _ => cases right
  | _ => cases left

/-- Integers that values within a range stand for are in the range, if 0 and 1 are. -/
theorem Integral.range (zero : least ≤ 0) (one : 1 ≤ greatest) {i : Int}
    (integral : Integral least greatest a) (stands : a.integer? = some i) :
    least ≤ i ∧ i ≤ greatest := by
  cases integral with
  | bool b =>
    obtain rfl := Option.some.inj stands
    cases b
    · exact ⟨zero, Int.le_of_lt one⟩
    · exact ⟨Int.le_trans zero (by decide), one⟩
  | int low high =>
    obtain rfl := Option.some.inj stands
    exact ⟨low, high⟩
  | _ => cases stands

/-! ## Containers -/

theorem sameFields_iff (xs ys : Table String Value) : sameFields xs ys = true ↔
    ∀ entry ∈ xs, ∃ y, ys.get? entry.1 = some y ∧ entry.2.same y = true := by
  induction xs with
  | nil => simp [sameFields]
  | cons entry rest ih =>
    obtain ⟨key, x⟩ := entry
    rw [sameFields, Bool.and_eq_true, ih, List.forall_mem_cons]
    refine and_congr_left fun _ => ?_
    cases found : ys.get? key <;> simp

/-- Objects of the same size whose entries are found in each other are the same maps. -/
theorem fields_iff {xs ys : Table String Value} (apart : xs.keys.Nodup) (apart' : ys.keys.Nodup) :
    (xs.length = ys.length ∧
        ∀ entry ∈ xs, ∃ y, ys.get? entry.1 = some y ∧ Agree R entry.2 y) ↔
      ∀ key, Option.Rel (Agree R) (xs.get? key) (ys.get? key) := by
  constructor
  · rintro ⟨long, found⟩ key
    have among : ∀ key ∈ xs.keys, key ∈ ys.keys := by
      intro key listed
      obtain ⟨entry, held, rfl⟩ := List.mem_map.mp listed
      obtain ⟨y, present, -⟩ := found entry held
      exact (Table.mem_keys ys entry.1).mpr (by simp [present])
    cases present : xs.get? key with
    | some x =>
      obtain ⟨y, present', agree⟩ := found _ ((Table.get?_eq_some apart key x).mp present)
      rw [present']
      exact .some agree
    | none =>
      have absent : key ∉ ys.keys := by
        rw [← (Table.keys_perm_of_subset apart among long).mem_iff]
        exact (Table.get?_eq_none xs key).mp present
      rw [(Table.get?_eq_none ys key).mpr absent]
      exact .none
  · intro related
    constructor
    · have same : xs.keys.Perm ys.keys := by
        refine (List.perm_ext_iff_of_nodup apart apart').mpr fun key => ?_
        rw [Table.mem_keys, Table.mem_keys]
        have here := related key
        generalize xs.get? key = x, ys.get? key = y at here
        cases here <;> simp
      simpa [Table.keys] using same.length_eq
    · intro entry held
      have present : xs.get? entry.1 = some entry.2 := (Table.get?_eq_some apart _ _).mpr held
      have here := related entry.1
      rw [present] at here
      cases found : ys.get? entry.1 with
      | some y =>
        rw [found] at here
        cases here with
        | some agree => exact ⟨y, rfl, agree⟩
      | none =>
        rw [found] at here
        cases here

/-! ## The test and the relation -/

theorem agree_null : Agree R .null b ↔ b = .null := by
  constructor
  · rintro (_ | ⟨stands, -⟩)
    · rfl
    · cases stands
  · rintro rfl
    exact .null

theorem agree_str (s : String) : Agree R (.str s) b ↔ b = .str s := by
  constructor
  · rintro (_ | ⟨stands, -⟩)
    · cases stands
    · rfl
  · rintro rfl
    exact .str s

theorem agree_arr (xs : List Value) :
    Agree R (.arr xs) b ↔ ∃ ys, b = .arr ys ∧ List.Forall₂ (Agree R) xs ys := by
  constructor
  · rintro (_ | ⟨stands, -⟩ | _ | items)
    · cases stands
    · exact ⟨_, rfl, items⟩
  · rintro ⟨ys, rfl, items⟩
    exact .arr items

theorem agree_obj (xs : Table String Value) : Agree R (.obj xs) b ↔
    ∃ ys : Table String Value, b = .obj ys ∧
      ∀ key, Option.Rel (Agree R) (xs.get? key) (ys.get? key) := by
  constructor
  · rintro (_ | ⟨stands, -⟩ | _ | _ | related)
    · cases stands
    · exact ⟨_, rfl, related⟩
  · rintro ⟨ys, rfl, related⟩
    exact .obj related

/-- A value that stands for an integer agrees with those that stand for a related one. -/
theorem agree_integer {i : Int} (stands : a.integer? = some i) :
    Agree R a b ↔ ∃ j, b.integer? = some j ∧ R i j := by
  constructor
  · rintro (_ | ⟨left, right, related⟩)
    · cases stands
    · obtain rfl := Option.some.inj (stands.symm.trans left)
      exact ⟨_, right, related⟩
    all_goals cases stands
  · rintro ⟨j, stands', related⟩
    exact .numbers stands stands' related

/-- What the test for equality says of a value that stands for an integer. -/
theorem same_integer {i : Int} (stands : a.integer? = some i) (integral : Integral least greatest b) :
    a.same b = true ↔
      ∃ j, b.integer? = some j ∧ (Number.viewed i).same (Number.viewed j) = true := by
  have scalar : a.same b = a.sameScalar b := by
    cases a with
    | arr items => cases stands
    | obj fields => cases stands
    | _ => rfl
  rw [scalar]
  cases stands' : b.integer? with
  | some j =>
    rw [sameScalar_integer stands stands']
    simp
  | none =>
    have other : a.sameScalar b = false := by
      cases integral with
      | bool b => cases stands'
      | int low high => cases stands'
      | _ =>
        cases a with
        | bool p => rfl
        | num n => rfl
        | _ => cases stands
    simp [other]

/-- The test for equality tells whether values agree, if it tells so of the numbers in the range. -/
theorem same_iff (zero : least ≤ 0) (one : 1 ≤ greatest)
    (tells : ∀ i j, least ≤ i → i ≤ greatest → least ≤ j → j ≤ greatest →
      ((Number.viewed i).same (Number.viewed j) = true ↔ R i j))
    (left : Integral least greatest a) (right : Integral least greatest b) :
    a.same b = true ↔ Agree R a b := by
  have integers : ∀ {a b : Value} {i : Int}, Integral least greatest a → Integral least greatest b →
      a.integer? = some i → (a.same b = true ↔ Agree R a b) := by
    intro a b i left right stands
    rw [same_integer stands right, agree_integer stands]
    refine exists_congr fun j => and_congr_right fun stands' => ?_
    obtain ⟨low, high⟩ := left.range zero one stands
    obtain ⟨low', high'⟩ := right.range zero one stands'
    exact tells i j low high low' high'
  induction a using Value.induction generalizing b with
  | null =>
    rw [agree_null]
    cases b <;> simp [same, sameScalar]
  | bool p => exact integers left right rfl
  | num n =>
    cases left with
    | int low high => exact integers (.int low high) right rfl
  | str s =>
    rw [agree_str]
    cases b with
    | str t =>
      simp only [same, sameScalar, beq_iff_eq, Value.str.injEq]
      exact eq_comm
    | _ => simp [same, sameScalar]
  | arr xs ih =>
    rw [agree_arr]
    cases right with
    | @arr ys integral' =>
      cases left with
      | arr integral =>
        have items : List.Forall₂ (Agree R) xs ys ↔ IsStack xs ys := by
          rw [IsStack, List.forall₂_iff_zip, List.forall₂_iff_zip]
          refine and_congr_right fun _ => forall₂_congr fun x y => forall_congr' fun paired => ?_
          obtain ⟨among, among'⟩ := List.of_mem_zip paired
          exact (ih x among (integral x among) (integral' y among')).symm
        simp [same, sameItems_iff, items]
    | _ => simp [same, sameScalar]
  | obj xs ih =>
    rw [agree_obj]
    cases right with
    | @obj ys apart' integral' =>
      cases left with
      | obj apart integral =>
        have entries : (∀ entry ∈ xs, ∃ y, Table.get? ys entry.1 = some y ∧ entry.2.same y = true) ↔
            ∀ entry ∈ xs, ∃ y, Table.get? ys entry.1 = some y ∧ Agree R entry.2 y := by
          refine forall₂_congr fun entry held => exists_congr fun y => and_congr_right fun found => ?_
          have held' := (Table.get?_eq_some apart' _ y).mp found
          exact ih entry held (integral entry held) (integral' _ held')
        have known : (Value.obj xs).same (.obj ys) = true ↔
            xs.length = ys.length ∧ sameFields xs ys = true := by
          simp [same]
        rw [known, sameFields_iff, entries, fields_iff apart apart']
        simp
    | _ => simp [same, sameScalar]

/-! ## Agreement -/

theorem Agree.refl (refl : ∀ i, R i i) (integral : Integral least greatest a) : Agree R a a := by
  induction a using Value.induction with
  | null => exact .null
  | bool p => exact .numbers rfl rfl (refl _)
  | num n =>
    cases integral with
    | int low high => exact .numbers rfl rfl (refl _)
  | str s => exact .str s
  | arr xs ih =>
    cases integral with
    | arr integral => exact .arr (List.forall₂_same.mpr fun x among => ih x among (integral x among))
  | obj xs ih =>
    cases integral with
    | obj apart integral =>
      refine .obj fun key => ?_
      cases found : Table.get? xs key with
      | none => exact .none
      | some x =>
        have held := (Table.get?_eq_some apart key x).mp found
        exact .some (ih _ held (integral _ held))

theorem Agree.symm (symm : ∀ i j, R i j → R j i) (agree : Agree R a b) : Agree R b a := by
  induction a using Value.induction generalizing b with
  | null =>
    obtain rfl := agree_null.mp agree
    exact .null
  | bool p =>
    obtain ⟨j, stands, related⟩ := (agree_integer rfl).mp agree
    exact .numbers stands rfl (symm _ _ related)
  | num n =>
    cases agree with
    | numbers left right related => exact .numbers right left (symm _ _ related)
  | str s =>
    obtain rfl := (agree_str s).mp agree
    exact .str s
  | arr xs ih =>
    obtain ⟨ys, rfl, items⟩ := (agree_arr xs).mp agree
    refine .arr ?_
    clear agree
    induction items with
    | nil => exact .nil
    | cons here _ rest =>
      exact .cons (ih _ List.mem_cons_self here)
        (rest fun x among => ih x (List.mem_cons_of_mem _ among))
  | obj xs ih =>
    obtain ⟨ys, rfl, related⟩ := (agree_obj xs).mp agree
    refine .obj fun key => ?_
    have each : ∀ x ∈ Table.get? xs key, ∀ {b}, Agree R x b → Agree R b x :=
      fun x found => ih _ (Table.mem_of_get? found)
    have here := related key
    generalize Table.get? xs key = x, ys.get? key = y at here each
    cases here with
    | none => exact .none
    | some agree => exact .some (each _ rfl agree)

theorem Agree.trans (trans : ∀ i j k, R i j → R j k → R i k) (first : Agree R a b)
    (second : Agree R b c) : Agree R a c := by
  induction a using Value.induction generalizing b c with
  | null =>
    obtain rfl := agree_null.mp first
    exact second
  | bool p =>
    obtain ⟨j, stands, related⟩ := (agree_integer rfl).mp first
    obtain ⟨k, stands', related'⟩ := (agree_integer stands).mp second
    exact .numbers rfl stands' (trans _ _ _ related related')
  | num n =>
    cases first with
    | numbers stands stands' related =>
      obtain ⟨k, stands'', related'⟩ := (agree_integer stands').mp second
      exact .numbers stands stands'' (trans _ _ _ related related')
  | str s =>
    obtain rfl := (agree_str s).mp first
    exact second
  | arr xs ih =>
    obtain ⟨ys, rfl, items⟩ := (agree_arr xs).mp first
    obtain ⟨zs, rfl, items'⟩ := (agree_arr ys).mp second
    refine .arr ?_
    clear first second
    induction items generalizing zs with
    | nil => exact items'
    | cons here _ rest =>
      cases items' with
      | cons here' there =>
        exact .cons (ih _ List.mem_cons_self here here')
          (rest (fun x among => ih x (List.mem_cons_of_mem _ among)) _ there)
  | obj xs ih =>
    obtain ⟨ys, rfl, related⟩ := (agree_obj xs).mp first
    obtain ⟨zs, rfl, related'⟩ := (agree_obj ys).mp second
    refine .obj fun key => ?_
    have each : ∀ x ∈ Table.get? xs key, ∀ {b c}, Agree R x b → Agree R b c → Agree R x c :=
      fun x found => ih _ (Table.mem_of_get? found)
    have here := related key
    have there := related' key
    generalize Table.get? xs key = x, ys.get? key = y, zs.get? key = z at here there each
    cases here with
    | none => exact there
    | some agree =>
      cases there with
      | some agree' => exact .some (each _ rfl agree agree')

end Value

end DocMachine
