import DocMachine.Proofs.Tables
import Mathlib.Data.List.Pairwise
import Mathlib.Data.List.Perm.Basic
import Mathlib.Data.List.Perm.Lattice

/-!
# Tables whose entries come in another order

The order of the entries of a table can be seen. What cannot be seen by looking keys up is the same
where a table is written in another order.

* `Table.Alike`: the tables hold the same under all keys.
* `Table.Overlays`: whatever the tables overlay, they make the same of it.
* `Table.Shuffled`: from some place on, the tables list the same entries in any order, under keys that
  occur nowhere else.
* `Concurs`: both computations fail, or they come to related results.
* `Param.Commutes`: the fields of a record may be read in any order. `Param.commutes_of` asks this only of
  the fields that are read at all.

Results:
1. `Table.Alike.insert`, `Table.Alike.erase` and `Table.Alike.extend`: tables stay alike when they are
   changed alike.
2. `Table.shuffled_extend`: overlaying a table by the same entries in another order shuffles the result.
3. `Table.Shuffled.get?_erase`: erasing a key leaves shuffled tables that hold the same.
4. `Table.Shuffled.record`: a record whose fields may be read in any order is read alike from shuffled
   parameters.
-/

namespace DocMachine

namespace Table

variable {κ α : Type} [DecidableEq κ]

/-! ## Tables that hold the same -/

/-- The tables have no key twice, and hold the same under all keys. -/
structure Alike (one other : Table κ α) : Prop where
  apart : one.keys.Nodup
  apart' : other.keys.Nodup
  same : ∀ key, one.get? key = other.get? key

/-- Whatever the tables overlay, they make the same of it: the last value of a key counts. -/
def Overlays (one other : Table κ α) : Prop :=
  ∀ key, get? one.reverse key = get? other.reverse key

namespace Alike

variable {one other : Table κ α}

theorem refl {table : Table κ α} (apart : table.keys.Nodup) : Alike table table :=
  ⟨apart, apart, fun _ => rfl⟩

theorem insert (alike : Alike one other) (key : κ) (value : α) :
    Alike (one.insert key value) (other.insert key value) where
  apart := nodup_insert alike.apart key value
  apart' := nodup_insert alike.apart' key value
  same found := by rw [get?_insert, get?_insert, alike.same]

theorem erase (alike : Alike one other) (key : κ) : Alike (one.erase key) (other.erase key) where
  apart := nodup_erase alike.apart key
  apart' := nodup_erase alike.apart' key
  same found := by rw [get?_erase alike.apart, get?_erase alike.apart', alike.same]

theorem extend (alike : Alike one other) {overlay overlay' : Table κ α}
    (overlays : Overlays overlay overlay') : Alike (one.extend overlay) (other.extend overlay') where
  apart := nodup_extend alike.apart overlay
  apart' := nodup_extend alike.apart' overlay'
  same found := by rw [get?_extend, get?_extend, overlays, alike.same]

end Alike

/-! ## The same entries in another order -/

theorem get?_eq_some {table : Table κ α} (apart : table.keys.Nodup) (key : κ) (value : α) :
    table.get? key = some value ↔ (key, value) ∈ table := by
  induction table with
  | nil => simp [get?]
  | cons entry rest ih =>
    obtain ⟨first, held⟩ := entry
    obtain ⟨fresh, apart⟩ := List.nodup_cons.mp apart
    by_cases same : first = key
    · subst same
      have gone : (first, value) ∉ rest := fun listed => fresh (List.mem_map.mpr ⟨_, listed, rfl⟩)
      simp [get?, gone, eq_comm]
    · simp [get?, same, ih apart, Ne.symm same]

omit [DecidableEq κ] in
theorem keys_perm {one other : Table κ α} (perm : one.Perm other) : one.keys.Perm other.keys :=
  perm.map Prod.fst

theorem get?_perm {one other : Table κ α} (perm : one.Perm other) (apart : one.keys.Nodup)
    (key : κ) : one.get? key = other.get? key := by
  have apart' : other.keys.Nodup := (keys_perm perm).nodup_iff.mp apart
  refine Option.ext fun value => ?_
  rw [get?_eq_some apart, get?_eq_some apart', perm.mem_iff]

theorem overlays_of_perm {one other : Table κ α} (perm : one.Perm other)
    (apart : one.keys.Nodup) : Overlays one other := by
  intro key
  have reversed : (keys one.reverse).Nodup := by
    rw [keys, List.map_reverse, List.nodup_reverse]
    exact apart
  exact get?_perm ((List.reverse_perm one).trans (perm.trans (List.reverse_perm other).symm))
    reversed key

/-- From some place on, the tables list the same entries in any order, under keys that occur nowhere
else. -/
inductive Shuffled : Table κ α → Table κ α → Prop
  | intro (front : Table κ α) {back back' : Table κ α} : back.Perm back' → back.keys.Nodup →
      (∀ key ∈ back.keys, key ∉ front.keys) → Shuffled (front ++ back) (front ++ back')

namespace Shuffled

variable {one other : Table κ α}

omit [DecidableEq κ] in
theorem refl (table : Table κ α) : Shuffled table table := by
  have shuffled : Shuffled (table ++ []) (table ++ []) :=
    .intro table .nil List.nodup_nil fun key listed => by cases listed
  rwa [List.append_nil] at shuffled

theorem get? (shuffled : Shuffled one other) (key : κ) : one.get? key = other.get? key := by
  obtain ⟨front, perm, apart, -⟩ := shuffled
  rw [get?_append, get?_append, get?_perm perm apart]

theorem overlays (shuffled : Shuffled one other) : Overlays one other := by
  obtain ⟨front, perm, apart, -⟩ := shuffled
  intro key
  rw [List.reverse_append, List.reverse_append, get?_append, get?_append,
    overlays_of_perm perm apart]

omit [DecidableEq κ] in
theorem nil_iff (shuffled : Shuffled one other) : one = [] ↔ other = [] := by
  obtain ⟨front, perm, -, -⟩ := shuffled
  rw [List.append_eq_nil_iff, List.append_eq_nil_iff]
  exact and_congr_right fun _ => ⟨fun empty => (empty ▸ perm).nil_eq.symm,
    fun empty => (empty ▸ perm).eq_nil⟩

omit [DecidableEq κ] in
/-- Choosing entries by their keys keeps tables shuffled. -/
theorem filter (shuffled : Shuffled one other) (chosen : κ → Bool) :
    Shuffled (one.filter fun entry => chosen entry.1) (other.filter fun entry => chosen entry.1) := by
  obtain ⟨front, perm, apart, fresh⟩ := shuffled
  rw [List.filter_append, List.filter_append]
  have among : ∀ {table : Table κ α} {key},
      key ∈ keys (table.filter fun entry => chosen entry.1) → key ∈ table.keys := by
    intro table key listed
    obtain ⟨entry, chosen, rfl⟩ := List.mem_map.mp listed
    exact List.mem_map_of_mem (List.mem_of_mem_filter chosen)
  refine .intro _ (perm.filter _) ?_ fun key listed held => fresh key (among listed) (among held)
  exact apart.sublist (List.filter_sublist.map Prod.fst)

end Shuffled

/-! ## Overlays in another order -/

omit [DecidableEq κ] in
theorem held_of_cons {first key : κ} {old : α} {rest : Table κ α}
    (held : key ∈ keys ((first, old) :: rest)) (differ : first ≠ key) : key ∈ rest.keys :=
  (List.mem_cons.mp held).resolve_left (Ne.symm differ)

/-- Writing under keys that are there keeps the keys. -/
theorem keys_insert {table : Table κ α} {key : κ} (held : key ∈ table.keys) (value : α) :
    (table.insert key value).keys = table.keys := by
  induction table with
  | nil => cases held
  | cons entry rest ih =>
    obtain ⟨first, old⟩ := entry
    by_cases same : first = key
    · simp [insert, keys, same]
    · have kept := ih (held_of_cons held same)
      simp only [keys] at kept
      simp [insert, keys, same, kept]

theorem keys_extend {table overlay : Table κ α} (held : ∀ key ∈ overlay.keys, key ∈ table.keys) :
    (table.extend overlay).keys = table.keys := by
  induction overlay generalizing table with
  | nil => rfl
  | cons entry rest ih =>
    have kept := keys_insert (held entry.1 List.mem_cons_self) entry.2
    show ((table.insert entry.1 entry.2).extend rest).keys = _
    rw [ih fun key listed => kept ▸ held key (List.mem_cons_of_mem _ listed), kept]

theorem insert_append {table : Table κ α} {key : κ} (held : key ∈ table.keys) (value : α)
    (rest : Table κ α) : insert (table ++ rest) key value = table.insert key value ++ rest := by
  induction table with
  | nil => cases held
  | cons entry later ih =>
    obtain ⟨first, old⟩ := entry
    show insert ((first, old) :: (later ++ rest)) key value = _
    by_cases same : first = key
    · simp [insert, same]
    · simp [insert, same, ih (held_of_cons held same)]

theorem extend_append {table overlay : Table κ α} (held : ∀ key ∈ overlay.keys, key ∈ table.keys)
    (rest : Table κ α) : extend (table ++ rest) overlay = table.extend overlay ++ rest := by
  induction overlay generalizing table with
  | nil => rfl
  | cons entry later ih =>
    have here := held entry.1 List.mem_cons_self
    show extend (insert (table ++ rest) entry.1 entry.2) later = _
    rw [insert_append here]
    exact ih fun key listed => keys_insert here entry.2 ▸ held key (List.mem_cons_of_mem _ listed)

/-- Two keys may be written in either order, unless both are new. -/
theorem insert_comm {table : Table κ α} {key other : κ} (differ : key ≠ other)
    (held : key ∈ table.keys ∨ other ∈ table.keys) (value value' : α) :
    (table.insert key value).insert other value' = (table.insert other value').insert key value := by
  induction table with
  | nil => rcases held with held | held <;> cases held
  | cons entry rest ih =>
    obtain ⟨first, old⟩ := entry
    by_cases same : first = key
    · subst same
      simp [insert, differ]
    by_cases same' : first = other
    · subst same'
      simp [insert, Ne.symm differ]
    have later := ih (held.imp (held_of_cons · same) (held_of_cons · same'))
    simp [insert, same, same', later]

/-- Keys that are there may be written in any order. -/
theorem extend_perm {table overlay overlay' : Table κ α} (perm : overlay.Perm overlay')
    (apart : overlay.keys.Nodup) (held : ∀ key ∈ overlay.keys, key ∈ table.keys) :
    table.extend overlay = table.extend overlay' := by
  induction perm generalizing table with
  | nil => rfl
  | cons entry _ ih =>
    have kept := keys_insert (held entry.1 List.mem_cons_self) entry.2
    exact ih (List.nodup_cons.mp apart).2 fun key listed =>
      kept ▸ held key (List.mem_cons_of_mem _ listed)
  | swap entry other rest =>
    have differ : other.1 ≠ entry.1 := fun same =>
      (List.nodup_cons.mp apart).1 (same ▸ List.mem_cons_self)
    show extend ((table.insert other.1 other.2).insert entry.1 entry.2) rest =
      extend ((table.insert entry.1 entry.2).insert other.1 other.2) rest
    rw [insert_comm differ (.inl (held other.1 List.mem_cons_self))]
  | trans one _ first second =>
    have same := keys_perm one
    rw [first apart held]
    exact second (same.nodup_iff.mp apart) fun key listed => held key (same.mem_iff.mpr listed)

/-- The entries of an overlay under keys that the table has. -/
def heldIn (table overlay : Table κ α) : Table κ α :=
  overlay.filter fun entry => decide (entry.1 ∈ table.keys)

/-- The entries of an overlay under keys that the table does not have. -/
def newTo (table overlay : Table κ α) : Table κ α :=
  overlay.filter fun entry => decide (entry.1 ∉ table.keys)

theorem mem_of_heldIn {table overlay : Table κ α} {key : κ}
    (listed : key ∈ keys (table.heldIn overlay)) : key ∈ table.keys := by
  obtain ⟨entry, chosen, rfl⟩ := List.mem_map.mp listed
  exact of_decide_eq_true (List.mem_filter.mp chosen).2

theorem not_mem_of_newTo {table overlay : Table κ α} {key : κ}
    (listed : key ∈ keys (table.newTo overlay)) : key ∉ table.keys := by
  obtain ⟨entry, chosen, rfl⟩ := List.mem_map.mp listed
  exact of_decide_eq_true (List.mem_filter.mp chosen).2

/-- Overlaying writes over the keys that are there, and puts the others at the end. -/
theorem extend_eq {table overlay : Table κ α} (apart : overlay.keys.Nodup) :
    table.extend overlay = table.extend (table.heldIn overlay) ++ table.newTo overlay := by
  induction overlay generalizing table with
  | nil => exact (List.append_nil table).symm
  | cons entry rest ih =>
    obtain ⟨fresh, apart⟩ := List.nodup_cons.mp apart
    -- The entries that follow are told apart as before, since none of them is under the key written.
    have told : ∀ later ∈ rest,
        later.1 ∈ (table.insert entry.1 entry.2).keys ↔ later.1 ∈ table.keys := by
      intro later listed
      have differ : later.1 ≠ entry.1 := fun same => fresh (List.mem_map.mpr ⟨later, listed, same⟩)
      rw [mem_keys_insert]
      exact or_iff_right differ
    have heldSame : (table.insert entry.1 entry.2).heldIn rest = table.heldIn rest :=
      List.filter_congr fun later listed => decide_eq_decide.mpr (told later listed)
    have newSame : (table.insert entry.1 entry.2).newTo rest = table.newTo rest :=
      List.filter_congr fun later listed => decide_eq_decide.mpr (not_congr (told later listed))
    show (table.insert entry.1 entry.2).extend rest = _
    rw [ih apart, heldSame, newSame]
    by_cases there : entry.1 ∈ table.keys
    · have held : table.heldIn (entry :: rest) = entry :: table.heldIn rest :=
        List.filter_cons_of_pos (decide_eq_true there)
      have new : table.newTo (entry :: rest) = table.newTo rest :=
        List.filter_cons_of_neg (by simpa using there)
      rw [held, new]
      rfl
    · have held : table.heldIn (entry :: rest) = table.heldIn rest :=
        List.filter_cons_of_neg (by simpa using there)
      have new : table.newTo (entry :: rest) = entry :: table.newTo rest :=
        List.filter_cons_of_pos (decide_eq_true there)
      rw [held, new, insert_fresh there, extend_append fun _ => mem_of_heldIn, List.append_assoc]
      rfl

/-- Overlaying a table by the same entries in another order shuffles the result. -/
theorem shuffled_extend (table : Table κ α) {overlay overlay' : Table κ α}
    (perm : overlay.Perm overlay') (apart : overlay.keys.Nodup) :
    Shuffled (table.extend overlay) (table.extend overlay') := by
  have apart' : overlay'.keys.Nodup := (keys_perm perm).nodup_iff.mp apart
  have chosen : ∀ p : κ × α → Bool, (keys (overlay.filter p)).Nodup := fun p =>
    apart.sublist (List.filter_sublist.map Prod.fst)
  have held : table.extend (table.heldIn overlay) = table.extend (table.heldIn overlay') :=
    extend_perm (perm.filter _) (chosen _) fun _ => mem_of_heldIn
  rw [extend_eq apart, extend_eq apart', ← held]
  refine .intro _ (perm.filter _) (chosen _) fun key listed there => ?_
  rw [keys_extend fun _ => mem_of_heldIn] at there
  exact not_mem_of_newTo listed there

/-! ## Erasing a key of shuffled tables -/

/-- An entry may as well come after others that are not under its key. -/
theorem get?_ahead {table : Table κ α} {entry : κ × α} (absent : entry.1 ∉ table.keys)
    (rest : Table κ α) (key : κ) :
    get? (entry :: (table ++ rest)) key = (table.get? key).or (get? (entry :: rest) key) := by
  obtain ⟨first, value⟩ := entry
  by_cases same : first = key
  · subst same
    have none : table.get? first = none := (get?_eq_none table first).mpr absent
    simp [get?, none]
  · simp [get?, same, get?_append]

/-- Where a key is erased from the front of a table, the last entry of the table takes its place. -/
theorem get?_erase_append {front : Table κ α} {key : κ} (held : key ∈ front.keys) :
    ∃ rest : Table κ α, ∀ back : Table κ α, back ≠ [] → back.keys.Nodup →
      (∀ key ∈ back.keys, key ∉ front.keys) →
      ∀ found, get? (erase (front ++ back) key) found = (rest.get? found).or (get? back found) := by
  induction front with
  | nil => cases held
  | cons entry later ih =>
    obtain ⟨first, value⟩ := entry
    by_cases same : first = key
    · subst same
      refine ⟨later, fun back some apart fresh found => ?_⟩
      obtain ⟨before, last, rfl⟩ := (List.eq_nil_or_concat back).resolve_left some
      rw [List.concat_eq_append] at apart fresh ⊢
      have absent : last.1 ∉ keys later := fun listed =>
        fresh last.1 (List.mem_map.mpr ⟨last, by simp, rfl⟩) (List.mem_cons_of_mem _ listed)
      show get? (erase ((first, value) :: (later ++ (before ++ [last]))) first) found = _
      rw [← List.append_assoc, erase_first, ← get?_rotate apart, get?_ahead absent]
    · obtain ⟨rest, erased⟩ := ih (held_of_cons held same)
      refine ⟨(first, value) :: rest, fun back some apart fresh found => ?_⟩
      have erased' := erased back some apart
        (fun key listed held => fresh key listed (List.mem_cons_of_mem _ held)) found
      show get? (erase ((first, value) :: (later ++ back)) key) found = _
      simp only [erase, if_neg same, get?, erased']
      split <;> rfl

theorem erase_append {front : Table κ α} {key : κ} (fresh : key ∉ front.keys) (back : Table κ α) :
    erase (front ++ back) key = front ++ erase back key := by
  induction front with
  | nil => rfl
  | cons entry later ih =>
    obtain ⟨first, value⟩ := entry
    have differ : first ≠ key := fun same => fresh (same ▸ List.mem_cons_self)
    show erase ((first, value) :: (later ++ back)) key = _
    rw [erase, if_neg differ, ih fun listed => fresh (List.mem_cons_of_mem _ listed)]
    rfl

/-- Erasing a key leaves shuffled tables that hold the same. -/
theorem Shuffled.get?_erase {one other : Table κ α} (shuffled : Shuffled one other) (key found : κ) :
    (one.erase key).get? found = (other.erase key).get? found := by
  obtain ⟨front, perm, apart, fresh⟩ := shuffled
  next back back' =>
  have apart' : back'.keys.Nodup := (keys_perm perm).nodup_iff.mp apart
  have fresh' : ∀ key ∈ back'.keys, key ∉ front.keys :=
    fun key listed => fresh key ((keys_perm perm).mem_iff.mpr listed)
  by_cases held : key ∈ front.keys
  · by_cases none : back = []
    · subst none
      rw [perm.nil_eq]
    · have none' : back' ≠ [] := fun empty => none (empty ▸ perm).eq_nil
      obtain ⟨rest, erased⟩ := get?_erase_append held
      rw [erased back none apart fresh, erased back' none' apart' fresh', get?_perm perm apart]
  · rw [erase_append held, erase_append held, get?_append, get?_append, Table.get?_erase apart,
      Table.get?_erase apart', get?_perm perm apart]

end Table

/-! ## Records -/

/-- Both computations fail, or they come to related results. -/
inductive Concurs {ε δ α β : Type} (R : α → β → Prop) : Except ε α → Except δ β → Prop
  | ok {a : α} {b : β} : R a b → Concurs R (.ok a) (.ok b)
  | error {fault : ε} {fault' : δ} : Concurs R (.error fault) (.error fault')

namespace Concurs

variable {ε δ α β γ κ : Type} {R : α → β → Prop}

theorem refl {R : α → α → Prop} (reflexive : ∀ a, R a a) (result : Except ε α) :
    Concurs R result result := by
  cases result with
  | ok a => exact .ok (reflexive a)
  | error fault => exact .error

theorem same (result : Except ε α) : Concurs Eq result result :=
  refl (fun _ => rfl) result

/-- Either neither computation succeeds, or both do. -/
theorem outcomes {one : Except ε α} {other : Except δ β} (concurs : Concurs R one other) :
    (∃ fault fault', one = .error fault ∧ other = .error fault') ∨
      ∃ a b, one = .ok a ∧ other = .ok b ∧ R a b := by
  cases concurs with
  | ok related => exact .inr ⟨_, _, rfl, rfl, related⟩
  | error => exact .inl ⟨_, _, rfl, rfl⟩

theorem symm {one : Except ε α} {other : Except δ α} (concurs : Concurs Eq one other) :
    Concurs Eq other one := by
  cases concurs with
  | ok same => exact .ok same.symm
  | error => exact .error

theorem trans {one : Except ε α} {other : Except δ α} {third : Except κ α}
    (first : Concurs Eq one other) (second : Concurs Eq other third) : Concurs Eq one third := by
  cases first with
  | ok same =>
    cases second with
    | ok same' => exact .ok (same.trans same')
  | error =>
    cases second with
    | error => exact .error

theorem bind {S : γ → κ → Prop} {one : Except ε α} {other : Except δ β} {rest : α → Except ε γ}
    {rest' : β → Except δ κ} (first : Concurs R one other)
    (second : ∀ a b, R a b → Concurs S (rest a) (rest' b)) :
    Concurs S (one >>= rest) (other >>= rest') := by
  cases first with
  | ok related => exact second _ _ related
  | error => exact .error

end Concurs

namespace Param

variable {α : Type} {field : α → String → Value → Read α}

/-- The fields under two keys may be read in either order. -/
def CommutesAt (field : α → String → Value → Read α) (key key' : String) : Prop :=
  ∀ a v v', Concurs Eq (do field (← field a key v) key' v') (do field (← field a key' v') key v)

instance : Std.Symm (CommutesAt field) where
  symm _ _ commutes a v v' := (commutes a v' v).symm

/-- The fields of a record may be read in any order. -/
def Commutes (field : α → String → Value → Read α) : Prop :=
  ∀ key key', key ≠ key' → CommutesAt field key key'

/-- Fields under the key are not read: they are refused, or passed over. -/
def Unread (field : α → String → Value → Read α) (key : String) : Prop :=
  (∀ a v, ∃ fault, field a key v = .error fault) ∨ ∀ a v, field a key v = .ok a

theorem Unread.commutesAt {key : String} (unread : Unread field key) (key' : String) :
    CommutesAt field key key' := by
  intro a v v'
  rcases unread with refused | passed
  · obtain ⟨fault, failed⟩ := refused a v
    rw [failed]
    cases field a key' v' with
    | error => exact .error
    | ok b =>
      obtain ⟨fault', failed'⟩ := refused b v
      show Concurs Eq (.error fault) (field b key v)
      rw [failed']
      exact .error
  · simp only [passed]
    show Concurs Eq (field a key' v') (field a key' v' >>= pure)
    rw [bind_pure]
    exact .same _

/-- The fields may be read in any order if those may that are read at all. -/
theorem commutes_of {known : List String} (unread : ∀ key, key ∉ known → Unread field key)
    (pairs : known.Pairwise (CommutesAt field)) : Commutes field := by
  intro key key' differ
  by_cases listed : key ∈ known
  · by_cases listed' : key' ∈ known
    · exact pairs.forall listed listed' differ
    · exact symm ((unread key' listed').commutesAt key)
  · exact (unread key listed).commutesAt key'

end Param

/-- A record whose fields may be read in any order is read alike from shuffled parameters. -/
theorem Table.Shuffled.record {α : Type} {field : α → String → Value → Param.Read α}
    (commutes : Param.Commutes field) {params params' : Scope} (shuffled : Shuffled params params')
    (defaults : α) :
    Concurs Eq (Param.record defaults field params) (Param.record defaults field params') := by
  obtain ⟨front, perm, apart, -⟩ := shuffled
  have reads : ∀ back : Scope, Param.record defaults field (front ++ back) =
      (do Param.record (← Param.record defaults field front) field back) :=
    fun back => List.foldlM_append
  rw [reads, reads]
  refine .bind (.same _) fun start start' same => ?_
  subst same
  induction perm generalizing start with
  | nil => exact .same _
  | cons entry _ ih =>
    refine .bind (.same _) fun a b same => ?_
    subst same
    exact ih (List.nodup_cons.mp apart).2 a
  | swap entry other rest =>
    have differ : other.1 ≠ entry.1 := fun same =>
      (List.nodup_cons.mp apart).1 (same ▸ List.mem_cons_self)
    have both : ∀ one two : String × Value, Param.record start field (one :: two :: rest) =
        ((field start one.1 one.2 >>= fun a => field a two.1 two.2) >>= fun a =>
          Param.record a field rest) := by
      intro one two
      rw [bind_assoc]
      rfl
    rw [both, both]
    refine .bind (commutes other.1 entry.1 differ start other.2 entry.2) fun a b same => ?_
    subst same
    exact .same _
  | trans one _ first second =>
    exact .trans (first apart start) (second ((keys_perm one).nodup_iff.mp apart) start)

end DocMachine
