import DocMachine.Builtin

/-!
# Faults of the built-in ops

Some faults are found when an element of a run list is taken up, before its handler works: it is no
op, the op is unknown, or calls nest too deeply. Others a handler finds before it works on its
operands: values are missing, or parameters do not fit. The functions behind the built-in ops fail in
other ways, and `Fault.Late` says so of a result.

Results: one lemma for each function that a built-in op hands its operands to, and before them what
leaving an activation makes of a failure (`Failure.root_through`, `Failure.frames_through`).
-/

namespace DocMachine

/-! ## Traces -/

@[simp] theorem Fault.root_root (fault : Fault) : fault.root.root = fault.root := by
  induction fault with
  | traced source sites ih => exact ih
  | _ => rfl

namespace Failure

variable {fault : Fault} {failure : Failure} {site : Site}

theorem opened_root : failure.opened.fault.root = failure.root := by
  unfold opened root
  split <;> rfl

@[simp] theorem root_through : (failure.through site).root = failure.root := opened_root

theorem root_raised : (raised fault site).root = fault.root := root_through

theorem through_sites_ne : (failure.through site).sites ≠ [] := by simp [through]

theorem opened_of_sites (running : failure.sites ≠ []) : failure.opened = failure := by
  unfold opened
  split
  · exact absurd rfl running
  · rfl

theorem frames_of_sites (running : failure.sites ≠ []) : failure.frames = failure.sites := by
  rw [frames, opened_of_sites running]

/-- Leaving an activation adds its site to the trace. -/
@[simp] theorem frames_through : (failure.through site).frames = failure.frames ++ [site] :=
  frames_of_sites through_sites_ne

/-- A fault brings its own trace along. -/
theorem frames_raised : (raised fault site).frames = fault.frames ++ [site] := by
  rw [raised, frames_through]
  cases fault <;> rfl

end Failure

/-! ## Kinds of faults -/

/-- Whether the fault has unwound activations already. -/
def Fault.isTraced : Fault → Bool
  | .traced _ _ => true
  | _ => false

/-- Whether the fault is one that no built-in op raises itself: it is found when an element of a run
list is taken up, or it has unwound activations already. -/
def Fault.isPrior : Fault → Bool
  | .invalidProcedure _ => true
  | .unknownOp _ => true
  | .stackOverflow _ => true
  | .traced _ _ => true
  | _ => false

/-- Whether the fault is one that comes before an op works on its operands. -/
def Fault.isEarly : Fault → Bool
  | .invalidProcedure _ => true
  | .unknownOp _ => true
  | .stackOverflow _ => true
  | .stackUnderflow _ _ => true
  | .invalidParams _ _ => true
  | .traced _ _ => true
  | _ => false

/-- If the result is a fault, it is none that comes before an op works on its operands. -/
def Fault.Late {α : Type} (result : Except Fault α) : Prop :=
  ∀ fault, result = .error fault → fault.isEarly = false

namespace Fault

variable {fault : Fault}

theorem isTraced_of_isPrior (other : fault.isPrior = false) : fault.isTraced = false := by
  cases fault with
  | traced source sites => cases other
  | _ => rfl

theorem isPrior_of_isEarly (late : fault.isEarly = false) : fault.isPrior = false := by
  cases fault with
  | invalidProcedure _ | unknownOp _ | stackOverflow _ | traced _ _ => cases late
  | _ => rfl

end Fault

namespace Failure

theorem opened_of_plain {failure : Failure} (plain : failure.fault.isTraced = false) :
    failure.opened = failure := by
  unfold opened
  split
  · cases plain
  · rfl

/-- A failure whose fault brings no trace along has only its own. -/
theorem through_of_plain {failure : Failure} (plain : failure.fault.isTraced = false)
    (site : Site) : failure.through site = { failure with sites := failure.sites ++ [site] } := by
  rw [through, opened_of_plain plain]

theorem raised_of_plain {fault : Fault} (plain : fault.isTraced = false) (site : Site) :
    raised fault site = ⟨fault, [site]⟩ := by
  have untraced : (Failure.mk fault []).fault.isTraced = false := plain
  exact through_of_plain untraced site

end Failure

namespace Fault.Late

variable {α β : Type}

theorem prior {result : Except Fault α} (late : Late result) {fault : Fault}
    (failed : result = .error fault) : fault.isPrior = false :=
  isPrior_of_isEarly (late fault failed)

theorem plain {result : Except Fault α} (late : Late result) {fault : Fault}
    (failed : result = .error fault) : fault.isTraced = false :=
  isTraced_of_isPrior (late.prior failed)

theorem ok (a : α) : Late (.ok a) := by
  intro fault failed
  cases failed

theorem error {fault : Fault} (late : fault.isEarly = false) :
    Late (.error fault : Except Fault α) := by
  intro fault' failed
  cases failed
  exact late

theorem bind {result : Except Fault α} {rest : α → Except Fault β} (first : Late result)
    (second : ∀ a, Late (rest a)) : Late (result >>= rest) := by
  intro fault failed
  cases result with
  | ok a => exact second a fault failed
  | error fault' =>
    cases failed
    exact first fault rfl

theorem map {result : Except Fault α} (f : α → β) (late : Late result) : Late (result.map f) := by
  intro fault failed
  cases result with
  | ok a => cases failed
  | error fault' =>
    cases failed
    exact late fault rfl

theorem mapError {ε : Type} {wrap : ε → Fault} (late : ∀ fault, (wrap fault).isEarly = false)
    (result : Except ε α) : Late (result.mapError wrap) := by
  intro fault failed
  cases result with
  | ok a => cases failed
  | error fault' =>
    cases failed
    exact late fault'

end Fault.Late

open Fault

/-! ## Numbers -/

namespace Arith

theorem operands_late (symbol : String) (x y : Value) : Late (operands symbol x y) := by
  unfold operands
  split
  · exact .ok _
  · exact .error rfl

theorem ofInt_late (i : Int) : Late (ofInt i) := by
  unfold ofInt
  split
  · exact .ok _
  · exact .error rfl

theorem ofFloat_late (x : Float) : Late (Value.ofFloat x) := by
  unfold Value.ofFloat
  split
  · exact .error rfl
  · exact .ok _

theorem onNumbers_late (symbol : String) (ints : Int → Int → Int) (floats : Float → Float → Float)
    (x y : Value) : Late (onNumbers symbol ints floats x y) := by
  refine .bind (operands_late symbol x y) fun pair => ?_
  split
  · exact ofInt_late _
  · exact ofFloat_late _

theorem add_late (x y : Value) : Late (add x y) := by
  unfold add
  split
  · exact .ok _
  · exact .ok _
  · exact onNumbers_late _ _ _ x y

theorem subtract_late (x y : Value) : Late (subtract x y) := onNumbers_late _ _ _ x y

theorem multiplyText_late (s : String) (count : Int) : Late (multiplyText s count) := by
  unfold multiplyText
  split
  · exact .ok _
  · exact .error rfl

theorem multiplyItems_late (items : List Value) (count : Int) :
    Late (multiplyItems items count) := by
  unfold multiplyItems
  split
  · exact .ok _
  · exact .error rfl

theorem multiply_late (x y : Value) : Late (multiply x y) := by
  unfold multiply
  split
  · exact multiplyText_late _ _
  · exact multiplyItems_late _ _
  · exact multiplyText_late _ _
  · exact multiplyItems_late _ _
  · exact onNumbers_late _ _ _ _ _

theorem divide_late (x y : Value) : Late (divide x y) := by
  refine .bind (operands_late "/" x y) fun pair => ?_
  simp only
  split
  · exact .error rfl
  · exact ofFloat_late _

theorem modulo_late (x y : Value) : Late (modulo x y) := by
  refine .bind (operands_late "%" x y) fun pair => ?_
  split
  · split
    · exact .error rfl
    · exact .ok _
  · split
    · exact .error rfl
    · exact ofFloat_late _

theorem toInt_late (x : Value) : Late (toInt x) := by
  unfold toInt
  split
  · unfold intOfText
    split
    · split
      · exact .ok _
      · exact .error rfl
    · exact .error rfl
  · split
    · exact .ok _
    · split
      · exact .error rfl
      · exact ofInt_late _
    · exact .error rfl

theorem toFloat_late (x : Value) : Late (toFloat x) := by
  unfold toFloat
  split
  · unfold floatOfText
    split
    · exact ofFloat_late _
    · exact .error rfl
  · split
    · exact ofFloat_late _
    · exact .error rfl

end Arith

/-! ## Order -/

namespace Value

theorem compareNumbers_late (x y : Value) : Late (compareNumbers x y) := by
  unfold compareNumbers
  split
  · unfold Number.compare
    split
    · exact .ok _
    · simp only
      repeat' split
      · exact .ok _
      · exact .ok _
      · exact .ok _
      · exact .error rfl
  · exact .error rfl

mutual

theorem compare_late (x y : Value) : Late (x.compare y) := by
  unfold compare
  split
  · exact .ok _
  · exact compareItems_late _ _
  · exact compareNumbers_late _ _

theorem compareItems_late (xs ys : List Value) : Late (compareItems xs ys) := by
  unfold compareItems
  split
  · exact .ok _
  · exact .ok _
  · exact .ok _
  · split
    · exact compareItems_late _ _
    · exact compare_late _ _

end

end Value

/-! ## URIs -/

namespace Resource

theorem parseUri_late (uri : String) : Late (parseUri uri) :=
  .mapError (fun _ => rfl) _

theorem keyOf_late (uri : String) : Late (keyOf uri) := by
  refine .bind (parseUri_late uri) fun url => ?_
  simp only
  generalize (if url.path.isEmpty then url.host.getD "" else url.path) = key
  split
  · exact .error rfl
  · exact .ok _

end Resource

/-! ## Blocks -/

theorem Flow.blockEnd_late (nested : Nat) (ops : List Value) : Late (blockEnd nested ops) := by
  induction ops generalizing nested with
  | nil => exact .error rfl
  | cons op rest ih =>
    unfold blockEnd
    split
    · exact .map _ (ih _)
    · exact .error rfl
    · exact .ok _
    · exact .map _ (ih _)
    · exact .map _ (ih _)

end DocMachine
