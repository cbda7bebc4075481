import DocMachine.Proofs.AsciiUrls
import DocMachine.Proofs.Blanks
import DocMachine.Proofs.Escapes
import DocMachine.Proofs.Spans
import DocMachine.Proofs.Variables

/-!
# Names of variables

Settings and the parameters of a call bind variables under their names as they stand. A request names a
variable by a URI, where characters outside ASCII are escaped, and the escapes are not read back. So a
name is the same in both only if it is ASCII.

* `Url.isNameChar`: the characters that plain names are made of.
* `Url.spelled` is a name as it stands in the path of a URL.
* `Frame.Binds` follows an activation in which a variable was bound, as long as its ops do not change it.
* `Frame.Reads`: the op that comes next reads a local variable.

Results:
1. `Resource.keyOf_locals`: the key of a plain name is its spelling.
2. `Url.spelled_eq_iff`: that is the name itself if and only if the name is ASCII.
3. `Frame.Binds.addressed`: a variable that was bound is read back if its name is ASCII. Otherwise what is
   read is what stands under the spelling of its name, and no URI at all reads the variable.
-/

namespace DocMachine

variable {ω π : Type} {host : Host ω π}

/-! ## Names in URIs -/

namespace Url

/-- The characters of plain names: letters and digits, and beyond ASCII all characters. -/
def isNameChar (c : Char) : Bool :=
  c.isAlphanum || decide (0x80 ≤ c.toNat)

/-- A text of such characters, and not the empty one. -/
structure IsName (name : String) : Prop where
  filled : name ≠ ""
  plain : ∀ c ∈ name.toList, isNameChar c = true

/-- A name as it stands in the path of a URL. -/
def spelled (name : String) : String :=
  String.ofList (Text.percentEncode isPrintableAscii name.toList)

theorem isNameChar_iff {c : Char} :
    isNameChar c = true ↔ 0x41 ≤ c.toNat ∧ c.toNat ≤ 0x5a ∨ 0x61 ≤ c.toNat ∧ c.toNat ≤ 0x7a ∨
      0x30 ≤ c.toNat ∧ c.toNat ≤ 0x39 ∨ 0x80 ≤ c.toNat := by
  simp only [isNameChar, Char.isAlphanum, Char.isAlpha, Char.isUpper, Char.isLower, Char.isDigit,
    Bool.or_eq_true, Bool.and_eq_true, decide_eq_true_eq, UInt32.le_iff_toNat_le, ge_iff_le, or_assoc]
  rfl

theorem isPrintableAscii_iff {c : Char} (named : isNameChar c = true) :
    isPrintableAscii c = true ↔ c.toNat < 0x80 := by
  have ranges := isNameChar_iff.mp named
  simp only [isPrintableAscii, Bool.and_eq_true, decide_eq_true_eq]
  omega

/-- A character of a name is none that means something in a URL. -/
theorem isNameChar_ne {c d : Char} (named : isNameChar c = true)
    (mark : d ∈ ['/', '?', '#', '%']) : c ≠ d := by
  rintro rfl
  have ranges := isNameChar_iff.mp named
  simp only [List.mem_cons, List.not_mem_nil, or_false] at mark
  rcases mark with rfl | rfl | rfl | rfl <;> revert ranges <;> decide

/-- A character of a name is no blank. -/
theorem isNameChar_shown {c : Char} (named : isNameChar c = true) : 0x20 < c.toNat := by
  have ranges := isNameChar_iff.mp named
  omega

theorem percentEncode_ascii {chars : List Char} (plain : ∀ c ∈ chars, isNameChar c = true)
    (ascii : ∀ c ∈ chars, c.toNat < 0x80) : Text.percentEncode isPrintableAscii chars = chars :=
  Text.percentEncode_eq fun c among => (isPrintableAscii_iff (plain c among)).mpr (ascii c among)

theorem percentEncode_escapes {chars : List Char} {c : Char} (among : c ∈ chars)
    (escaped : isPrintableAscii c = false) : '%' ∈ Text.percentEncode isPrintableAscii chars := by
  obtain ⟨rest, escape⟩ := Text.escapeChar_head c
  refine List.mem_flatMap.mpr ⟨c, among, ?_⟩
  rw [escaped, escape]
  exact List.mem_cons_self

/-- A name is spelled as it stands if it is ASCII, and only then. -/
theorem spelled_eq_iff {name : String} (isName : IsName name) :
    spelled name = name ↔ ∀ c ∈ name.toList, c.toNat < 0x80 := by
  constructor
  · intro same c among
    by_contra beyond
    have escaped : isPrintableAscii c = false := by
      rw [← Bool.not_eq_true, isPrintableAscii_iff (isName.plain c among)]
      exact beyond
    have marked : '%' ∈ name.toList := by
      rw [← same, spelled, String.toList_ofList]
      exact percentEncode_escapes among escaped
    exact isNameChar_ne (isName.plain '%' marked) (d := '%') (by decide) rfl
  · intro ascii
    rw [spelled, percentEncode_ascii isName.plain ascii, String.ofList_toList]

theorem spelled_filled {name : String} (isName : IsName name) : (spelled name).isEmpty = false := by
  obtain ⟨c, rest, same⟩ : ∃ c rest, name.toList = c :: rest := by
    cases chars : name.toList with
    | nil => exact absurd (String.toList_eq_nil_iff.mp chars) isName.filled
    | cons c rest => exact ⟨c, rest, rfl⟩
  have filled : Text.percentEncode isPrintableAscii name.toList ≠ [] := by
    rw [same, Text.percentEncode, List.flatMap_cons]
    obtain ⟨rest, escape⟩ := Text.escapeChar_head c
    split
    · exact List.cons_ne_nil _ _
    · rw [escape]
      exact List.cons_ne_nil _ _
  rw [← Bool.not_eq_true, String.isEmpty_iff]
  intro empty
  refine filled ?_
  rw [← String.toList_ofList (l := Text.percentEncode isPrintableAscii name.toList)]
  rw [show String.ofList _ = spelled name from rfl, empty]
  rfl

theorem clean_locals {name : String} (isName : IsName name) :
    clean ("locals:" ++ name) = "locals:".toList ++ name.toList := by
  have scheme : ("locals:".toList.all fun c => decide (0x20 < c.toNat)) = true := by decide
  have shown : ∀ c ∈ ("locals:" ++ name).toList, 0x20 < c.toNat := by
    rw [String.toList_append]
    intro c among
    rcases List.mem_append.mp among with front | named
    · exact of_decide_eq_true (List.all_eq_true.mp scheme c front)
    · exact isNameChar_shown (isName.plain c named)
  rw [clean_shown shown, String.toList_append]

theorem flatPath_name (scheme : String) {name : String} (isName : IsName name) :
    flatPath scheme name.toList =
      { scheme, host := none, port := none, path := spelled name, query := none, fragment := none } := by
  have inside : ∀ c ∈ name.toList, (!isTail c) = true := by
    intro c named
    have marks := fun d => isNameChar_ne (d := d) (isName.plain c named)
    simp [isTail, marks '?' (by decide), marks '#' (by decide)]
  rw [flatPath, span_all inside]
  rfl

/-- The URL that addresses a local variable. Its path is the spelling of the name. -/
theorem parse_locals {name : String} (isName : IsName name) :
    parse ("locals:" ++ name) = .ok
      { scheme := "locals", host := none, port := none, path := spelled name, query := none,
        fragment := none } := by
  have scheme : readScheme ("locals:".toList ++ name.toList) =
      some ("locals".toList, name.toList) := rfl
  have noSlash : ∀ rest, name.toList ≠ '/' :: rest := by
    intro rest same
    exact isNameChar_ne (isName.plain '/' (same ▸ List.mem_cons_self)) (by decide) rfl
  rw [parse, clean_locals isName, scheme, ← flatPath_name "locals" isName]
  dsimp only
  rw [if_neg (by decide), if_neg (by decide)]
  split
  · next rest same => exact absurd same (noSlash _)
  · next rest same => exact absurd same (noSlash _)
  · rfl

end Url

namespace Resource

/-- The key of a plain name is its spelling. -/
theorem keyOf_locals {name : String} (isName : Url.IsName name) :
    keyOf ("locals:" ++ name) = .ok (Url.spelled name) := by
  have filled := Url.spelled_filled isName
  rw [keyOf, parseUri, Url.parse_locals isName]
  simp only [Except.mapError, bind, Except.bind, filled, Bool.false_eq_true, if_false]
  rfl

end Resource

/-! ## Bound variables -/

namespace Edit

/-- The variable that an edit changes. -/
def key : Edit → String
  | put key _ => key
  | remove key => key

/-- An edit keeps the other variables. -/
theorem get?_applyOption {scope : Scope} (apart : scope.keys.Nodup) {edit : Option Edit} {name : String}
    (other : ∀ change ∈ edit, change.key ≠ name) :
    (applyOption scope edit).get? name = scope.get? name := by
  cases edit with
  | none => rfl
  | some change =>
    have differs := other change rfl
    cases change with
    | put key value => exact (Table.get?_insert ..).trans (if_neg differs)
    | remove key => exact (Table.get?_erase apart ..).trans (if_neg differs)

theorem nodup_applyOption {scope : Scope} (apart : scope.keys.Nodup) (edit : Option Edit) :
    (applyOption scope edit).keys.Nodup := by
  cases edit with
  | none => exact apart
  | some change =>
    cases change with
    | put key value => exact Table.nodup_insert apart key value
    | remove key => exact Table.nodup_erase apart key

end Edit

namespace Frame

/-- The variable `name` of an activation was bound to `value`, and its ops have not changed it since: it
was set by the procedure that runs at the root, or by a procedure that is called, or it is a parameter of
that call. -/
inductive Binds (host : Host ω π) (name : String) (value : Value) : Frame → Machine ω π → Prop
  | set {session : Session ω π} {procedure : Procedure} :
      session.root.locals.keys.Nodup → Table.get? procedure.set.reverse name = some value →
        Binds host name value (session.entry procedure) session.machine
  | called {frame : Frame} {machine : Machine ω π} {element : Value} {op : String} {params : Scope}
      {procedure : Procedure} :
      frame.locals.keys.Nodup → frame.ops[frame.pc]? = some element →
        Op.classify element = .ok (.invoke op params) →
        machine.registry.op op = .ok (.procedure procedure) →
        (Table.get? (frame.pending.extend (Op.bindings params)).reverse name).or
          (Table.get? procedure.set.reverse name) = some value →
        Binds host name value
          (frame.child op procedure (frame.pending.extend (Op.bindings params)))
          ((machine.traceStep frame op).emit (.enter op (frame.depth + 1)))
  | step {frame after : Frame} {machine left : Machine ω π} :
      Binds host name value frame machine → frame.TakesBlind host machine →
        (∀ edit ∈ frame.edit? machine, edit.key ≠ name) →
        Steps host (frame, machine) (after, left) → Binds host name value after left

/-- The op that comes next, called by the name `op`, reads the local variable `name`. -/
def Reads (frame : Frame) (machine : Machine ω π) (op name : String) (rest : Scope) : Prop :=
  ∃ element params, frame.ops[frame.pc]? = some element ∧
    Op.classify element = .ok (.invoke op params) ∧
    machine.registry.op op = .ok (.builtin .fetch) ∧
    Param.record {} Resource.Request.field (frame.pending.extend (Op.bindings params)) =
      .ok { uri := some ("locals:" ++ name), media := none, rest } ∧
    machine.registry.plugin .getter "locals" none = .ok (.variables .locals)

variable {frame after : Frame} {machine left : Machine ω π} {name op : String} {value : Value}
  {rest : Scope} {callee : Frame → Machine ω π → Run ω π}

theorem Binds.bound (binds : Binds host name value frame machine) :
    frame.locals.keys.Nodup ∧ frame.locals.get? name = some value := by
  induction binds with
  | set apart given =>
    refine ⟨Table.nodup_extend apart _, ?_⟩
    exact (Table.get?_extend ..).trans (by rw [given]; rfl)
  | called apart _ _ _ given =>
    refine ⟨Table.nodup_extend (Table.nodup_extend apart _) _, ?_⟩
    refine (Table.get?_extend ..).trans ?_
    rw [Table.get?_extend, ← Option.or_assoc, given]
    rfl
  | step _ blind other step ih =>
    obtain ⟨fuel, taken⟩ := step
    have edits := @turn_edits _ _ host _ _ (run host fuel) blind
    rw [taken] at edits
    obtain ⟨apart, held⟩ := ih
    rw [show _ = _ from edits]
    exact ⟨Edit.nodup_applyOption apart _, (Edit.get?_applyOption apart other).trans held⟩

/-- The request is understood, and finds the variables. -/
theorem Reads.asks (reads : frame.Reads machine op name rest) (isName : Url.IsName name) :
    frame.Asks machine op .fetch .locals ("locals:" ++ name) rest := by
  obtain ⟨element, params, found, classified, resolved, request, served⟩ := reads
  refine ⟨element, params, .getter, found, classified, resolved, rfl, ?_⟩
  unfold Resource.target Resource.parseUri
  rw [request]
  show (do
    let url ← (Url.parse ("locals:" ++ name)).mapError _
    let plugin ← machine.registry.plugin .getter url.scheme none
    return (plugin, "locals:" ++ name, rest)) = _
  rw [Url.parse_locals isName]
  show (do
    let plugin ← machine.registry.plugin .getter "locals" none
    return (plugin, "locals:" ++ name, rest)) = _
  rw [served]
  rfl

/-- A variable that was bound is read back if its name is ASCII. Otherwise what is read is what stands
under the spelling of the name, which is another one, and no other URI addresses the variable either. -/
theorem Binds.addressed (binds : Binds host name value frame machine) (isName : Url.IsName name)
    (reads : frame.Reads machine op name rest) (only : ∀ entry ∈ rest, entry.1 = "default")
    (callee : Frame → Machine ω π → Run ω π) :
    ∃ pushed left, frame.turn host callee machine = .next frame.spent left ∧
      left.stack = pushed :: machine.stack ∧
      ((∀ c ∈ name.toList, c.toNat < 0x80) → pushed = value) ∧
      ((∃ c ∈ name.toList, 0x80 ≤ c.toNat) → Url.spelled name ≠ name ∧
        pushed = (frame.locals.get? (Url.spelled name)).getD
          ((Table.get? rest.reverse "default").getD .null) ∧
        ∀ uri url, Url.parse uri = .ok url → url.scheme = "locals" → Resource.keyOf uri ≠ .ok name) := by
  obtain ⟨left, taken, stack⟩ :=
    (reads.asks isName).gets (Resource.record_default only) (Resource.keyOf_locals isName) host callee
  refine ⟨_, left, taken, stack, fun ascii => ?_,
    fun ⟨c, among, beyond⟩ => ⟨fun same => ?_, rfl, fun uri url parsed scheme addressed => ?_⟩⟩
  · rw [(Url.spelled_eq_iff isName).mpr ascii]
    show (frame.locals.get? name).getD _ = value
    rw [binds.bound.2]
    rfl
  · exact Nat.not_lt_of_le beyond ((Url.spelled_eq_iff isName).mp same c among)
  · have plain : Url.isSpecial url.scheme = false := by
      rw [scheme]
      decide
    exact Nat.not_lt_of_le beyond (Resource.keyOf_isAscii parsed plain addressed c among)

/-- A procedure reads back the parameter of its call. -/
theorem Binds.addressed_parameter :
    let procedure : Procedure :=
      ⟨[], [], [], [.obj [("op", .str "get"), ("uri", .str "locals:n1")]], []⟩
    let machine : Machine Unit Empty :=
      { Session.plain.machine with registry := Registry.builtins.withProcedure "f" procedure }
    let frame : Frame := { Frame.root with ops := [.obj [("op", .str "f"), ("n1", .int 5)]] }
    let child := frame.child "f" procedure [("n1", .int 5)]
    ∃ left, child.turn Session.plainHost (run Session.plainHost 0)
        ((machine.traceStep frame "f").emit (.enter "f" 1)) = .next child.spent left ∧
      left.stack = [.int 5] := by
  intro procedure machine frame child
  let element : Value := .obj [("op", .str "f"), ("n1", .int 5)]
  have apart : frame.locals.keys.Nodup := List.nodup_nil
  have found : frame.ops[frame.pc]? = some element := rfl
  have classified : Op.classify element = .ok (.invoke "f" [("op", .str "f"), ("n1", .int 5)]) := rfl
  have binds : Binds Session.plainHost "n1" (.int 5) child
      ((machine.traceStep frame "f").emit (.enter "f" 1)) :=
    .called apart found classified rfl rfl
  have isName : Url.IsName "n1" := ⟨by decide, List.all_eq_true.mp (by decide)⟩
  have reads : child.Reads ((machine.traceStep frame "f").emit (.enter "f" 1)) "get" "n1" [] :=
    ⟨_, _, rfl, rfl, rfl, rfl, rfl⟩
  obtain ⟨pushed, left, taken, stack, same, -⟩ :=
    binds.addressed isName reads (fun _ among => by cases among) (run Session.plainHost 0)
  have ascii : ("n1".toList.all fun c => decide (c.toNat < 0x80)) = true := by decide
  obtain rfl := same fun c among => of_decide_eq_true (List.all_eq_true.mp ascii c among)
  exact ⟨left, taken, stack⟩

/-- A setting whose name is not ASCII is not read back: a read of it finds nothing. -/
theorem Binds.addressed_accent :
    let document : Value := .obj [("set", .obj [("é", .int 1)]),
      ("run", .arr [.obj [("op", .str "get"), ("uri", .str "locals:é")]])]
    let ran := (Session.exec Session.plainHost 4 document).run.run Session.plain
    ran.1 = .ok () ∧ ran.2.root.locals.get? "é" = some (.int 1) ∧
      ran.2.machine.stack = [.null] ∧ ran.2.machine.stack ≠ [.int 1] := by
  intro document ran
  let procedure : Procedure := ⟨[], [], [("é", .int 1)],
    [.obj [("op", .str "get"), ("uri", .str "locals:é")]], []⟩
  let frame : Frame := Session.plain.entry procedure
  have isName : Url.IsName "é" := ⟨by decide, List.all_eq_true.mp (by decide)⟩
  have reads : frame.Reads Session.plain.machine "get" "é" [] := ⟨_, _, rfl, rfl, rfl, rfl, rfl⟩
  obtain ⟨left, taken, stack⟩ :=
    (reads.asks isName).gets rfl (Resource.keyOf_locals isName) Session.plainHost (run Session.plainHost 3)
  have apart : "é" ≠ Url.spelled "é" := by
    intro same
    have ascii := (Url.spelled_eq_iff isName).mp same.symm 'é' List.mem_cons_self
    exact absurd ascii (by decide)
  have missed : (frame.scopes Session.plain.machine .locals).get? (Url.spelled "é") = none :=
    if_neg apart
  rw [missed] at stack
  have run : frame.run Session.plainHost 4 Session.plain.machine = ⟨.ok (), frame.spent, left⟩ := by
    rw [run_succ, taken]
    rfl
  have same : ran = (.ok (), { Session.plain with machine := left, root := frame.spent }) := by
    refine (Session.exec_run 4 document Session.plain).trans ?_
    show ((frame.run Session.plainHost 4 Session.plain.machine).outcome,
      { Session.plain with
        machine := (frame.run Session.plainHost 4 Session.plain.machine).machine
        root := (frame.run Session.plainHost 4 Session.plain.machine).frame }) = _
    rw [run]
  rw [same]
  refine ⟨rfl, rfl, stack, ?_⟩
  rw [show left.stack = [.null] from stack]
  intro same
  cases same

end Frame

end DocMachine
