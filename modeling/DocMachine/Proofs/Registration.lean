import DocMachine.Proofs.Leftover
import DocMachine.Proofs.Refusal
import DocMachine.Proofs.Tables
import DocMachine.Proofs.Typed

/-!
# Registration

A document becomes the procedure behind a name in one of three ways: it is registered under the name,
it is included inline, or it is included by its URI. Each of them checks its run list, so what stands
in the run list of a registered procedure is an op or a literal, and no run finds anything else.

* `Registry.Registers` is one registration, and `Registry.Grows` is any number of them.
* `Plugins.RegistersOnly`: modules and foreign handlers change the registry by registrations only.
* `Procedure.Classifies` and `Registry.Classifies`: run lists hold ops and literals only.
* `Session.Reached` is what a session with the built-in ops comes to by registrations, imports,
  documents, lines and inputs, whatever becomes of them.
* `Session.Mistypes` is a line that types an object whose op is not a string.

Results:
1. `Registry.Grows.classifies`: registrations keep run lists so.
2. `Frame.run_avoids`: if run lists are so, a run does not come upon a malformed op.
3. `Session.Reached.classifies`: whatever was done in a session, run lists are so.
4. `Session.reached_malformed`: the only way to run a malformed op is to type it.
-/

namespace DocMachine

variable {ω π : Type} {host : Host ω π}

/-! ## Registries -/

/-- The run list holds ops and literals only. -/
def Procedure.Classifies (procedure : Procedure) : Prop :=
  ∀ value ∈ procedure.run, ∃ op, Op.classify value = .ok op

namespace Registry

/-- The run lists of all registered procedures hold ops and literals only. -/
def Classifies (registry : Registry π) : Prop :=
  ∀ name procedure, registry.op name = .ok (.procedure procedure) → procedure.Classifies

/-- One registration. A document is registered as a procedure if it is one. -/
inductive Registers (registry : Registry π) : Registry π → Prop
  | op (name : String) (plug : π) : Registers registry (registry.withOp name plug)
  | document {after : Registry π} (name : String) (document : Value) :
      registry.withDocument name document = .ok after → Registers registry after
  | getter (scheme : String) (media : Option String) (plug : π) :
      Registers registry (registry.withGetter scheme media plug)
  | putter (scheme : String) (media : Option String) (plug : π) :
      Registers registry (registry.withPutter scheme media plug)
  | deleter (scheme : String) (media : Option String) (plug : π) :
      Registers registry (registry.withDeleter scheme media plug)
  | copier (kind : Kind) (plug : π) : Registers registry (registry.withCopier kind plug)
  | module (name : String) (plug : π) : Registers registry (registry.withModule name plug)

/-- Any number of registrations. -/
def Grows : Registry π → Registry π → Prop := Relation.ReflTransGen Registers

theorem builtins_classifies : (builtins : Registry π).Classifies := by
  intro name procedure found
  obtain ⟨op, -, same⟩ := builtins_op found
  cases same

namespace Classifies

variable {registry after : Registry π}

theorem withProcedure (classifies : registry.Classifies) {procedure : Procedure}
    (valid : procedure.Classifies) (name : String) :
    (registry.withProcedure name procedure).Classifies := by
  intro other found' found
  rw [op_withProcedure] at found
  split at found
  · cases found
    exact valid
  · exact classifies other found' found

theorem withOp (classifies : registry.Classifies) (name : String) (plug : π) :
    (registry.withOp name plug).Classifies := by
  intro other procedure found
  unfold op Registry.withOp at found
  rw [Table.get?_insert] at found
  split at found
  · next matched =>
    split at matched
    · cases matched
      cases found
    · cases found
      exact classifies other procedure (by rw [op, matched])
  · cases found

theorem registers (classifies : registry.Classifies) (step : registry.Registers after) :
    after.Classifies := by
  cases step with
  | op name plug => exact classifies.withOp name plug
  | document name document registered =>
    unfold withDocument at registered
    split at registered
    · next valid =>
      cases registered
      exact classifies.withProcedure (Procedure.ofValue_classifies valid) name
    · cases registered
  | getter | putter | deleter | copier | module => exact classifies

end Classifies

/-- Registrations keep the run lists of registered procedures free of malformed ops. -/
theorem Grows.classifies {registry after : Registry π} (grows : registry.Grows after)
    (classifies : registry.Classifies) : after.Classifies := by
  induction grows with
  | refl => exact classifies
  | tail _ step ih => exact ih.registers step

end Registry

/-- Modules and foreign handlers change the registry by registrations only. -/
structure Plugins.RegistersOnly {γ : Type} (plugins : Plugins ω π γ) : Prop where
  handlers : ∀ base : Registry π, plugins.KeepsRegistry base.Grows
  install : ∀ plug (registry : Registry π), registry.Grows ((plugins.install plug).run.run registry).2

/-- So they keep whatever registrations keep. -/
theorem Plugins.RegistersOnly.keeps {γ : Type} {plugins : Plugins ω π γ}
    (registers : plugins.RegistersOnly) : plugins.KeepsRegistry Registry.Classifies where
  op plug scope call classifies :=
    ((registers.handlers _).op plug scope call .refl).classifies classifies
  get plug uri scope call classifies :=
    ((registers.handlers _).get plug uri scope call .refl).classifies classifies
  put plug value uri scope call classifies :=
    ((registers.handlers _).put plug value uri scope call .refl).classifies classifies
  delete plug uri scope call classifies :=
    ((registers.handlers _).delete plug uri scope call .refl).classifies classifies

/-! ## Runs -/

/-- Whether the fault says, underneath all traces, that something is no procedure or no op. -/
def Fault.isInvalid (fault : Fault) : Bool :=
  match fault.root with
  | .invalidProcedure _ => true
  | _ => false

theorem Fault.isInvalid_of_isPrior {fault : Fault} (other : fault.isPrior = false) :
    fault.isInvalid = false := by
  cases fault with
  | invalidProcedure _ | traced _ _ => cases other
  | _ => rfl

theorem Fault.isInvalid_root (fault : Fault) : fault.root.isInvalid = fault.isInvalid := by
  rw [isInvalid, root_root, isInvalid]

/-- Leaving an activation does not change what the failure says. -/
theorem Failure.isInvalid_through (failure : Failure) (site : Site) :
    (failure.through site).fault.isInvalid = failure.fault.isInvalid := by
  rw [← Fault.isInvalid_root, ← Fault.isInvalid_root failure.fault]
  exact congrArg Fault.isInvalid root_through

/-- If the turn fails, it does not say that something is no procedure or no op. -/
def Turn.IsValid : Turn ω π → Prop
  | .stop (.failed failure) _ _ => failure.fault.isInvalid = false
  | _ => True

namespace Frame

theorem fail_isValid {left : Frame} {fault : Fault} {machine : Machine ω π}
    (other : fault.isInvalid = false) : (left.fail fault machine).IsValid :=
  (Failure.isInvalid_through ⟨fault, []⟩ left.taken).trans other

theorem perform_isValid {act : Act ω π (List Value)} (avoids : act.Avoids Fault.isInvalid)
    (name : String) (frame : Frame) (machine : Machine ω π) :
    (frame.perform act name machine).IsValid := by
  have other := avoids ⟨machine, frame.spent, name⟩
  obtain ⟨turn, comes, performs⟩ := perform_performs act name frame machine
  rw [comes]
  cases performs with
  | answered => trivial
  | @refused fault _ ran =>
    rw [ran] at other
    exact fail_isValid (other fault rfl)

theorem enter_isValid {callee : Frame → Machine ω π → Run ω π} {child : Frame}
    {machine : Machine ω π}
    (inner : ∀ failure, (callee child (machine.emit (.enter child.name child.depth))).outcome =
      .error (.failed failure) → failure.fault.isInvalid = false) (frame : Frame) :
    (frame.enter callee child machine).IsValid := by
  obtain ⟨turn, comes, enters⟩ := enter_enters callee frame child machine
  rw [comes]
  cases enters with
  | deep => exact fail_isValid rfl
  | returned => trivial
  | @failed _ failure _ ran failed =>
    subst ran
    exact (failure.isInvalid_through _).trans (inner failure failed)
  | starved => trivial

section

variable {frame : Frame} {machine : Machine ω π} (avoids : host.Avoids Fault.isInvalid)
  (valid : ∀ value ∈ frame.ops, ∃ op, Op.classify value = .ok op)
  (classifies : machine.registry.Classifies)

include avoids valid classifies

theorem turn_isValid {callee : Frame → Machine ω π → Run ω π}
    (inner : ∀ child machine failure, (∀ value ∈ child.ops, ∃ op, Op.classify value = .ok op) →
      machine.registry.Classifies →
      (callee child machine).outcome = .error (.failed failure) → failure.fault.isInvalid = false) :
    (frame.turn host callee machine).IsValid := by
  obtain ⟨turn, comes, turns⟩ := turn_turns host callee frame machine
  rw [comes]
  cases turns with
  | ended => trivial
  | @element value _ found takes =>
    cases takes with
    | malformed refused =>
      obtain ⟨op, classified⟩ := valid value (List.mem_of_getElem? found)
      rw [classified] at refused
      cases refused
    | literal => trivial
    | unknown _ unknown =>
      obtain rfl := Registry.op_error unknown
      exact fail_isValid rfl
    | @dispatched _ _ handler _ resolved =>
      cases handler with
      | builtin op =>
        exact perform_isValid
          (Builtin.act_avoids (fun _ => Fault.isInvalid_of_isPrior) avoids op _) _ _ _
      | foreign plug => exact perform_isValid (avoids.op plug _) _ _ _
      | procedure procedure =>
        refine enter_isValid (fun failure => ?_) _
        refine inner _ _ failure (classifies _ procedure resolved) ?_
        rw [Machine.emit_registry, Machine.traceStep_registry]
        exact classifies

/-- A run of ops and literals does not come upon anything else, if no registered procedure has anything
else in its run list. -/
theorem run_avoids (facade : host.Facade) (keeps : host.KeepsRegistry Registry.Classifies)
    {fuel : Nat} {failure : Failure}
    (failed : (frame.run host fuel machine).outcome = .error (.failed failure)) :
    failure.fault.isInvalid = false := by
  induction fuel generalizing frame machine failure with
  | zero => cases failed
  | succ fuel ih =>
    have turned : (frame.turn host (run host fuel) machine).IsValid :=
      turn_isValid avoids valid classifies fun _ _ _ valid classifies => ih valid classifies
    have kept : (frame.turn host (run host fuel) machine).Leaves (·.registry.Classifies) :=
      turn_keeps keeps (fun _ _ => run_keeps keeps fuel) classifies
    rw [run_succ] at failed
    cases taken : frame.turn host (run host fuel) machine with
    | ended =>
      rw [taken] at failed
      cases failed
    | next after left =>
      rw [taken] at failed kept
      have valid : ∀ value ∈ after.ops, ∃ op, Op.classify value = .ok op := by
        rwa [(turn_same facade taken).ops]
      exact ih valid kept failed
    | stop reason after left =>
      rw [taken] at failed turned
      cases failed
      exact turned

end

end Frame

/-! ## Sessions -/

namespace Task.Keeps

variable {I : Session ω π → Prop}

theorem pure {α : Type} (a : α) : (Pure.pure a : Task ω π α).Keeps I := fun _ holds => holds

theorem fail {α : Type} (fault : Fault) : (Task.fail fault : Task ω π α).Keeps I :=
  fun _ holds => holds

theorem forM {α : Type} {task : α → Task ω π Unit} (each : ∀ a, (task a).Keeps I)
    (items : List α) : Task.Keeps I (items.forM task) := by
  induction items with
  | nil => exact pure ()
  | cons item rest ih => exact bind (each item) fun _ => ih

end Task.Keeps

namespace Session

/-- The run lists of all registered procedures hold ops and literals only. -/
def Classifies (session : Session ω π) : Prop := session.machine.registry.Classifies

/-- A document that was checked is registered after what it loads. -/
theorem Takes.classifies {load : Procedure → Task ω π Unit} {name : String} {document : Value}
    {session : Session ω π} {result : Except Stop Unit × Session ω π}
    (takes : Takes load name document session result)
    (loads : ∀ inner, Task.Keeps Classifies (load inner)) (classifies : session.Classifies) :
    result.2.Classifies := by
  cases takes with
  | refused _ => exact classifies
  | @stopped inner _ _ _ ran =>
    have loaded := loads inner session classifies
    rwa [ran] at loaded
  | @done inner _ valid ran =>
    have loaded := loads inner session classifies
    rw [ran] at loaded
    exact Registry.Classifies.withProcedure loaded (Procedure.ofValue_classifies valid) name

section

variable (registers : host.RegistersOnly)

include registers

theorem importModule_classifies (name : String) :
    Task.Keeps Classifies (importModule host name) := by
  intro session classifies
  rw [importModule_run]
  split
  · exact classifies
  · exact (registers.install _ _).classifies classifies

theorem fetch_classifies (uri : String) : Task.Keeps Classifies (fetch host uri) := by
  intro session classifies
  rw [Task.fetch_run]
  cases session.machine.registry.getter uri with
  | error fault => exact classifies
  | ok plugin =>
    rcases plugin with reach | plug
    · have steady := @Call.steady_registry ω π Registry.Classifies
      exact (Act.Keeps.blocks steady).closed.getVariable reach uri [] _ classifies
    · exact registers.keeps.get plug uri [] _ classifies

theorem bring_classifies {load : Procedure → Task ω π Unit}
    (loads : ∀ inner, Task.Keeps Classifies (load inner)) (name : String) (reference : Value) :
    Task.Keeps Classifies (bring host load name reference) := by
  intro session classifies
  obtain ⟨result, ran, brings⟩ := bring_brings host load name reference session
  rw [ran]
  cases brings with
  | inline _ takes => exact takes.classifies loads classifies
  | cyclic _ => exact classifies
  | @missed uri _ _ _ _ fetched =>
    have kept := fetch_classifies registers uri session classifies
    rwa [fetched] at kept
  | @got uri _ found _ _ _ _ fetched takes =>
    have kept := fetch_classifies registers uri session classifies
    rw [fetched] at kept
    have loading : (found.whileLoading uri).Classifies := kept
    exact takes.classifies loads loading

/-- Loading only registers procedures that have been checked, also if it fails halfway. -/
theorem load_classifies (fuel : Nat) (procedure : Procedure) :
    Task.Keeps Classifies (load host fuel procedure) := by
  induction fuel generalizing procedure with
  | zero => exact fun _ classifies => classifies
  | succ fuel ih =>
    exact .bind (.forM (importModule_classifies registers) _) fun _ =>
      .forM (fun (entry : String × Value) => bring_classifies registers ih entry.1 entry.2) _

theorem runRoot_classifies (fuel : Nat) (ops : List Value) :
    Task.Keeps Classifies (runRoot host fuel ops) := by
  intro session classifies
  rw [runRoot_run]
  exact Frame.run_keeps registers.keeps fuel classifies

theorem exec_classifies (fuel : Nat) (document : Value) :
    Task.Keeps Classifies (exec host fuel document) := by
  intro session classifies
  rw [exec_run]
  split
  · exact classifies
  · next procedure _ =>
    have loaded := load_classifies registers fuel procedure session classifies
    split
    · next ran =>
      rw [ran] at loaded
      exact loaded
    · next ran =>
      rw [ran] at loaded
      exact Frame.run_keeps registers.keeps fuel loaded

theorem eval_classifies (fuel : Nat) (line : String) :
    Task.Keeps Classifies (eval host fuel line) := by
  intro session classifies
  rw [eval_run]
  split
  · exact classifies
  · split
    · exact importModule_classifies registers _ session classifies
    · split
      · have fetched := fetch_classifies registers (Text.trim line) session classifies
        split
        · next ran =>
          rw [ran] at fetched
          exact exec_classifies registers fuel _ _ fetched
        · next ran =>
          rw [ran] at fetched
          exact fetched
      · split
        · exact runRoot_classifies registers fuel _ session classifies
        · exact classifies

theorem evalBytes_classifies (fuel : Nat) (line : List UInt8) :
    Task.Keeps Classifies (evalBytes host fuel line) := by
  unfold evalBytes
  split
  · exact eval_classifies registers fuel _
  · exact .fail _

theorem repl_classifies (fuel : Nat) (bytes : List UInt8) :
    Task.Keeps Classifies (repl host fuel bytes) :=
  .forM (evalBytes_classifies registers fuel) (Text.byteLines bytes)

end

/-! ## What a session comes to -/

/-- What a session with the built-in ops comes to by registrations, imports, documents, lines and
inputs, whatever becomes of them. -/
inductive Reached (host : Host ω π) : Session ω π → Prop
  | start {session : Session ω π} : session.machine.registry = .builtins → Reached host session
  | register {session : Session ω π} {registry : Registry π} : Reached host session →
      session.machine.registry.Registers registry →
      Reached host { session with machine := { session.machine with registry } }
  | importModule {session : Session ω π} (name : String) : Reached host session →
      Reached host ((Session.importModule host name).run.run session).2
  | exec {session : Session ω π} (fuel : Nat) (document : Value) : Reached host session →
      Reached host ((Session.exec host fuel document).run.run session).2
  | eval {session : Session ω π} (fuel : Nat) (line : String) : Reached host session →
      Reached host ((Session.eval host fuel line).run.run session).2
  | repl {session : Session ω π} (fuel : Nat) (bytes : List UInt8) : Reached host session →
      Reached host ((Session.repl host fuel bytes).run.run session).2

/-- Whatever was done in a session, the run lists of its registered procedures hold ops and literals
only. -/
theorem Reached.classifies (registers : host.RegistersOnly) {session : Session ω π}
    (reached : Reached host session) : session.Classifies := by
  induction reached with
  | start isBuiltin =>
    unfold Classifies
    rw [isBuiltin]
    exact Registry.builtins_classifies
  | register _ step ih => exact Registry.Classifies.registers ih step
  | importModule name _ ih => exact importModule_classifies registers name _ ih
  | exec fuel document _ ih => exact exec_classifies registers fuel document _ ih
  | eval fuel line _ ih => exact eval_classifies registers fuel line _ ih
  | repl fuel bytes _ ih => exact repl_classifies registers fuel bytes _ ih

end Session

/-! ## Malformed ops -/

/-- The value is an object with an op that is not a string. -/
def Op.IsMalformed (value : Value) : Prop :=
  ∃ fields op, value = .obj fields ∧ Table.get? fields "op" = some op ∧ ∀ name, op ≠ .str name

/-- Such an object is neither an op nor a literal, and all else is one of them. -/
theorem Op.classify_eq_error {value : Value} :
    (∃ fault, Op.classify value = .error fault) ↔ Op.IsMalformed value := by
  constructor
  · rintro ⟨fault, failed⟩
    cases value with
    | obj fields =>
      simp only [classify] at failed
      split at failed
      · cases failed
      · next op other found => exact ⟨fields, op, rfl, found, other⟩
      · cases failed
    | _ => cases failed
  · rintro ⟨fields, op, rfl, found, other⟩
    unfold classify
    simp only [found]
    exact ⟨_, rfl⟩

/-- The failure is that of a run that met something that is no op. -/
def Failure.IsMalformed (failure : Failure) : Prop :=
  failure.sites ≠ [] ∧ failure.fault.isInvalid = true

namespace Session

/-- The line is the literal of an object whose op is not a string. -/
def Mistypes (line : String) : Prop :=
  (Text.trim line).isEmpty = false ∧ importOf? (Text.trim line) = none ∧
    isProcedureUri (Text.trim line) = false ∧
      ∃ value, parseLiteral? (Text.trim line) = some value ∧ Op.IsMalformed value

section

variable {session left : Session ω π} {fuel : Nat} {failure : Failure}

/-- A run of a malformed op refuses it. -/
theorem runRoot_malformed {value : Value} {fault : ProcedureFault}
    (classified : Op.classify value = .error fault) :
    (runRoot host (fuel + 1) [value]).run.run session =
      (.error (.failed ⟨.invalidProcedure fault, [⟨session.root.name, 0⟩]⟩),
        { session with root := (session.root.start [value]).advance }) := by
  have taken : (session.root.start [value]).turn host (Frame.run host fuel) session.machine =
      (session.root.start [value]).stops (.invalidProcedure fault)
        (session.root.start [value]).advance session.machine := by
    show Frame.takeUp host _ value _ _ = _
    unfold Frame.takeUp
    rw [classified]
    exact Frame.advance_fail rfl _
  rw [runRoot_run]
  simp only [Frame.run_succ, taken]
  rfl

/-- A line that types a malformed op starts a run of it. -/
theorem Mistypes.eval {line : String} (mistypes : Mistypes line) :
    ∃ value fault, Op.classify value = .error fault ∧
      ∀ fuel, Session.eval host fuel line = runRoot host fuel [value] := by
  obtain ⟨written, noImport, noUri, value, parsed, malformed⟩ := mistypes
  obtain ⟨fault, classified⟩ := Op.classify_eq_error.mpr malformed
  refine ⟨value, fault, classified, fun fuel => ?_⟩
  unfold Session.eval
  simp only [written, noImport, noUri, parsed, Bool.false_eq_true, if_false]

/-- Such a line is refused by the run that it starts. -/
theorem eval_mistyped {line : String} (mistypes : Mistypes line)
    (failed : (eval host fuel line).run.run session = (.error (.failed failure), left)) :
    failure.IsMalformed := by
  obtain ⟨value, fault, classified, evaluated⟩ := @Mistypes.eval _ _ host line mistypes
  rw [evaluated] at failed
  cases fuel with
  | zero => cases failed
  | succ fuel =>
    rw [runRoot_malformed classified] at failed
    cases failed
    exact ⟨List.cons_ne_nil _ _, rfl⟩

variable (facade : host.Facade) (registers : host.RegistersOnly)
  (avoids : host.Avoids Fault.isInvalid)

include facade registers avoids

theorem runRoot_wellFormed (classifies : session.Classifies) {ops : List Value}
    (valid : ∀ value ∈ ops, ∃ op, Op.classify value = .ok op)
    (failed : (runRoot host fuel ops).run.run session = (.error (.failed failure), left)) :
    ¬ failure.IsMalformed := by
  rintro ⟨-, invalid⟩
  rw [runRoot_run] at failed
  have valid : ∀ value ∈ (session.root.start ops).ops, ∃ op, Op.classify value = .ok op := valid
  have other := Frame.run_avoids avoids valid classifies facade registers.keeps
    (Prod.mk.inj failed).1
  rw [invalid] at other
  cases other

theorem exec_wellFormed (classifies : session.Classifies) {document : Value}
    (failed : (exec host fuel document).run.run session = (.error (.failed failure), left)) :
    ¬ failure.IsMalformed := by
  rintro ⟨running, invalid⟩
  rw [exec_run] at failed
  cases valid : Procedure.ofValue document with
  | error fault =>
    rw [valid] at failed
    cases failed
    exact running rfl
  | ok procedure =>
    rw [valid] at failed
    simp only at failed
    have outside : (load host fuel procedure).IsOutside := load_outside fuel procedure
    have loaded := load_classifies registers fuel procedure session classifies
    cases loads : (load host fuel procedure).run.run session with
    | mk outcome ready =>
      rw [loads] at failed loaded
      cases outcome with
      | error stop =>
        cases failed
        exact running (outside session failure (by rw [loads]))
      | ok _ =>
        have valid : ∀ value ∈ (ready.entry procedure).ops, ∃ op, Op.classify value = .ok op :=
          Procedure.ofValue_classifies valid
        have other := Frame.run_avoids avoids valid loaded facade registers.keeps
          (Prod.mk.inj failed).1
        rw [invalid] at other
        cases other

theorem eval_wellFormed (classifies : session.Classifies) {line : String}
    (failed : (eval host fuel line).run.run session = (.error (.failed failure), left))
    (malformed : failure.IsMalformed) : Mistypes line := by
  rw [eval_run] at failed
  split at failed
  · cases failed
  · next written =>
    split at failed
    · next name _ =>
      have outside : (importModule host name).IsOutside := Task.IsOutside.closed.importModule name
      exact absurd (outside session failure (by rw [failed])) malformed.1
    · next noImport =>
      split at failed
      · have got := fetch_classifies registers (Text.trim line) session classifies
        have outside : (fetch host (Text.trim line)).IsOutside := Task.IsOutside.closed.fetch _
        split at failed
        · next document ready fetched =>
          rw [fetched] at got
          exact absurd malformed (exec_wellFormed facade registers avoids got failed)
        · next stop ready fetched =>
          cases failed
          exact absurd (outside session failure (by rw [fetched])) malformed.1
      · next noUri =>
        split at failed
        · next value parsed =>
          by_cases isOp : ∃ op, Op.classify value = .ok op
          · have valid : ∀ item ∈ [value], ∃ op, Op.classify item = .ok op := by
              simpa using isOp
            exact absurd malformed (runRoot_wellFormed facade registers avoids classifies valid failed)
          · cases classified : Op.classify value with
            | ok op => exact absurd ⟨op, classified⟩ isOp
            | error fault =>
              exact ⟨by simpa using written, noImport, by simpa using noUri, value, parsed,
                Op.classify_eq_error.mp ⟨fault, classified⟩⟩
        · cases failed
          exact absurd rfl malformed.1

/-- So is the only input one with such a line. -/
theorem repl_wellFormed (classifies : session.Classifies) {bytes : List UInt8}
    (failed : (repl host fuel bytes).run.run session = (.error (.failed failure), left))
    (malformed : failure.IsMalformed) :
    ∃ line ∈ Text.byteLines bytes, ∃ text, Text.ofUtf8 line = .ok text ∧ Mistypes text := by
  rw [repl_eq] at failed
  obtain ⟨before, line, after, found, listed, passed, stopped⟩ := forM_stopped failed
  have reached := Task.Keeps.forM (evalBytes_classifies registers fuel) before session classifies
  rw [passed] at reached
  unfold evalBytes at stopped
  split at stopped
  · next text decoded =>
    exact ⟨line, by rw [listed]; simp, text, decoded,
      eval_wellFormed facade registers avoids reached stopped malformed⟩
  · cases stopped
    exact absurd rfl malformed.1

/-- Whatever was done in a session, the run lists of its registered procedures hold ops and literals
only. So neither an import nor a document makes a run meet a malformed op: a line does if and only if it
types one, and an input only if one of its lines does. -/
theorem reached_malformed (reached : Reached host session) :
    session.Classifies ∧
    (∀ name, (importModule host name).run.run session = (.error (.failed failure), left) →
      ¬ failure.IsMalformed) ∧
    (∀ document, (exec host fuel document).run.run session = (.error (.failed failure), left) →
      ¬ failure.IsMalformed) ∧
    (∀ line, (eval host fuel line).run.run session = (.error (.failed failure), left) →
      (failure.IsMalformed ↔ Mistypes line)) ∧
    (∀ bytes, (repl host fuel bytes).run.run session = (.error (.failed failure), left) →
      failure.IsMalformed →
        ∃ line ∈ Text.byteLines bytes, ∃ text, Text.ofUtf8 line = .ok text ∧ Mistypes text) := by
  have classifies := reached.classifies registers
  refine ⟨classifies, ?_, ?_, ?_, ?_⟩
  · rintro name failed ⟨running, -⟩
    have outside : (importModule host name).IsOutside := Task.IsOutside.closed.importModule name
    exact running (outside session failure (by rw [failed]))
  · intro document failed
    exact exec_wellFormed facade registers avoids classifies failed
  · intro line failed
    exact ⟨eval_wellFormed facade registers avoids classifies failed,
      fun mistypes => eval_mistyped mistypes failed⟩
  · intro bytes failed
    exact repl_wellFormed facade registers avoids classifies failed

end

end Session

namespace Library

/-- A reader of a library whose modules register a document. -/
def publisher (documents : String → Except Fault Value) (name : String) (document : Value) :
    Host Unit Unit :=
  { reader documents with
    install := fun _ => do
      match (← get).withDocument name document with
      | .ok registry => set registry
      | .error fault => throw fault }

variable (documents : String → Except Fault Value) (name : String) (document : Value)

theorem publisher_facade : (publisher documents name document).Facade :=
  ⟨(reader_facade documents).op, (reader_facade documents).get, (reader_facade documents).put,
    (reader_facade documents).delete⟩

theorem publisher_registersOnly : (publisher documents name document).RegistersOnly where
  handlers base :=
    { op := fun _ _ => .pure _
      get := fun _ _ _ => .ofExcept _
      put := fun _ _ _ _ => .pure _
      delete := fun _ _ _ => .pure _ }
  install _ registry := by
    have ran : ((publisher documents name document).install ()).run.run registry =
        (match registry.withDocument name document with
        | .ok after => set after
        | .error fault => throw fault : ExceptT Fault (StateM (Registry Unit)) Unit).run.run
          registry := rfl
    rw [ran]
    cases registered : registry.withDocument name document with
    | ok after => exact .single (.document name document registered)
    | error fault => exact .refl

theorem publisher_avoids {those : Fault → Bool}
    (reads : ∀ uri fault, documents uri = .error fault → those fault = false) :
    (publisher documents name document).Avoids those where
  op _ _ := .pure _
  get _ uri scope call fault failed := by
    rw [show (publisher documents name document).get = (reader documents).get from rfl,
      reader_get] at failed
    exact reads uri fault failed
  put _ _ _ _ := .pure _
  delete _ _ _ := .pure _

end Library

namespace Session

/-- A module registers a procedure, a document fails halfway through its includes, and then a line types a
malformed op. -/
theorem reached_malformed_typed :
    let host := Library.publisher Library.couple "f" (.obj [("run", .arr [.bool true])])
    let document : Value :=
      .obj [("import", .arr [.str "m"]), ("include", .obj [("g", .obj []), ("a", .str "mem:a")])]
    let base : Session Unit Unit :=
      { Library.session with
        machine := { Library.session.machine with
          registry := Library.registry.withModule "m" () } }
    let ran := (exec host 4 document).run.run base
    let line := Json.compact (.obj [("op", .bool true)])
    ran.1 = .error (.failed ⟨.includeCycle "mem:a", []⟩) ∧
      ran.2.machine.registry.op "f" = .ok (.procedure { run := [.bool true] }) ∧
      ran.2.Classifies ∧ Mistypes line ∧ ∃ failure left,
        (eval host 2 line).run.run ran.2 = (.error (.failed failure), left) ∧
          failure.IsMalformed := by
  intro host document base ran line
  have reached : Reached host ran.2 := by
    have new : Reached host { Library.session with
        machine := { Library.session.machine with registry := .builtins } } := .start rfl
    exact .exec 4 document ((new.register (.getter "mem" _ ())).register (.module "m" ()))
  have facade : host.Facade := Library.publisher_facade _ _ _
  have registers : host.RegistersOnly := Library.publisher_registersOnly _ _ _
  have avoids : host.Avoids Fault.isInvalid := by
    refine Library.publisher_avoids _ _ _ fun uri fault failed => ?_
    unfold Library.couple at failed
    split at failed
    · cases failed
    · split at failed
      · cases failed
      · cases failed
        rfl
  have fits : Json.Fits Json.maxDepth (.obj [("op", .bool true)]) :=
    .obj (by decide) (by simpa using .bool 126 true)
  have failed : ∃ left, (eval host 2 line).run.run ran.2 =
      (.error (.failed ⟨.invalidProcedure (.badOpName "bool"), [⟨ran.2.root.name, 0⟩]⟩), left) := by
    rw [eval_compact fits]
    exact ⟨_, runRoot_malformed rfl⟩
  obtain ⟨left, failed⟩ := failed
  have malformed : Failure.IsMalformed
    ⟨.invalidProcedure (.badOpName "bool"), [⟨ran.2.root.name, 0⟩]⟩ := ⟨List.cons_ne_nil _ _, rfl⟩
  obtain ⟨classifies, -, -, eval, -⟩ := reached_malformed facade registers avoids reached
  refine ⟨?_, ?_, classifies, (eval line failed).mp malformed, _, left, failed, malformed⟩
  · show ((exec host 4 document).run.run base).1 = _
    cbv
  · show ((exec host 4 document).run.run base).2.machine.registry.op "f" = _
    cbv

end Session

end DocMachine
