import DocMachine.Proofs.Cycles
import DocMachine.Proofs.Linked

/-!
# Documents that do not come to run

A document may be refused, and loading its imports and includes may fail, also deep inside of what it
includes. In both cases none of its ops has been run, and its settings have not been made.

* `Plugins.LeavesData`: the foreign getters touch neither the stack nor a variable.
* `Session.IsUntouched`: of the machine and its root activation nothing is changed but the registry,
  the clock and the world.
* `Session.NeverRuns` is a document that is refused, or fails while it is loaded.

Results:
1. `Frame.run_sites`: what fails while it is running names the ops that were being run.
2. `Session.load_untouched`: loading touches nothing, whatever comes of it.
3. `Session.exec_unloaded`: the failures that name no op are those of documents that do not come to
   run, and such a document leaves the session untouched.
-/

namespace DocMachine

variable {ω π : Type} {host : Host ω π}

/-! ## Failures of runs -/

namespace Frame

variable {frame after : Frame} {machine left : Machine ω π} {failure : Failure}

theorem enter_sites {callee : Frame → Machine ω π → Run ω π} {child : Frame}
    (taken : frame.enter callee child machine = .stop (.failed failure) after left) :
    failure.sites ≠ [] := by
  obtain ⟨turn, comes, enters⟩ := enter_enters callee frame child machine
  rw [comes] at taken
  cases enters with
  | deep =>
    cases taken
    exact Failure.through_sites_ne
  | returned => cases taken
  | failed =>
    cases taken
    exact Failure.through_sites_ne
  | starved => cases taken

theorem perform_sites {act : Act ω π (List Value)} {name : String}
    (taken : frame.perform act name machine = .stop (.failed failure) after left) :
    failure.sites ≠ [] := by
  obtain ⟨turn, comes, performs⟩ := perform_performs act name frame machine
  rw [comes] at taken
  cases performs with
  | answered => cases taken
  | refused =>
    cases taken
    exact Failure.through_sites_ne

/-- An op that fails is named by the failure. -/
theorem turn_sites {callee : Frame → Machine ω π → Run ω π}
    (taken : frame.turn host callee machine = .stop (.failed failure) after left) :
    failure.sites ≠ [] := by
  obtain ⟨turn, comes, turns⟩ := turn_turns host callee frame machine
  rw [comes] at taken
  cases turns with
  | ended => cases taken
  | element _ takes =>
    cases takes with
    | malformed =>
      cases taken
      exact Failure.through_sites_ne
    | literal => cases taken
    | unknown =>
      cases taken
      exact Failure.through_sites_ne
    | @dispatched _ _ handler =>
      cases handler with
      | builtin op => exact perform_sites taken
      | foreign plug => exact perform_sites taken
      | procedure procedure => exact enter_sites taken

/-- What fails while it is running names the ops that were being run. -/
theorem run_sites {fuel : Nat}
    (failed : (frame.run host fuel machine).outcome = .error (.failed failure)) :
    failure.sites ≠ [] := by
  induction fuel generalizing frame machine with
  | zero => cases failed
  | succ fuel ih =>
    rw [run] at failed
    cases taken : frame.turn host (run host fuel) machine with
    | ended =>
      rw [taken] at failed
      cases failed
    | next after left =>
      rw [taken] at failed
      exact ih failed
    | stop reason after left =>
      rw [taken] at failed
      cases failed
      exact turn_sites taken

end Frame

/-! ## Loading -/

/-- The foreign getters touch neither the stack nor a variable. -/
structure Plugins.LeavesData {γ : Type} (plugins : Plugins ω π γ) : Prop where
  stack : ∀ plug uri scope call,
    ((plugins.get plug uri scope).run.run call).2.machine.stack = call.machine.stack
  globals : ∀ plug uri scope call,
    ((plugins.get plug uri scope).run.run call).2.machine.globals = call.machine.globals
  locals : ∀ plug uri scope call,
    ((plugins.get plug uri scope).run.run call).2.frame.locals = call.frame.locals

namespace Session

/-- Of the machine and its root activation nothing is changed but the registry, the clock and the
world: the stack, all variables, the pending parameters and the machine's trace are the same. -/
structure IsUntouched (left session : Session ω π) : Prop where
  root : left.root = session.root
  machine : left.machine =
    { session.machine with
      registry := left.machine.registry
      elapsed := left.machine.elapsed
      world := left.machine.world }

namespace IsUntouched

variable {left session : Session ω π}

theorem refl (session : Session ω π) : session.IsUntouched session := ⟨rfl, rfl⟩

theorem registry (untouched : left.IsUntouched session) (registry : Registry π) :
    { left with machine := { left.machine with registry } }.IsUntouched session where
  root := untouched.root
  machine := by
    rw [untouched.machine]

theorem loading (untouched : left.IsUntouched session) (loading : List String) :
    { left with loading }.IsUntouched session :=
  ⟨untouched.root, untouched.machine⟩

theorem trans {last : Session ω π} (second : last.IsUntouched left)
    (first : left.IsUntouched session) : last.IsUntouched session where
  root := second.root.trans first.root
  machine := by
    rw [second.machine, first.machine]

end IsUntouched

section

variable (facade : host.Facade) (leaves : host.LeavesData)

include facade leaves

theorem get_untouched (plugin : Plugin π) (uri : String) (session : Session ω π) :
    let ran := (plugin.get host uri []).run.run ⟨session.machine, session.root, "get"⟩
    { session with machine := ran.2.machine, root := ran.2.frame }.IsUntouched session := by
  rcases plugin with reach | plug
  · have same := Resource.getVariable_keeps reach uri []
      (⟨session.machine, session.root, "get"⟩ : Call ω π)
    simp only [Plugin.get, same]
    exact .refl session
  · have get := facade.get plug uri []
    have inside := get.inside ⟨session.machine, session.root, "get"⟩
    have frame := get.frame ⟨session.machine, session.root, "get"⟩
    have stack := leaves.stack plug uri [] ⟨session.machine, session.root, "get"⟩
    have globals := leaves.globals plug uri [] ⟨session.machine, session.root, "get"⟩
    have locals := leaves.locals plug uri [] ⟨session.machine, session.root, "get"⟩
    simp only [Plugin.get]
    generalize ((host.get plug uri []).run.run ⟨session.machine, session.root, "get"⟩).2 = call
      at inside frame stack globals locals ⊢
    rw [locals] at frame
    refine ⟨frame, ?_⟩
    obtain ⟨⟨_, _, _, _, _, _, _, _, _, _⟩, _, _⟩ := call
    simp only [Call.inside, Inside.mk.injEq] at inside stack globals ⊢
    obtain ⟨-, -, -, -, -, rfl, rfl, rfl, rfl, rfl⟩ := inside
    rw [stack, globals]

/-- Loading touches neither the stack nor a variable, whatever comes of it. -/
theorem untouched_closed (base : Session ω π) :
    Task.Closed host fun _ (task : Task ω π _) => task.Keeps (·.IsUntouched base) := by
  refine Task.Keeps.closed (fun _ _ untouched => untouched.registry _)
    (fun _ _ untouched => untouched.loading _) ?_
  intro uri session untouched
  rw [Task.fetch_run]
  cases session.machine.registry.getter uri with
  | error fault => exact untouched
  | ok plugin => exact (get_untouched facade leaves plugin uri session).trans untouched

theorem load_untouched (fuel : Nat) (procedure : Procedure) (session : Session ω π) :
    ((load host fuel procedure).run.run session).2.IsUntouched session :=
  load_closed (untouched_closed facade leaves session) fuel procedure session (.refl session)

end

end Session

/-! ## Documents -/

namespace Library

variable (documents : String → Except Fault Value)

theorem reader_facade : (reader documents).Facade where
  op _ _ := .pure _
  get _ _ _ := .ofExcept _
  put _ _ _ _ := .pure _
  delete _ _ _ := .pure _

theorem reader_leavesData : (reader documents).LeavesData where
  stack _ uri scope call := by rw [reader_get]
  globals _ uri scope call := by rw [reader_get]
  locals _ uri scope call := by rw [reader_get]

end Library

namespace Session

/-- The document is refused, or its imports and includes fail to load. -/
inductive NeverRuns (host : Host ω π) (fuel : Nat) (document : Value) (session : Session ω π) :
    Failure → Session ω π → Prop
  | refused {fault : ProcedureFault} : Procedure.ofValue document = .error fault →
      NeverRuns host fuel document session ⟨.invalidProcedure fault, []⟩ session
  | unloaded {procedure : Procedure} {failure : Failure} {left : Session ω π} :
      Procedure.ofValue document = .ok procedure →
      (load host fuel procedure).run.run session = (.error (.failed failure), left) →
      NeverRuns host fuel document session failure left

variable {fuel : Nat} {document : Value} {session left : Session ω π} {failure : Failure}

/-- A failure that names no op is that of a document that does not come to run. -/
theorem exec_neverRuns
    (failed : (exec host fuel document).run.run session = (.error (.failed failure), left)) :
    failure.sites = [] ↔ NeverRuns host fuel document session failure left := by
  rw [exec_run] at failed
  cases valid : Procedure.ofValue document with
  | error fault =>
    rw [valid] at failed
    cases failed
    exact ⟨fun _ => .refused valid, fun _ => rfl⟩
  | ok procedure =>
    have outside : (load host fuel procedure).IsOutside := load_outside fuel procedure
    rw [valid] at failed
    simp only at failed
    constructor
    · intro nowhere
      cases loads : (load host fuel procedure).run.run session with
      | mk outcome loaded =>
        rw [loads] at failed
        cases outcome with
        | error stop =>
          cases failed
          exact .unloaded valid loads
        | ok _ => exact absurd nowhere (Frame.run_sites (Prod.mk.inj failed).1)
    · rintro (refused | ⟨valid', loads⟩)
      · rfl
      · cases valid.symm.trans valid'
        exact outside session failure (by rw [loads])

/-- The failures that name no op are those of documents that are refused or fail to load. Such a
document leaves the stack, the variables, what is pending and the trace as they were, and a refused one
leaves the registry as well. -/
theorem exec_unloaded (facade : host.Facade) (leaves : host.LeavesData)
    (failed : (exec host fuel document).run.run session = (.error (.failed failure), left)) :
    (failure.sites = [] ↔ NeverRuns host fuel document session failure left) ∧
    (failure.sites = [] → left.IsUntouched session ∧ left.loading = session.loading) ∧
    (∀ fault, Procedure.ofValue document = .error fault → left = session) := by
  refine ⟨exec_neverRuns failed, ?_, ?_⟩
  · intro nowhere
    cases (exec_neverRuns failed).mp nowhere with
    | refused _ => exact ⟨.refl session, rfl⟩
    | @unloaded procedure _ _ _ loads =>
      have untouched := load_untouched facade leaves fuel procedure session
      have loading := @load_loading _ _ host fuel procedure session
      rw [loads] at untouched loading
      exact ⟨untouched, loading⟩
  · intro fault refused
    rw [exec_run, refused] at failed
    cases failed
    rfl

/-- A procedure within the document includes a URI that leads into a cycle. -/
theorem exec_unloaded_couple :
    let inner : Value := .obj [("include", .obj [("a", .str "mem:a")])]
    let document : Value := .obj [("set", .obj [("k", .bool true)]),
      ("include", .obj [("f", .obj []), ("g", inner)]), ("run", .arr [.obj [("op", .str "drop")]])]
    let session : Session Unit Unit :=
      { Library.session with
        machine := { Library.session.machine with stack := [.null], globals := [("k", .null)] }
        root := { Frame.root with locals := [("k", .bool false)], pending := [("n", .null)] } }
    ∃ left, (exec (Library.reader Library.couple) 4 document).run.run session =
        (.error (.failed ⟨.includeCycle "mem:a", []⟩), left) ∧
      left.machine.registry.op "f" = .ok (.procedure {}) ∧
      left.IsUntouched session ∧ left.loading = [] := by
  intro inner document session
  let left : Session Unit Unit := session.withProcedure "f" {}
  have failed : (exec (Library.reader Library.couple) 4 document).run.run session =
      (.error (.failed ⟨.includeCycle "mem:a", []⟩), left) := by cbv
  have unloaded := exec_unloaded (Library.reader_facade _) (Library.reader_leavesData _) failed
  exact ⟨left, failed, by cbv, unloaded.2.1 rfl⟩

end Session

end DocMachine
