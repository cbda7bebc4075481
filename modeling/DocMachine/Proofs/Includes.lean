import DocMachine.Proofs.Loading

/-!
# Includes

What loading a procedure comes to, entry by entry of its include section.

* `Task.Extends`: a task with a larger budget does the same as one that came to an end of its own.
* `Session.Loads` is a load that came to an end of its own under some budget.
* `Session.Brings` is what an include may come to, and `Session.Takes` what including a document may.
* `Session.Opens` is the part of a load before one of the includes.
* `Session.ReadsFrom`: what a load gets, it reads from a library. `Session.FetchesFrom`: so it is for what it
  fetches, whether there is a getter or not.

Results:
1. `Procedure.ofValue_includes_lt`: what a document includes is smaller than the document.
2. `Session.load_mono`: more fuel does not change a load that has come to an end, so `Session.Loads`
   is deterministic (`Session.Loads.unique`).
3. `Session.load_loading`: after a load, those URIs are being loaded that were so before.
4. `Session.bring_uri`, `Session.bring_inline` and `Session.bring_brings`: what one include comes to.
5. `Session.load_stopped`: a load that stops does so at an import or at one of its includes.
-/

namespace DocMachine

variable {ω π : Type} {host : Host ω π}

/-! ## Documents -/

namespace Procedure

/-- Anything may stand in a run list. -/
theorem sequence_anything (values : List Value) :
    Param.sequence TestCase.anything (.arr values) = .ok values := by
  show values.mapM (fun v => (pure v : Param.Read Value)) = _
  rw [List.mapM_pure, List.map_id']
  rfl

theorem field_includes {procedure after : Procedure} {key : String} {v : Value}
    (read : procedure.field key v = .ok after) :
    after.includes = procedure.includes ∨ v = .obj after.includes := by
  unfold field at read
  split at read
  · cases taken : Param.sequence Param.string v with
    | error fault => rw [taken] at read; cases read
    | ok imports => rw [taken] at read; cases read; exact .inl rfl
  · cases v with
    | obj fields => cases read; exact .inr rfl
    | _ => cases read
  · cases taken : Param.map v with
    | error fault => rw [taken] at read; cases read
    | ok set => rw [taken] at read; cases read; exact .inl rfl
  · cases taken : Param.sequence TestCase.anything v with
    | error fault => rw [taken] at read; cases read
    | ok run => rw [taken] at read; cases read; exact .inl rfl
  · cases taken : Param.sequence TestCase.ofValue v with
    | error fault => rw [taken] at read; cases read
    | ok tests => rw [taken] at read; cases read; exact .inl rfl
  · cases read
    exact .inl rfl

theorem record_includes {fields : Scope} {defaults procedure : Procedure}
    (read : Param.record defaults field fields = .ok procedure) :
    procedure.includes = defaults.includes ∨
      ∃ key, (key, Value.obj procedure.includes) ∈ fields := by
  induction fields generalizing defaults with
  | nil =>
    cases read
    exact .inl rfl
  | cons entry rest ih =>
    obtain ⟨key, v⟩ := entry
    replace read : (do Param.record (← defaults.field key v) field rest) = .ok procedure := read
    cases taken : defaults.field key v with
    | error fault =>
      rw [taken] at read
      cases read
    | ok next =>
      rw [taken] at read
      rcases ih read with same | ⟨key', listed⟩
      · rcases field_includes taken with kept | replaced
        · exact .inl (same.trans kept)
        · exact .inr ⟨key, by rw [same, ← replaced]; exact List.mem_cons_self⟩
      · exact .inr ⟨key', List.mem_cons_of_mem _ listed⟩

/-- What a document with these fields is as a procedure. -/
theorem ofValue_obj (fields : Scope) :
    ofValue (.obj fields) =
      match Param.record {} field fields with
      | .error fault => .error (.field fault)
      | .ok procedure =>
        match procedure.includes.find? fun entry => !isReference entry.2 with
        | some entry => .error (.badInclude entry.1)
        | none =>
          match procedure.run.forM fun value => Op.classify value >>= fun _ => pure () with
          | .error fault => .error fault
          | .ok _ => .ok procedure := by
  unfold ofValue
  simp only
  cases Param.record {} field fields with
  | error fault => rfl
  | ok procedure =>
    simp only [Except.mapError, bind, Except.bind, pure, Except.pure]
    cases procedure.includes.find? fun entry => !isReference entry.2 with
    | some entry => rfl
    | none =>
      simp only
      split
      · next scanned => rw [scanned]
      · next scanned => rw [scanned]

theorem ofValue_record {document : Value} {procedure : Procedure}
    (valid : ofValue document = .ok procedure) :
    ∃ fields, document = .obj fields ∧ Param.record {} field fields = .ok procedure := by
  cases document with
  | obj fields =>
    rw [ofValue_obj] at valid
    refine ⟨fields, rfl, ?_⟩
    split at valid
    · cases valid
    · split at valid
      · cases valid
      · split at valid
        · cases valid
        · cases valid
          assumption
  | _ => cases valid

theorem ne_uri_of_ofValue {document : Value} {procedure : Procedure}
    (valid : ofValue document = .ok procedure) (uri : String) : document ≠ .str uri := by
  rintro rfl
  cases valid

/-- What a document includes is smaller than the document. -/
theorem ofValue_includes_lt {document : Value} {procedure : Procedure}
    (valid : ofValue document = .ok procedure) :
    sizeOf procedure.includes < sizeOf document := by
  obtain ⟨fields, rfl, read⟩ := ofValue_record valid
  rcases record_includes read with same | ⟨key, listed⟩
  · rw [same]
    cases fields with
    | nil => decide
    | cons entry rest =>
      simp only [List.nil.sizeOf_spec, List.cons.sizeOf_spec, Value.obj.sizeOf_spec]
      omega
  · have small := List.sizeOf_lt_of_mem listed
    simp only [Prod.mk.sizeOf_spec, Value.obj.sizeOf_spec] at small ⊢
    omega

end Procedure

/-! ## More fuel -/

/-- Wherever the task comes to an end of its own, the other task does the same. -/
def Task.Extends {α : Type} (task more : Task ω π α) : Prop :=
  ∀ session, (task.run.run session).1 ≠ .error .starved →
    more.run.run session = task.run.run session

namespace Task.Extends

variable {α β : Type}

theorem refl (task : Task ω π α) : task.Extends task := fun _ _ => rfl

theorem bind {task more : Task ω π α} {rest beyond : α → Task ω π β} (first : task.Extends more)
    (second : ∀ a, (rest a).Extends (beyond a)) : (task >>= rest).Extends (more >>= beyond) := by
  intro session settled
  have same := first session
  rw [run_bind] at settled
  rw [run_bind, run_bind]
  cases ran : task.run.run session with
  | mk outcome left =>
    rw [ran] at settled same
    cases outcome with
    | error stop =>
      have same' := same fun starved => settled (by cases starved; rfl)
      rw [same']
    | ok a =>
      rw [same (by simp)]
      exact second a left settled

theorem forM {task more : α → Task ω π Unit} (each : ∀ a, (task a).Extends (more a))
    (items : List α) : Extends (items.forM task) (items.forM more) := by
  induction items with
  | nil => exact refl _
  | cons item rest ih => exact bind (each item) fun _ => ih

theorem whileLoading (uri : String) {task more : Task ω π Unit} (extends' : task.Extends more) :
    (Task.whileLoading uri task).Extends (Task.whileLoading uri more) := by
  intro session settled
  rw [whileLoading_run] at settled
  rw [whileLoading_run, whileLoading_run, extends' _ settled]

end Task.Extends

namespace Session

theorem bring_extends {load more : Procedure → Task ω π Unit}
    (loads : ∀ inner, (load inner).Extends (more inner)) (name : String) (reference : Value) :
    (bring host load name reference).Extends (bring host more name reference) := by
  unfold bring
  split
  · next uri =>
    refine .bind (.refl _) fun session => ?_
    split
    · exact .bind (.refl _) fun _ => .bind (.refl _) fun _ => .bind (.refl _) fun inner =>
        .bind (.whileLoading uri (loads inner)) fun _ => .refl _
    · exact .bind (.refl _) fun _ => .bind (.refl _) fun inner =>
        .bind (.whileLoading uri (loads inner)) fun _ => .refl _
  · exact .bind (.refl _) fun inner => .bind (loads inner) fun _ => .refl _

theorem load_extends {fuel more : Nat} (le : fuel ≤ more) (procedure : Procedure) :
    (load host fuel procedure).Extends (load host more procedure) := by
  induction fuel generalizing more procedure with
  | zero => exact fun session settled => absurd rfl settled
  | succ fuel ih =>
    obtain ⟨more, rfl⟩ : ∃ rest, more = rest + 1 := ⟨more - 1, by omega⟩
    exact .bind (.refl _) fun _ => .forM
      (fun (entry : String × Value) => bring_extends (ih (Nat.le_of_succ_le_succ le)) entry.1 entry.2) _

theorem opening_extends {fuel more : Nat} (le : fuel ≤ more) (procedure : Procedure)
    (includes : Scope) :
    (opening host fuel procedure includes).Extends (opening host more procedure includes) :=
  .bind (.refl _) fun _ => .forM
    (fun (entry : String × Value) => bring_extends (load_extends le) entry.1 entry.2) _

/-- More fuel does not change a load that has come to an end. -/
theorem load_mono {fuel more : Nat} (le : fuel ≤ more) {procedure : Procedure}
    {session : Session ω π}
    (settled : ((load host fuel procedure).run.run session).1 ≠ .error .starved) :
    (load host more procedure).run.run session = (load host fuel procedure).run.run session :=
  load_extends le procedure session settled

/-- Loading the procedure comes to an end of its own, with this result. -/
def Loads (host : Host ω π) (procedure : Procedure) (session : Session ω π)
    (result : Except Stop Unit × Session ω π) : Prop :=
  (∃ fuel, (load host fuel procedure).run.run session = result) ∧ result.1 ≠ .error .starved

theorem Loads.unique {procedure : Procedure} {session : Session ω π}
    {one other : Except Stop Unit × Session ω π} (first : Loads host procedure session one)
    (second : Loads host procedure session other) : one = other := by
  obtain ⟨⟨fuel, rfl⟩, settled⟩ := first
  obtain ⟨⟨fuel', rfl⟩, settled'⟩ := second
  rcases Nat.le_total fuel fuel' with le | le
  · exact (load_mono le settled).symm
  · exact load_mono le settled'

/-! ## The URIs being loaded -/

/-- The task leaves the URIs being loaded as they were. -/
theorem loading_parts :
    Task.Parts host fun _ (task : Task ω π _) =>
      ∀ session, (task.run.run session).2.loading = session.loading :=
  Task.Closed.parts
    { pure := fun _ _ => rfl
      fail := fun _ _ => rfl
      starve := fun _ => rfl
      bind := by
        intro α β task rest first second session
        have kept := first session
        rw [run_bind]
        cases ran : task.run.run session with
        | mk outcome left =>
          rw [ran] at kept
          cases outcome with
          | ok a => exact (second a left).trans kept
          | error stop => exact kept
      look := fun each session => each session session
      onRegistry := fun _ _ => rfl
      fetch := by
        intro uri session
        rw [Task.fetch_run]
        cases session.machine.registry.getter uri <;> rfl
      whileLoading := by
        intro uri task _ session
        rw [Task.whileLoading_run] }

/-- After a load, whether it succeeded or not, those URIs are being loaded that were so before. -/
theorem load_loading (fuel : Nat) (procedure : Procedure) (session : Session ω π) :
    ((load host fuel procedure).run.run session).2.loading = session.loading :=
  load_parts loading_parts fuel procedure session

theorem opening_loading (fuel : Nat) (procedure : Procedure) (includes : Scope)
    (session : Session ω π) :
    ((opening host fuel procedure includes).run.run session).2.loading = session.loading :=
  opening_parts loading_parts fuel procedure includes session

/-! ## One import or include -/

/-- What importing a module comes to. -/
theorem importModule_run (name : String) (session : Session ω π) :
    (importModule host name).run.run session =
      match session.machine.registry.modules.get? name with
      | none => (.error (.failed ⟨.unknownModule name, []⟩), session)
      | some plug =>
        let ran := (host.install plug).run.run session.machine.registry
        (ran.1.mapError fun fault => .failed ⟨fault, []⟩,
          { session with machine := { session.machine with registry := ran.2 } }) := by
  unfold importModule
  rw [run_bind, show (get : Task ω π _).run.run session = (.ok session, session) from rfl]
  simp only
  cases session.machine.registry.modules.get? name with
  | none => rfl
  | some plug =>
    simp only
    cases (host.install plug).run.run session.machine.registry with
    | mk outcome registry => cases outcome <;> rfl

/-- The session after a procedure has been included. -/
def withProcedure (session : Session ω π) (name : String) (procedure : Procedure) :
    Session ω π :=
  { session with
    machine := { session.machine with
      registry := session.machine.registry.withProcedure name procedure } }

/-- The session while the includes of `uri` are being loaded. -/
def whileLoading (session : Session ω π) (uri : String) : Session ω π :=
  { session with loading := uri :: session.loading }

theorem included_eq (name : String) (document : Value) (session : Session ω π) :
    (included name document : Task ω π Procedure).run.run session =
      match Procedure.ofValue document with
      | .ok inner => (.ok inner, session)
      | .error fault => (.error (.failed ⟨.invalidProcedure (.included name fault), []⟩), session) := by
  unfold included
  cases Procedure.ofValue document <;> rfl

/-- What including a document comes to. -/
theorem bring_inline {load : Procedure → Task ω π Unit} {document : Value}
    (isDocument : ∀ uri, document ≠ .str uri) (name : String) (session : Session ω π) :
    (bring host load name document).run.run session =
      match Procedure.ofValue document with
      | .error fault => (.error (.failed ⟨.invalidProcedure (.included name fault), []⟩), session)
      | .ok inner =>
        match (load inner).run.run session with
        | (.error stop, left) => (.error stop, left)
        | (.ok _, left) => (.ok (), left.withProcedure name inner) := by
  unfold bring
  split
  · next uri => exact absurd rfl (isDocument uri)
  · rw [run_bind, included_eq]
    cases Procedure.ofValue document with
    | error fault => rfl
    | ok inner =>
      simp only
      rw [run_bind]
      cases (load inner).run.run session with
      | mk outcome left => cases outcome <;> rfl

/-- What including the document of a URI comes to. -/
theorem bring_uri {load : Procedure → Task ω π Unit} (name uri : String) (session : Session ω π) :
    (bring host load name (.str uri)).run.run session =
      if session.loading.contains uri then
        (.error (.failed ⟨.includeCycle uri, []⟩), session)
      else
        match (fetch host uri).run.run session with
        | (.error stop, left) => (.error stop, left)
        | (.ok document, got) =>
          match Procedure.ofValue document with
          | .error fault => (.error (.failed ⟨.invalidProcedure (.included name fault), []⟩), got)
          | .ok inner =>
            match (load inner).run.run (got.whileLoading uri) with
            | (.error stop, left) => (.error stop, { left with loading := got.loading })
            | (.ok _, left) =>
              (.ok (), { left with loading := got.loading }.withProcedure name inner) := by
  unfold bring
  rw [run_bind, show (get : Task ω π _).run.run session = (.ok session, session) from rfl]
  simp only
  by_cases cyclic : session.loading.contains uri = true
  · rw [if_pos cyclic, if_pos cyclic]
    rfl
  · rw [if_neg cyclic, if_neg cyclic, run_bind]
    cases (fetch host uri).run.run session with
    | mk outcome got =>
      cases outcome with
      | error stop => rfl
      | ok document =>
        simp only
        rw [run_bind, included_eq]
        cases Procedure.ofValue document with
        | error fault => rfl
        | ok inner =>
          simp only
          rw [run_bind, Task.whileLoading_run]
          simp only [whileLoading]
          cases (load inner).run.run { got with loading := uri :: got.loading } with
          | mk outcome left => cases outcome <;> rfl

/-- What it comes to that a document is included, wherever it was found.

* `refused`: it is no procedure.
* `stopped`: it is one, but loading that one stops.
* `done`: the procedure was loaded, and is registered. -/
inductive Takes (load : Procedure → Task ω π Unit) (name : String) (document : Value)
    (session : Session ω π) : Except Stop Unit × Session ω π → Prop
  | refused {fault : ProcedureFault} : Procedure.ofValue document = .error fault →
      Takes load name document session
        (.error (.failed ⟨.invalidProcedure (.included name fault), []⟩), session)
  | stopped {inner : Procedure} {stop : Stop} {left : Session ω π} :
      Procedure.ofValue document = .ok inner →
      (load inner).run.run session = (.error stop, left) →
      Takes load name document session (.error stop, left)
  | done {inner : Procedure} {left : Session ω π} : Procedure.ofValue document = .ok inner →
      (load inner).run.run session = (.ok (), left) →
      Takes load name document session (.ok (), left.withProcedure name inner)

/-- What an include comes to.

* `inline`: a document in place is included.
* `cyclic`: it is a URI that is being loaded.
* `missed`: no document is got from the URI.
* `got`: the document from the URI is included, with the URI being loaded meanwhile. -/
inductive Brings (host : Host ω π) (load : Procedure → Task ω π Unit) (name : String) :
    Value → Session ω π → Except Stop Unit × Session ω π → Prop
  | inline {document : Value} {session : Session ω π} {result : Except Stop Unit × Session ω π} :
      (∀ uri, document ≠ .str uri) → Takes load name document session result →
      Brings host load name document session result
  | cyclic {uri : String} {session : Session ω π} : uri ∈ session.loading →
      Brings host load name (.str uri) session (.error (.failed ⟨.includeCycle uri, []⟩), session)
  | missed {uri : String} {session left : Session ω π} {stop : Stop} : uri ∉ session.loading →
      (fetch host uri).run.run session = (.error stop, left) →
      Brings host load name (.str uri) session (.error stop, left)
  | got {uri : String} {session found left : Session ω π} {document : Value}
      {outcome : Except Stop Unit} : uri ∉ session.loading →
      (fetch host uri).run.run session = (.ok document, found) →
      Takes load name document (found.whileLoading uri) (outcome, left) →
      Brings host load name (.str uri) session (outcome, { left with loading := found.loading })

/-- An include comes to one of these. -/
theorem bring_brings (host : Host ω π) (load : Procedure → Task ω π Unit) (name : String)
    (reference : Value) (session : Session ω π) :
    ∃ result, (bring host load name reference).run.run session = result ∧
      Brings host load name reference session result := by
  refine ⟨_, rfl, ?_⟩
  by_cases isUri : ∃ uri, reference = .str uri
  · obtain ⟨uri, rfl⟩ := isUri
    rw [bring_uri]
    split
    · next cyclic => exact .cyclic (List.contains_iff_mem.mp cyclic)
    · next fresh =>
      rw [List.contains_iff_mem] at fresh
      split
      · next fetched => exact .missed fresh fetched
      · next got fetched =>
        split
        · next invalid =>
          -- To put back the URIs being loaded comes to nothing where nothing was loaded.
          have refused : Takes load name _ (got.whileLoading uri) _ := .refused invalid
          have brings := Brings.got fresh fetched refused
          exact brings
        · next valid =>
          split
          · next ran => exact .got fresh fetched (.stopped valid ran)
          · next ran => exact .got fresh fetched (.done valid ran)
  · have isDocument : ∀ uri, reference ≠ .str uri := fun uri same => isUri ⟨uri, same⟩
    rw [bring_inline isDocument]
    refine .inline isDocument ?_
    split
    · next invalid => exact .refused invalid
    · next valid =>
      split
      · next ran => exact .stopped valid ran
      · next ran => exact .done valid ran

theorem Brings.of_run {load : Procedure → Task ω π Unit} {name : String} {reference : Value}
    {session : Session ω π} {result : Except Stop Unit × Session ω π}
    (ran : (bring host load name reference).run.run session = result) :
    Brings host load name reference session result := by
  obtain ⟨_, rfl, brings⟩ := bring_brings host load name reference session
  exact ran ▸ brings

/-! ## All includes -/

/-- Loading the procedure gets past its imports and these of its includes, which come first. -/
def Opens (host : Host ω π) (procedure : Procedure) (includes : Scope)
    (session left : Session ω π) : Prop :=
  ∃ fuel, (opening host fuel procedure includes).run.run session = (.ok (), left)

theorem Opens.loading {procedure : Procedure} {includes : Scope} {session left : Session ω π}
    (opens : Opens host procedure includes session left) : left.loading = session.loading := by
  obtain ⟨fuel, ran⟩ := opens
  have kept : ((opening host fuel procedure includes).run.run session).2.loading =
      session.loading := opening_loading fuel procedure includes session
  rwa [ran] at kept

theorem forM_append_run {α : Type} (task : α → Task ω π Unit) (before after : List α)
    (session : Session ω π) :
    ((before ++ after).forM task).run.run session =
      match (before.forM task).run.run session with
      | (.ok _, left) => (after.forM task).run.run left
      | (.error stop, left) => (.error stop, left) := by
  induction before generalizing session with
  | nil => rfl
  | cons item rest ih =>
    show (task item >>= fun _ => (rest ++ after).forM task).run.run session =
      match (task item >>= fun _ => rest.forM task).run.run session with
      | (.ok _, left) => (after.forM task).run.run left
      | (.error stop, left) => (.error stop, left)
    rw [run_bind, run_bind]
    cases (task item).run.run session with
    | mk outcome left =>
      cases outcome with
      | error stop => rfl
      | ok _ => exact ih left

theorem opening_append_run (fuel : Nat) (procedure : Procedure) (before after : Scope)
    (session : Session ω π) :
    (opening host fuel procedure (before ++ after)).run.run session =
      match (opening host fuel procedure before).run.run session with
      | (.ok _, left) =>
        (after.forM fun entry => bring host (load host fuel) entry.1 entry.2).run.run left
      | (.error stop, left) => (.error stop, left) := by
  unfold opening
  rw [run_bind, run_bind]
  cases (procedure.imports.forM (importModule host)).run.run session with
  | mk outcome left =>
    cases outcome with
    | error stop => rfl
    | ok _ => exact forM_append_run _ before after left

/-- A load whose procedure has an include comes to it, unless it stops before. -/
theorem load_split {procedure : Procedure} {before after : Scope} {entry : String × Value}
    (listed : procedure.includes = before ++ entry :: after) (fuel : Nat) (session : Session ω π) :
    (load host (fuel + 1) procedure).run.run session =
      match (opening host fuel procedure before).run.run session with
      | (.error stop, left) => (.error stop, left)
      | (.ok _, found) =>
        match (bring host (load host fuel) entry.1 entry.2).run.run found with
        | (.error stop, left) => (.error stop, left)
        | (.ok _, left) =>
          (after.forM fun entry => bring host (load host fuel) entry.1 entry.2).run.run left := by
  show (opening host fuel procedure procedure.includes).run.run session = _
  rw [listed, opening_append_run]
  cases (opening host fuel procedure before).run.run session with
  | mk outcome found =>
    cases outcome with
    | error stop => rfl
    | ok _ =>
      simp only
      show (bring host (load host fuel) entry.1 entry.2 >>= fun _ =>
        after.forM fun entry => bring host (load host fuel) entry.1 entry.2).run.run found = _
      rw [run_bind]
      cases (bring host (load host fuel) entry.1 entry.2).run.run found with
      | mk outcome left => cases outcome <;> rfl

theorem forM_stopped {α : Type} {task : α → Task ω π Unit} {items : List α} {stop : Stop}
    {session left : Session ω π}
    (stopped : (items.forM task).run.run session = (.error stop, left)) :
    ∃ before item after found, items = before ++ item :: after ∧
      (before.forM task).run.run session = (.ok (), found) ∧
      (task item).run.run found = (.error stop, left) := by
  induction items generalizing session with
  | nil => cases stopped
  | cons item rest ih =>
    replace stopped : (task item >>= fun _ => rest.forM task).run.run session =
      (.error stop, left) := stopped
    rw [run_bind] at stopped
    cases ran : (task item).run.run session with
    | mk outcome next =>
      rw [ran] at stopped
      cases outcome with
      | error reason =>
        cases stopped
        exact ⟨[], item, rest, session, rfl, rfl, ran⟩
      | ok _ =>
        obtain ⟨before, last, after, found, rfl, passed, failed⟩ := ih stopped
        refine ⟨item :: before, last, after, found, rfl, ?_, failed⟩
        show (task item >>= fun _ => before.forM task).run.run session = _
        rw [run_bind, ran]
        exact passed

/-- A beginning that stops does so at an import, or at one of its includes after all before it. -/
theorem opening_stopped {fuel : Nat} {procedure : Procedure} {includes : Scope} {stop : Stop}
    {session left : Session ω π}
    (stopped : (opening host fuel procedure includes).run.run session = (.error stop, left)) :
    (procedure.imports.forM (importModule host)).run.run session = (.error stop, left) ∨
    ∃ before entry after found, includes = before ++ entry :: after ∧
      (opening host fuel procedure before).run.run session = (.ok (), found) ∧
      (bring host (load host fuel) entry.1 entry.2).run.run found = (.error stop, left) := by
  unfold opening at stopped
  rw [run_bind] at stopped
  cases imported : (procedure.imports.forM (importModule host)).run.run session with
  | mk outcome ready =>
    rw [imported] at stopped
    cases outcome with
    | error reason => exact .inl stopped
    | ok _ =>
      obtain ⟨before, entry, after, found, listed, passed, failed⟩ := forM_stopped stopped
      refine .inr ⟨before, entry, after, found, listed, ?_, failed⟩
      unfold opening
      rw [run_bind, imported]
      exact passed

/-- So does a load. -/
theorem load_stopped {fuel : Nat} {procedure : Procedure} {stop : Stop} {session left : Session ω π}
    (stopped : (load host (fuel + 1) procedure).run.run session = (.error stop, left)) :
    (procedure.imports.forM (importModule host)).run.run session = (.error stop, left) ∨
    ∃ before entry after found, procedure.includes = before ++ entry :: after ∧
      (opening host fuel procedure before).run.run session = (.ok (), found) ∧
      (bring host (load host fuel) entry.1 entry.2).run.run found = (.error stop, left) :=
  opening_stopped stopped

end Session

/-! ## Sessions that have grown -/

/-- The session differs from another one in its registry alone, and in the URIs being loaded. -/
structure Session.Grown (met : Registry π → Prop) (base session : Session ω π) : Prop where
  possible : met session.machine.registry
  machine : { session.machine with registry := base.machine.registry } = base.machine
  root : session.root = base.root

namespace Session.Grown

variable {met : Registry π → Prop} {base session : Session ω π}

theorem refl (possible : met base.machine.registry) : Grown met base base :=
  ⟨possible, rfl, rfl⟩

theorem registry {registry : Registry π} (grown : Grown met base session)
    (possible : met registry) :
    Grown met base { session with machine := { session.machine with registry } } :=
  ⟨possible, grown.machine, grown.root⟩

theorem loading (grown : Grown met base session) (loading : List String) :
    Grown met base { session with loading } :=
  ⟨grown.possible, grown.machine, grown.root⟩

end Session.Grown

/-! ## Libraries -/

namespace Session

/-- A beginning that goes well goes well with more fuel. -/
theorem opening_mono {fuel more : Nat} (le : fuel ≤ more) {procedure : Procedure} {includes : Scope}
    {session left : Session ω π}
    (opened : (opening host fuel procedure includes).run.run session = (.ok (), left)) :
    (opening host more procedure includes).run.run session = (.ok (), left) :=
  (opening_extends le procedure includes session (by rw [opened]; simp)).trans opened

namespace Fetches

variable {fuel : Nat} {procedure : Procedure} {session found : Session ω π} {uri : String}

theorem mono {more : Nat} (le : fuel ≤ more) (fetches : Fetches host fuel procedure session uri found) :
    Fetches host more procedure session uri found := by
  induction fetches generalizing more with
  | here listed opened fresh =>
    obtain ⟨more, rfl⟩ : ∃ rest, more = rest + 1 := ⟨more - 1, by omega⟩
    exact .here listed (opening_mono (Nat.le_of_succ_le_succ le) opened) fresh
  | beyond listed opened fresh fetched valid _ ih =>
    obtain ⟨more, rfl⟩ : ∃ rest, more = rest + 1 := ⟨more - 1, by omega⟩
    have le' := Nat.le_of_succ_le_succ le
    exact .beyond listed (opening_mono le' opened) fresh fetched valid (ih le')
  | inside listed opened valid _ ih =>
    obtain ⟨more, rfl⟩ : ∃ rest, more = rest + 1 := ⟨more - 1, by omega⟩
    have le' := Nat.le_of_succ_le_succ le
    exact .inside listed (opening_mono le' opened) valid (ih le')

/-- What loading keeps in all its parts, it has kept where it comes to fetch a document. -/
theorem keeps {I : Session ω π → Prop} (parts : Task.Parts host fun _ task => task.Keeps I)
    (loading : ∀ session uris, I session → I { session with loading := uris })
    (fetches : Fetches host fuel procedure session uri found) (holds : I session) : I found := by
  have kept : ∀ {fuel procedure before} {session left : Session ω π},
      (opening host fuel procedure before).run.run session = (.ok (), left) → I session → I left := by
    intro fuel procedure before session left opened holds
    have kept := opening_parts parts fuel procedure before session holds
    rwa [opened] at kept
  induction fetches with
  | here _ opened _ => exact kept opened holds
  | @beyond _ _ _ _ left _ _ _ _ _ first _ _ _ opened _ fetched _ _ ih =>
    have got := parts.fetch first left (kept opened holds)
    rw [fetched] at got
    exact ih (loading _ _ got)
  | inside _ opened _ _ ih => exact ih (kept opened holds)

end Fetches

section

variable {procedure inner : Procedure} {session found got next : Session ω π} {before after : Scope}
  {name uri : String} {document : Value} (opens : Opens host procedure before session found)

include opens

/-- A load that comes to an include of a URI comes to fetch it. -/
theorem Opens.fetches (listed : procedure.includes = before ++ (name, .str uri) :: after)
    (fresh : uri ∉ found.loading) : ∃ fuel, Fetches host fuel procedure session uri found := by
  obtain ⟨fuel, opened⟩ := opens
  exact ⟨fuel + 1, .here listed opened (by simpa using fresh)⟩

/-- It comes to fetch what a document in place fetches. -/
theorem Opens.fetches_inside (listed : procedure.includes = before ++ (name, document) :: after)
    (valid : Procedure.ofValue document = .ok inner) {fuel : Nat}
    (fetches : Fetches host fuel inner found uri next) :
    ∃ fuel, Fetches host fuel procedure session uri next := by
  obtain ⟨fuel', opened⟩ := opens
  exact ⟨_, .inside listed (opening_mono (Nat.le_max_left fuel' fuel) opened) valid
    (fetches.mono (Nat.le_max_right fuel' fuel))⟩

/-- It comes to fetch what the document of a URI fetches. -/
theorem Opens.fetches_beyond {first : String}
    (listed : procedure.includes = before ++ (name, .str first) :: after) (fresh : first ∉ found.loading)
    (fetched : (fetch host first).run.run found = (.ok document, got))
    (valid : Procedure.ofValue document = .ok inner) {fuel : Nat}
    (fetches : Fetches host fuel inner (got.whileLoading first) uri next) :
    ∃ fuel, Fetches host fuel procedure session uri next := by
  obtain ⟨fuel', opened⟩ := opens
  exact ⟨_, .beyond listed (opening_mono (Nat.le_max_left fuel' fuel) opened) (by simpa using fresh)
    fetched valid (fetches.mono (Nat.le_max_right fuel' fuel))⟩

end

/-- Wherever loading a procedure comes to fetch a document, this holds of its URI and of the session. -/
def AtFetches (host : Host ω π) (holds : String → Session ω π → Prop) (procedure : Procedure)
    (session : Session ω π) : Prop :=
  ∀ fuel uri found, Fetches host fuel procedure session uri found → holds uri found

namespace AtFetches

variable {holds : String → Session ω π → Prop} {procedure inner : Procedure}
  {session found got : Session ω π} {before after : Scope} {name uri : String} {document : Value}
  (holdsAll : AtFetches host holds procedure session)

include holdsAll

/-- So it is for what an include holds in place. -/
theorem inside (listed : procedure.includes = before ++ (name, document) :: after)
    (opens : Opens host procedure before session found)
    (valid : Procedure.ofValue document = .ok inner) : AtFetches host holds inner found := by
  intro fuel uri next fetches
  obtain ⟨fuel', fetches⟩ := opens.fetches_inside listed valid fetches
  exact holdsAll fuel' uri next fetches

variable (listed : procedure.includes = before ++ (name, .str uri) :: after)
  (opens : Opens host procedure before session found) (fresh : uri ∉ found.loading)

include listed opens fresh

theorem here : holds uri found := by
  obtain ⟨fuel, fetches⟩ := opens.fetches listed fresh
  exact holdsAll fuel uri found fetches

/-- So it is for what an include names by its URI. -/
theorem beyond (fetched : (fetch host uri).run.run found = (.ok document, got))
    (valid : Procedure.ofValue document = .ok inner) :
    AtFetches host holds inner (got.whileLoading uri) := by
  intro fuel uri' next fetches
  obtain ⟨fuel', fetches⟩ := opens.fetches_beyond listed fresh fetched valid fetches
  exact holdsAll fuel' uri' next fetches

end AtFetches

/-- Loading a procedure reads from a library: wherever it comes to fetch a document, a getter that is there
for its URI gets what the library has under it. -/
def ReadsFrom (host : Host ω π) (documents : String → Except Fault Value) (procedure : Procedure)
    (session : Session ω π) : Prop :=
  AtFetches host (fun uri found => ∀ plugin, found.machine.registry.getter uri = .ok plugin →
    ((plugin.get host uri []).run.run ⟨found.machine, found.root, "get"⟩).1 = documents uri)
    procedure session

theorem mapError_eq_ok {ε ε' α : Type} {f : ε → ε'} {result : Except ε α} {a : α} :
    result.mapError f = .ok a ↔ result = .ok a := by
  cases result with
  | error fault => exact iff_of_false (by rintro ⟨⟩) (by rintro ⟨⟩)
  | ok b => simp only [Except.mapError, Except.ok.injEq]

/-- What was fetched is what the library has. -/
theorem ReadsFrom.fetch_ok {documents : String → Except Fault Value} {procedure : Procedure}
    {session found got : Session ω π} {before after : Scope} {name uri : String} {document : Value}
    (reads : ReadsFrom host documents procedure session)
    (listed : procedure.includes = before ++ (name, .str uri) :: after)
    (opens : Opens host procedure before session found) (fresh : uri ∉ found.loading)
    (fetched : (fetch host uri).run.run found = (.ok document, got)) :
    documents uri = .ok document := by
  rw [Task.fetch_run] at fetched
  cases served : found.machine.registry.getter uri with
  | error fault =>
    rw [served] at fetched
    cases fetched
  | ok plugin =>
    rw [served] at fetched
    have ran := congrArg Prod.fst fetched
    simp only [reads.here listed opens fresh plugin served] at ran
    exact mapError_eq_ok.mp ran

/-- Loading a procedure fetches from a library: what it fetches depends on the URI alone, wherever it comes
to do so. -/
def FetchesFrom (host : Host ω π) (documents : String → Except Fault Value) (procedure : Procedure)
    (session : Session ω π) : Prop :=
  AtFetches host (fun uri found => ((fetch host uri).run.run found).1 =
    (documents uri).mapError fun fault => .failed ⟨fault, []⟩) procedure session

/-- The documents that the library has are those that are fetched. -/
theorem FetchesFrom.fetch_iff {documents : String → Except Fault Value} {procedure : Procedure}
    {session found : Session ω π} {before after : Scope} {name uri : String} {document : Value}
    (library : FetchesFrom host documents procedure session)
    (listed : procedure.includes = before ++ (name, .str uri) :: after)
    (opens : Opens host procedure before session found) (fresh : uri ∉ found.loading) :
    (∃ got, (fetch host uri).run.run found = (.ok document, got)) ↔ documents uri = .ok document := by
  rw [← mapError_eq_ok, ← library.here listed opens fresh]
  exact ⟨fun ⟨_, fetched⟩ => congrArg Prod.fst fetched, fun ran => ⟨_, Prod.ext ran rfl⟩⟩

end Session

namespace Library

/-- A host whose getter reads from a library, and whose modules do nothing. -/
def reader (documents : String → Except Fault Value) : Host Unit Unit where
  op _ _ := return []
  get _ uri _ := Act.ofExcept (documents uri)
  put _ _ _ _ := return ()
  delete _ _ _ := return ()
  copy _ value _ := value
  install _ := return ()

/-- A machine's registry over a library, whose scheme is `mem`. -/
def registry : Registry Unit :=
  Registry.builtins.withGetter "mem" (some Media.json.name) ()

/-- A session over a library. -/
def session : Session Unit Unit :=
  { machine := { registry, console := false, world := () } }

theorem getters_foreign {uri : String} {plugin : Plugin Unit} {other : Registry Unit}
    (same : other.getters = registry.getters) (found : other.getter uri = .ok plugin) :
    plugin = .foreign () := by
  unfold Registry.getter at found
  cases parsed : Resource.parseUri uri with
  | error fault =>
    rw [parsed] at found
    cases found
  | ok url =>
    rw [parsed] at found
    replace found : other.plugin .getter url.scheme (some (Media.ofPath url.path).name) =
      .ok plugin := found
    unfold Registry.plugin at found
    rw [show other.plugins .getter = registry.getters from same] at found
    have listed : registry.getters = [(("locals", none), .variables .locals),
        (("globals", none), .variables .globals),
        (("mem", some Media.json.name), .foreign ())] := by
      cbv
    simp only [listed, Table.get?, Prod.mk.injEq, reduceCtorEq, and_false, if_false] at found
    split at found
    · next handler matched =>
      split at matched <;> cases matched
      cases found
      rfl
    · cases found

/-- Reading from a library changes nothing. -/
theorem reader_get (documents : String → Except Fault Value) (uri : String) (scope : Scope)
    (call : Call Unit Unit) :
    ((reader documents).get () uri scope).run.run call = (documents uri, call) := by
  show (Act.ofExcept (documents uri) : Act Unit Unit Value).run.run call = (documents uri, call)
  cases documents uri <;> rfl

/-- Loading from a library leaves the getters as they are. -/
theorem reader_parts (documents : String → Except Fault Value) :
    Task.Parts (reader documents) fun _ (task : Task Unit Unit _) =>
      task.Keeps fun session => session.machine.registry.getters = registry.getters where
  pure _ _ same := same
  fail _ _ same := same
  starve _ same := same
  bind := .bind
  look each session same := each session session same
  importModule name session same := by
    rw [Session.importModule_run]
    cases session.machine.registry.modules.get? name <;> exact same
  register _ _ _ same := same
  fetch uri session same := by
    rw [Task.fetch_run]
    cases found : session.machine.registry.getter uri with
    | error fault => exact same
    | ok plugin =>
      simp only
      rw [getters_foreign same found, show (Plugin.foreign ()).get (reader documents) uri [] =
        (reader documents).get () uri [] from rfl, reader_get]
      exact same
  whileLoading uri task keeps session same := by
    rw [Task.whileLoading_run]
    exact keeps { session with loading := uri :: session.loading } same

/-- The reader reads from its library as long as the getters stay the same. -/
theorem reader_readsFrom (documents : String → Except Fault Value) (procedure : Procedure)
    {session : Session Unit Unit} (same : session.machine.registry.getters = registry.getters) :
    Session.ReadsFrom (reader documents) documents procedure session := by
  intro fuel uri found fetches plugin served
  have kept := fetches.keeps (reader_parts documents) (fun _ _ holds => holds) same
  rw [getters_foreign kept served]
  exact congrArg Prod.fst (reader_get documents uri [] _)

end Library

end DocMachine
