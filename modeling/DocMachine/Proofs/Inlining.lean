import DocMachine.Proofs.Bytes
import DocMachine.Proofs.Cycles
import DocMachine.Proofs.Sources

/-!
# Includes by URI and in place

An include names a document by its URI or holds it in place. A document in place is loaded without
its URI among those being loaded, so that a cycle through it is found one round later. This module
shows that there is no other difference, if documents are fetched from a library and nobody sees it.

* `Session.Widened`: the same session, with one more URI being loaded.
* `Session.Returns`: a load comes to an include of a URI that is not being loaded.
* `Session.Refuses`: a load comes to a fault that does not lie in the documents, and
  `Session.RefusesAgain` is a load that does so on a second round.
* `Session.Blocked`: a procedure that is not loaded while a URI is being loaded.

Results:
1. `Session.load_widened`: one more URI being loaded changes nothing but that a load may come to it.
2. `Session.opening_repeats`: what has been loaded once is loaded again, or refused.
3. `Session.Returns.refuses`: where a document in place comes back to its URI, loading it is refused
   too, on the round after.
4. `Session.exec_inline`: a document that includes a URI and one that holds its document in place
   run the same, up to such cycles.
-/

namespace DocMachine

variable {ω π : Type} {host : Host ω π} {alike : ω → ω → Prop}

/-- The procedure with other includes. -/
def Procedure.including (procedure : Procedure) (includes : Scope) : Procedure :=
  { procedure with includes }

theorem Procedure.including_including (procedure : Procedure) (includes others : Scope) :
    (procedure.including includes).including others = procedure.including others := rfl

namespace Session

/-! ## One more URI -/

/-- The same session, but for worlds that are alike, and `uri` is being loaded too. -/
structure Widened (alike : ω → ω → Prop) (uri : String) (session wide : Session ω π) : Prop where
  machine : session.machine.Akin alike wide.machine
  root : wide.root = session.root
  loading : ∀ other, other ∈ wide.loading ↔ other = uri ∨ other ∈ session.loading

/-- Two results are the same, but for worlds that are alike, and `uri` is being loaded too in the
second. -/
def Agree {α : Type} (alike : ω → ω → Prop) (uri : String) (one other : Except Stop α × Session ω π) :
    Prop :=
  other.1 = one.1 ∧ Widened alike uri one.2 other.2

/-- Loading a procedure comes to an include of a URI that is not being loaded. -/
def Returns (host : Host ω π) (procedure : Procedure) (session : Session ω π) (uri : String) :
    Prop :=
  ∃ deeper, Meets host session.loading procedure session deeper (.str uri) ∧ uri ∉ deeper

namespace Widened

variable {uri : String} {session wide : Session ω π}

theorem whileLoading (widened : Widened alike uri session wide) (next : String) :
    Widened alike uri (session.whileLoading next) (wide.whileLoading next) where
  machine := widened.machine
  root := widened.root
  loading other := by
    show other ∈ next :: wide.loading ↔ other = uri ∨ other ∈ next :: session.loading
    rw [List.mem_cons, List.mem_cons, widened.loading other]
    tauto

theorem onRegistry (widened : Widened alike uri session wide) (registry : Registry π) :
    Widened alike uri { session with machine := { session.machine with registry } }
      { wide with machine := { wide.machine with registry } } where
  machine := widened.machine.map (fun machine => { machine with registry }) (fun _ => rfl)
    fun _ _ => rfl
  root := widened.root
  loading := widened.loading

theorem withProcedure (widened : Widened alike uri session wide) (name : String)
    (procedure : Procedure) :
    Widened alike uri (session.withProcedure name procedure) (wide.withProcedure name procedure) := by
  have registered := widened.onRegistry (session.machine.registry.withProcedure name procedure)
  unfold Session.withProcedure
  rwa [widened.machine.registry]

/-- The URIs being loaded go back to those of an earlier point of both. -/
theorem restore {left left' : Session ω π} (widened : Widened alike uri session wide)
    (later : Widened alike uri left left') : Widened alike uri
      { left with loading := session.loading } { left' with loading := wide.loading } :=
  ⟨later.machine, later.root, widened.loading⟩

end Widened

section

variable {uri : String} {session wide : Session ω π} (widened : Widened alike uri session wide)

include widened

theorem importModule_widened (name : String) :
    Agree alike uri ((importModule host name).run.run session)
      ((importModule host name).run.run wide) := by
  rw [importModule_run, importModule_run, widened.machine.registry]
  split
  · exact ⟨rfl, widened⟩
  · exact ⟨rfl, widened.onRegistry _⟩

theorem fetch_widened (overlooks : host.Overlooks alike) (place : String) :
    Agree alike uri ((fetch host place).run.run session) ((fetch host place).run.run wide) := by
  obtain ⟨same, machine, root, kept, kept'⟩ := fetch_overlooks overlooks place widened.machine widened.root
  exact ⟨same, machine, root, fun other => by rw [kept, kept']; exact widened.loading other⟩

theorem included_widened (name : String) (document : Value) :
    Agree alike uri ((included name document : Task ω π Procedure).run.run session)
      ((included name document : Task ω π Procedure).run.run wide) := by
  rw [included_eq, included_eq]
  split
  · exact ⟨rfl, widened⟩
  · exact ⟨rfl, widened⟩

end

/-- The two loads agree, or the one with one more URI fails where the other comes to that URI. -/
def Differ (host : Host ω π) (alike : ω → ω → Prop) (procedure : Procedure) (start : Session ω π)
    (uri : String) (one other : Except Stop Unit × Session ω π) : Prop :=
  Agree alike uri one other ∨
    other.1 = .error (.failed ⟨.includeCycle uri, []⟩) ∧ Returns host procedure start uri

section

variable {procedure : Procedure} {start session wide : Session ω π} {uri : String}

/-- What makes loads differ that are part of a load makes that one differ. -/
theorem Differ.within {inner : Procedure} {found : Session ω π}
    {one other : Except Stop Unit × Session ω π} (differ : Differ host alike inner found uri one other)
    (outside : Returns host inner found uri → Returns host procedure start uri) :
    Differ host alike procedure start uri one other :=
  differ.imp_right (And.imp_right outside)

/-- What agrees so far agrees to the end, or differs later. -/
theorem Agree.bind {α : Type} {first : Task ω π α} {rest : α → Task ω π Unit}
    (one : Agree alike uri (first.run.run session) (first.run.run wide))
    (next : ∀ {a left left'}, first.run.run session = (.ok a, left) → Widened alike uri left left' →
      Differ host alike procedure start uri ((rest a).run.run left) ((rest a).run.run left')) :
    Differ host alike procedure start uri ((first >>= rest).run.run session)
      ((first >>= rest).run.run wide) := by
  rw [run_bind, run_bind]
  obtain ⟨same, later⟩ := one
  cases ran : first.run.run session with
  | mk outcome left =>
    cases ran' : first.run.run wide with
    | mk outcome' left' =>
      rw [ran, ran'] at same later
      cases same
      cases outcome with
      | error stop => exact .inl ⟨rfl, later⟩
      | ok a => exact next ran later

/-- Where the one failed early, the cycle is all that comes of it. -/
theorem Differ.bind {first rest : Task ω π Unit}
    (one : Differ host alike procedure start uri (first.run.run session) (first.run.run wide))
    (next : ∀ {left left'}, first.run.run session = (.ok (), left) → Widened alike uri left left' →
      Differ host alike procedure start uri (rest.run.run left) (rest.run.run left')) :
    Differ host alike procedure start uri ((first >>= fun _ => rest).run.run session)
      ((first >>= fun _ => rest).run.run wide) := by
  rcases one with agree | ⟨failed, returns⟩
  · exact agree.bind next
  · refine .inr ⟨?_, returns⟩
    rw [run_bind]
    cases ran : first.run.run wide with
    | mk outcome left =>
      rw [ran] at failed
      cases failed
      rfl

theorem imports_widened (widened : Widened alike uri session wide) (imports : List String) :
    Differ host alike procedure start uri ((imports.forM (importModule host)).run.run session)
      ((imports.forM (importModule host)).run.run wide) := by
  induction imports generalizing session wide with
  | nil => exact .inl ⟨rfl, widened⟩
  | cons name rest ih => exact (importModule_widened widened name).bind fun _ later => ih later

theorem Differ.whileLoading {task : Task ω π Unit} {next : String}
    (inner : Differ host alike procedure start uri (task.run.run (session.whileLoading next))
      (task.run.run (wide.whileLoading next))) (widened : Widened alike uri session wide) :
    Differ host alike procedure start uri ((Task.whileLoading next task).run.run session)
      ((Task.whileLoading next task).run.run wide) := by
  rw [Task.whileLoading_run, Task.whileLoading_run]
  exact inner.imp_left fun agree => ⟨agree.1, widened.restore agree.2⟩

end

theorem Returns.inside {procedure inner : Procedure} {start session : Session ω π} {uri : String}
    {before after : Scope} {name : String} {document : Value}
    (listed : procedure.includes = before ++ (name, document) :: after)
    (opens : Opens host procedure before start session)
    (valid : Procedure.ofValue document = .ok inner) (returns : Returns host inner session uri) :
    Returns host procedure start uri := by
  obtain ⟨deeper, meets, fresh⟩ := returns
  rw [opens.loading] at meets
  exact ⟨deeper, meets.inside listed opens valid, fresh⟩

theorem Returns.beyond {procedure inner : Procedure} {start session got : Session ω π}
    {uri next : String} {before after : Scope} {name : String} {document : Value}
    (listed : procedure.includes = before ++ (name, .str next) :: after)
    (opens : Opens host procedure before start session) (fresh : next ∉ session.loading)
    (fetched : (fetch host next).run.run session = (.ok document, got))
    (valid : Procedure.ofValue document = .ok inner)
    (returns : Returns host inner (got.whileLoading next) uri) :
    Returns host procedure start uri := by
  obtain ⟨deeper, meets, fresh'⟩ := returns
  rw [opens.whileLoading fetched] at meets
  rw [opens.loading] at fresh
  exact ⟨deeper, meets.beyond listed opens fresh fetched valid, fresh'⟩

/-- One include, of a procedure that has been loaded up to it. -/
theorem bring_widened (overlooks : host.Overlooks alike) {load : Procedure → Task ω π Unit} {uri : String}
    (loads : ∀ inner {session wide : Session ω π}, Widened alike uri session wide →
      Differ host alike inner session uri ((load inner).run.run session) ((load inner).run.run wide))
    {procedure : Procedure} {start session wide : Session ω π} {before after : Scope}
    {entry : String × Value} (listed : procedure.includes = before ++ entry :: after)
    (opens : Opens host procedure before start session) (widened : Widened alike uri session wide) :
    Differ host alike procedure start uri ((bring host load entry.1 entry.2).run.run session)
      ((bring host load entry.1 entry.2).run.run wide) := by
  obtain ⟨name, reference⟩ := entry
  unfold bring
  simp only
  split
  · next next =>
    rw [run_bind, run_bind, show (get : Task ω π _).run.run session = (.ok session, session) from rfl,
      show (get : Task ω π _).run.run wide = (.ok wide, wide) from rfl]
    simp only [List.contains_iff_mem]
    by_cases cyclic : next ∈ session.loading
    · rw [if_pos cyclic, if_pos ((widened.loading next).mpr (.inr cyclic))]
      exact .inl ⟨rfl, widened⟩
    by_cases met : next = uri
    · subst met
      rw [if_neg cyclic, if_pos ((widened.loading next).mpr (.inl rfl))]
      rw [opens.loading] at cyclic
      exact .inr ⟨rfl, start.loading,
        ⟨procedure, start, before, name, after, session, .self, listed, opens⟩, cyclic⟩
    have fresh : next ∉ wide.loading := by
      rw [widened.loading next]
      tauto
    rw [if_neg cyclic, if_neg fresh]
    refine (fetch_widened widened overlooks next).bind fun {document got got'} fetched between => ?_
    refine (included_widened between name document).bind fun {inner found found'} read later => ?_
    obtain ⟨valid, rfl⟩ := included_run read
    have nested := (loads inner (later.whileLoading next)).within fun returns =>
      returns.beyond listed opens cyclic fetched valid
    refine (nested.whileLoading later).bind fun _ last => ?_
    exact .inl ⟨rfl, last.withProcedure name inner⟩
  · refine (included_widened widened name reference).bind fun {inner found found'} read later => ?_
    obtain ⟨valid, rfl⟩ := included_run read
    have nested := (loads inner later).within fun returns => returns.inside listed opens valid
    refine nested.bind fun _ last => ?_
    exact .inl ⟨rfl, last.withProcedure name inner⟩

theorem Opens.snoc {procedure : Procedure} {before : Scope} {entry : String × Value} {fuel : Nat}
    {start session left : Session ω π}
    (opened : (opening host fuel procedure before).run.run start = (.ok (), session))
    (brought : (bring host (load host fuel) entry.1 entry.2).run.run session = (.ok (), left)) :
    (opening host fuel procedure (before ++ [entry])).run.run start = (.ok (), left) := by
  rw [opening_append_run, opened]
  show (bring host (load host fuel) entry.1 entry.2 >>= fun _ => pure ()).run.run session = _
  rw [run_bind, brought]
  rfl

/-- The includes that are left, of a procedure that has been loaded up to them. -/
theorem includes_widened (overlooks : host.Overlooks alike) {uri : String} {fuel : Nat} {procedure : Procedure}
    (loads : ∀ inner {session wide : Session ω π}, Widened alike uri session wide →
      Differ host alike inner session uri ((load host fuel inner).run.run session)
        ((load host fuel inner).run.run wide))
    {start session wide : Session ω π} {before after : Scope}
    (listed : procedure.includes = before ++ after)
    (opened : (opening host fuel procedure before).run.run start = (.ok (), session))
    (widened : Widened alike uri session wide) :
    Differ host alike procedure start uri
      ((after.forM fun entry => bring host (load host fuel) entry.1 entry.2).run.run session)
      ((after.forM fun entry => bring host (load host fuel) entry.1 entry.2).run.run wide) := by
  induction after generalizing before session wide with
  | nil => exact .inl ⟨rfl, widened⟩
  | cons entry after ih =>
    refine (bring_widened overlooks loads listed ⟨fuel, opened⟩ widened).bind fun brought later => ?_
    exact ih (by rw [listed, List.append_assoc]; rfl) (Opens.snoc opened brought) later

/-- One more URI being loaded changes nothing but that a load may come to it. -/
theorem load_widened (overlooks : host.Overlooks alike) {uri : String} (fuel : Nat) (procedure : Procedure)
    {session wide : Session ω π} (widened : Widened alike uri session wide) :
    Differ host alike procedure session uri ((load host fuel procedure).run.run session)
      ((load host fuel procedure).run.run wide) := by
  induction fuel generalizing procedure session wide with
  | zero => exact .inl ⟨rfl, widened⟩
  | succ fuel ih =>
    refine (imports_widened widened procedure.imports).bind fun {ready _} ran later => ?_
    have opened : (opening host fuel procedure []).run.run session = (.ok (), ready) := by
      unfold opening
      rw [run_bind, ran]
      rfl
    exact includes_widened overlooks ih rfl opened later

/-! ## Nested loads -/

section

variable {path deeper : List String} {procedure nested : Procedure} {session start found : Session ω π}
  {uri : String} (nests : Nests host path procedure session deeper nested start)
  (same : session.loading = path)

include nests same

/-- A load comes to fetch what a load on the way fetches. -/
theorem Nests.fetches {fuel : Nat} (fetches : Fetches host fuel nested start uri found) :
    ∃ fuel, Fetches host fuel procedure session uri found := by
  induction nests with
  | self => exact ⟨fuel, fetches⟩
  | beyond listed opens fresh fetched valid _ ih =>
    have onPath := opens.loading.trans same
    obtain ⟨fuel', fetches⟩ := ih (by rw [opens.whileLoading fetched, same]) fetches
    exact opens.fetches_beyond listed (by rwa [onPath]) fetched valid fetches
  | inside listed opens valid _ ih =>
    obtain ⟨fuel', fetches⟩ := ih (opens.loading.trans same) fetches
    exact opens.fetches_inside listed valid fetches

/-- What holds wherever a load comes to fetch holds so on the way. -/
theorem AtFetches.along {holds : String → Session ω π → Prop}
    (holdsAll : AtFetches host holds procedure session) : AtFetches host holds nested start := by
  intro fuel uri found fetches
  obtain ⟨fuel', fetches⟩ := nests.fetches same fetches
  exact holdsAll fuel' uri found fetches

end

theorem Nests.subset {path deeper : List String} {procedure nested : Procedure}
    {session start : Session ω π} (nests : Nests host path procedure session deeper nested start) :
    path ⊆ deeper := by
  induction nests with
  | self => exact List.Subset.refl _
  | beyond _ _ _ _ _ _ ih => exact List.Subset.trans (List.subset_cons_self _ _) ih
  | inside _ _ _ _ ih => exact ih

/-- Loading a procedure comes to import a module, in the session `found`. -/
def Imports (host : Host ω π) (procedure : Procedure) (session : Session ω π) (name : String)
    (found : Session ω π) : Prop :=
  ∃ path nested start before after, Nests host session.loading procedure session path nested start ∧
    nested.imports = before ++ name :: after ∧
    (before.forM (importModule host)).run.run start = (.ok (), found)

/-- Loading a procedure comes to a fault that does not lie in the documents.

* `cycle`: it includes a URI that is being loaded.
* `unknown`: it imports a module that is not there.
* `install`: it imports a module that fails. -/
inductive Refuses (host : Host ω π) (procedure : Procedure) (session : Session ω π) : Fault → Prop
  | cycle {path : List String} {uri : String} :
      Meets host session.loading procedure session path (.str uri) → uri ∈ path →
      Refuses host procedure session (.includeCycle uri)
  | unknown {name : String} {found : Session ω π} : Imports host procedure session name found →
      found.machine.registry.modules.get? name = none →
      Refuses host procedure session (.unknownModule name)
  | install {name : String} {found : Session ω π} {plug : π} {fault : Fault} :
      Imports host procedure session name found →
      found.machine.registry.modules.get? name = some plug →
      ((host.install plug).run.run found.machine.registry).1 = .error fault →
      Refuses host procedure session fault

/-- The stop is a fault to which loading the procedure comes and that does not lie in the documents. -/
def Refused (host : Host ω π) (procedure : Procedure) (session : Session ω π) (stop : Stop) : Prop :=
  ∃ fault, Refuses host procedure session fault ∧ stop = .failed ⟨fault, []⟩

section

variable {procedure inner : Procedure} {session found got : Session ω π} {before after : Scope}
  {name : String} {document : Value} {fault : Fault}
  (opens : Opens host procedure before session found)

include opens

/-- What a document in place is refused for, the procedure is refused for that includes it. -/
theorem Refuses.inside (listed : procedure.includes = before ++ (name, document) :: after)
    (valid : Procedure.ofValue document = .ok inner) (refuses : Refuses host inner found fault) :
    Refuses host procedure session fault := by
  have imports : ∀ {module at'}, Imports host inner found module at' →
      Imports host procedure session module at' := by
    rintro module at' ⟨path, nested, start, before', after', nests, rest⟩
    rw [opens.loading] at nests
    exact ⟨path, nested, start, before', after', .inside listed opens valid nests, rest⟩
  cases refuses with
  | cycle meets cyclic =>
    rw [opens.loading] at meets
    exact .cycle (meets.inside listed opens valid) cyclic
  | unknown imported missing => exact .unknown (imports imported) missing
  | install imported there failed => exact .install (imports imported) there failed

/-- So it is for what the document of a URI is refused for. -/
theorem Refuses.beyond {uri : String} (listed : procedure.includes = before ++ (name, .str uri) :: after)
    (fresh : uri ∉ found.loading) (fetched : (fetch host uri).run.run found = (.ok document, got))
    (valid : Procedure.ofValue document = .ok inner)
    (refuses : Refuses host inner (got.whileLoading uri) fault) :
    Refuses host procedure session fault := by
  have fresh' : uri ∉ session.loading := by rwa [← opens.loading]
  have imports : ∀ {module at'}, Imports host inner (got.whileLoading uri) module at' →
      Imports host procedure session module at' := by
    rintro module at' ⟨path, nested, start, before', after', nests, rest⟩
    rw [opens.whileLoading fetched] at nests
    exact ⟨path, nested, start, before', after', .beyond listed opens fresh' fetched valid nests, rest⟩
  cases refuses with
  | cycle meets cyclic =>
    rw [opens.whileLoading fetched] at meets
    exact .cycle (meets.beyond listed opens fresh' fetched valid) cyclic
  | unknown imported missing => exact .unknown (imports imported) missing
  | install imported there failed => exact .install (imports imported) there failed

/-- An include of a URI that is being loaded is refused. -/
theorem Opens.cyclic {uri : String} (listed : procedure.includes = before ++ (name, .str uri) :: after)
    (cyclic : uri ∈ found.loading) : Refuses host procedure session (.includeCycle uri) := by
  rw [opens.loading] at cyclic
  exact .cycle ⟨procedure, session, before, name, after, found, .self, listed, opens⟩ cyclic

end

/-! ## Loading again -/

section

variable {documents : String → Except Fault Value}

theorem opening_passed {fuel : Nat} {procedure : Procedure} {before after : Scope}
    {entry : String × Value} {session left : Session ω π}
    (opened : (opening host fuel procedure (before ++ entry :: after)).run.run session = (.ok (), left)) :
    ∃ found next, (opening host fuel procedure before).run.run session = (.ok (), found) ∧
      (bring host (load host fuel) entry.1 entry.2).run.run found = (.ok (), next) := by
  rw [opening_append_run] at opened
  cases ran : (opening host fuel procedure before).run.run session with
  | mk outcome found =>
    rw [ran] at opened
    cases outcome with
    | error stop => cases opened
    | ok _ =>
      replace opened : (bring host (load host fuel) entry.1 entry.2 >>= fun _ =>
        after.forM fun entry => bring host (load host fuel) entry.1 entry.2).run.run found =
          (.ok (), left) := opened
      rw [run_bind] at opened
      cases brought : (bring host (load host fuel) entry.1 entry.2).run.run found with
      | mk outcome next =>
        rw [brought] at opened
        cases outcome with
        | error stop => cases opened
        | ok _ => exact ⟨found, next, rfl, brought⟩

/-- An import that stops a load is refused. -/
theorem imports_refused {procedure : Procedure} {session left : Session ω π} {stop : Stop}
    (stopped : (procedure.imports.forM (importModule host)).run.run session = (.error stop, left)) :
    Refused host procedure session stop := by
  obtain ⟨before, name, after, found, listed, passed, failed⟩ := forM_stopped stopped
  have imported : Imports host procedure session name found :=
    ⟨_, procedure, session, before, after, .self, listed, passed⟩
  rw [importModule_run] at failed
  split at failed
  · next missing =>
    cases failed
    exact ⟨_, .unknown imported missing, rfl⟩
  · next plug there =>
    cases installed : ((host.install plug).run.run found.machine.registry).1 with
    | ok _ =>
      simp only [installed] at failed
      cases failed
    | error fault =>
      simp only [installed] at failed
      cases failed
      exact ⟨fault, .install imported there installed, rfl⟩

/-- With this fuel, what has been loaded once from the library is loaded again, or refused. -/
def Repeats (host : Host ω π) (documents : String → Except Fault Value) (fuel : Nat) : Prop :=
  ∀ procedure (session session' left left' : Session ω π) stop,
    FetchesFrom host documents procedure session → FetchesFrom host documents procedure session' →
    (load host fuel procedure).run.run session = (.ok (), left) →
    (load host fuel procedure).run.run session' = (.error stop, left') →
      Refused host procedure session' stop

/-- What was included well is included well again, or refused. -/
theorem bring_repeats {fuel : Nat} (loads : Repeats host documents fuel) {procedure : Procedure}
    {before after : Scope} {entry : String × Value}
    (listed : procedure.includes = before ++ entry :: after)
    {session session' found found' left left' : Session ω π} {stop : Stop}
    (library : FetchesFrom host documents procedure session)
    (library' : FetchesFrom host documents procedure session')
    (opens : Opens host procedure before session found)
    (opens' : Opens host procedure before session' found')
    (brought : (bring host (load host fuel) entry.1 entry.2).run.run found = (.ok (), left))
    (stopped : (bring host (load host fuel) entry.1 entry.2).run.run found' = (.error stop, left')) :
    Refused host procedure session' stop := by
  obtain ⟨name, reference⟩ := entry
  have again := Brings.of_run stopped
  cases Brings.of_run brought with
  | inline isDocument takes =>
    cases again with
    | cyclic => exact absurd rfl (isDocument _)
    | missed => exact absurd rfl (isDocument _)
    | got => exact absurd rfl (isDocument _)
    | inline _ takes' =>
      cases takes with
      | done valid ran =>
        cases takes' with
        | refused invalid => cases valid.symm.trans invalid
        | stopped valid' ran' =>
          cases valid.symm.trans valid'
          obtain ⟨fault, refuses, failed⟩ := loads _ _ _ _ _ _ (library.inside listed opens valid)
            (library'.inside listed opens' valid) ran ran'
          exact ⟨fault, refuses.inside opens' listed valid, failed⟩
  | @got uri _ got _ document _ fresh fetched takes =>
    have read := (library.fetch_iff listed opens fresh).mp ⟨got, fetched⟩
    cases again with
    | inline isDocument => exact absurd rfl (isDocument uri)
    | cyclic cyclic => exact ⟨_, opens'.cyclic listed cyclic, rfl⟩
    | missed fresh' missed =>
      obtain ⟨got', fetched'⟩ := (library'.fetch_iff listed opens' fresh').mpr read
      cases missed.symm.trans fetched'
    | got fresh' fetched' takes' =>
      have read' := (library'.fetch_iff listed opens' fresh').mp ⟨_, fetched'⟩
      cases read.symm.trans read'
      cases takes with
      | done valid ran =>
        cases takes' with
        | refused invalid => cases valid.symm.trans invalid
        | stopped valid' ran' =>
          cases valid.symm.trans valid'
          obtain ⟨fault, refuses, failed⟩ := loads _ _ _ _ _ _
            (library.beyond listed opens fresh fetched valid)
            (library'.beyond listed opens' fresh' fetched' valid) ran ran'
          exact ⟨fault, refuses.beyond opens' listed fresh' fetched' valid, failed⟩

/-- The beginning of a load that went well goes well again, or is refused. -/
theorem opening_repeats {fuel : Nat} (loads : Repeats host documents fuel) {procedure : Procedure}
    {before after : Scope} (listed : procedure.includes = before ++ after)
    {session session' left left' : Session ω π} {stop : Stop}
    (library : FetchesFrom host documents procedure session)
    (library' : FetchesFrom host documents procedure session')
    (opened : (opening host fuel procedure before).run.run session = (.ok (), left))
    (stopped : (opening host fuel procedure before).run.run session' = (.error stop, left')) :
    Refused host procedure session' stop := by
  rcases opening_stopped stopped with imports | ⟨first, entry, rest, found', split, opened', failed⟩
  · exact imports_refused imports
  · rw [split] at opened
    obtain ⟨found, next, opened, brought⟩ := opening_passed opened
    rw [split, List.append_assoc] at listed
    exact bring_repeats loads listed library library' ⟨fuel, opened⟩ ⟨fuel, opened'⟩ brought failed

/-- What has been loaded once is loaded again, or refused. -/
theorem load_repeats (fuel : Nat) : Repeats host documents fuel := by
  induction fuel with
  | zero =>
    intro procedure session session' left left' stop _ _ ran _
    cases ran
  | succ fuel ih =>
    intro procedure session session' left left' stop library library' ran stopped
    exact opening_repeats ih (List.append_nil _).symm library library' ran stopped

end

/-! ## Coming back -/

section

variable {documents : String → Except Fault Value} {procedure : Procedure} {uri : String}

/-- Loading the procedure from the library is refused while the URI is being loaded. -/
def Blocked (host : Host ω π) (documents : String → Except Fault Value) (procedure : Procedure)
    (uri : String) : Prop :=
  ∀ session, FetchesFrom host documents procedure session → uri ∈ session.loading →
    ∃ fault left, Refuses host procedure session fault ∧
      Loads host procedure session (.error (.failed ⟨fault, []⟩), left)

/-- A procedure is blocked if one of its includes is, and those before it have gone well once. -/
theorem Opens.blocked {session found : Session ω π} {before after : Scope} {entry : String × Value}
    (opens : Opens host procedure before session found)
    (listed : procedure.includes = before ++ entry :: after)
    (library : FetchesFrom host documents procedure session)
    (refused : ∀ session' found', FetchesFrom host documents procedure session' →
      Opens host procedure before session' found' → uri ∈ found'.loading →
        ∃ fault, Refuses host procedure session' fault ∧ ∃ fuel left,
          (bring host (load host fuel) entry.1 entry.2).run.run found' =
            (.error (.failed ⟨fault, []⟩), left)) : Blocked host documents procedure uri := by
  intro session' library' cyclic
  obtain ⟨fuel, opened⟩ := opens
  cases ran : (opening host fuel procedure before).run.run session' with
  | mk outcome found' =>
    cases outcome with
    | error stop =>
      obtain ⟨fault, refuses, rfl⟩ :=
        opening_repeats (load_repeats fuel) listed library library' opened ran
      refine ⟨fault, found', refuses, ⟨fuel + 1, ?_⟩, by simp⟩
      rw [load_split listed, ran]
    | ok _ =>
      have opens' : Opens host procedure before session' found' := ⟨fuel, ran⟩
      obtain ⟨fault, refuses, fails⟩ := refused session' found' library' opens' (by rwa [opens'.loading])
      obtain ⟨left, loads⟩ := opens'.fails listed fails
      exact ⟨fault, left, refuses, loads⟩

/-- An include of the URI blocks the procedure. -/
theorem Opens.blocked_uri {session found : Session ω π} {before after : Scope} {name : String}
    (opens : Opens host procedure before session found)
    (listed : procedure.includes = before ++ (name, .str uri) :: after)
    (library : FetchesFrom host documents procedure session) : Blocked host documents procedure uri := by
  refine opens.blocked listed library fun session' found' _ opens' cyclic => ?_
  refine ⟨_, opens'.cyclic listed cyclic, 0, found', ?_⟩
  rw [bring_uri, if_pos (List.contains_iff_mem.mpr cyclic)]

/-- A procedure that comes to a URI is blocked by it, or by a URI on the way there. -/
theorem Nests.blocked {path deeper : List String} {nested : Procedure} {session start found : Session ω π}
    (nests : Nests host path procedure session deeper nested start)
    (library : FetchesFrom host documents procedure session) {before after : Scope} {name : String}
    (last : nested.includes = before ++ (name, .str uri) :: after)
    (reached : Opens host nested before start found) :
    ∃ first, first ∈ uri :: deeper ∧ Blocked host documents procedure first := by
  induction nests with
  | self => exact ⟨uri, List.mem_cons_self, reached.blocked_uri last library⟩
  | @beyond _ _ _ _ _ _ _ _ _ _ _ _ next _ listed opens _ _ _ nests _ =>
    exact ⟨next, List.mem_cons_of_mem _ (nests.subset List.mem_cons_self),
      opens.blocked_uri listed library⟩
  | @inside _ _ _ inner _ _ _ _ _ _ _ _ listed opens valid _ ih =>
    obtain ⟨first, among, blocked⟩ := ih (library.inside listed opens valid) last reached
    refine ⟨first, among, opens.blocked listed library fun session' found' library' opens' cyclic => ?_⟩
    obtain ⟨fault, left, refuses, ⟨fuel, ran⟩, -⟩ :=
      blocked found' (library'.inside listed opens' valid) cyclic
    refine ⟨fault, refuses.inside opens' listed valid, fuel, left, ?_⟩
    rw [bring_inline (Procedure.ne_uri_of_ofValue valid), valid]
    simp only
    rw [ran]

/-- Loading the procedure of a document comes to the document's own URI, and is refused on the round that
begins there. -/
def RefusesAgain (host : Host ω π) (document : Value) (procedure : Procedure) (session : Session ω π)
    (uri : String) (fault : Fault) : Prop :=
  ∃ fuel found got, Fetches host fuel procedure session uri found ∧
    (fetch host uri).run.run found = (.ok document, got) ∧
    Refuses host procedure (got.whileLoading uri) fault

/-- Where the document of a URI comes back to the URI, loading it is refused on the next round. -/
theorem Returns.refuses {session : Session ω π} {document : Value}
    (read : documents uri = .ok document) (valid : Procedure.ofValue document = .ok procedure)
    (library : FetchesFrom host documents procedure session)
    (returns : Returns host procedure session uri) :
    ∃ fault left, RefusesAgain host document procedure session uri fault ∧
      Loads host procedure session (.error (.failed ⟨fault, []⟩), left) := by
  obtain ⟨deeper, ⟨nested, start, before, name, after, found, nests, last, reached⟩, fresh⟩ := returns
  have onPath : found.loading = deeper := reached.loading.trans (nests.loading rfl)
  rw [← onPath] at fresh
  have fresh' : ¬found.loading.contains uri = true := by rwa [List.contains_iff_mem]
  have nestedLibrary : FetchesFrom host documents nested start := library.along nests rfl
  obtain ⟨_, here⟩ := reached.fetches last fresh
  obtain ⟨_, fetches⟩ := nests.fetches rfl here
  obtain ⟨got, fetched⟩ := (nestedLibrary.fetch_iff last reached fresh).mpr read
  -- The second round finds the URI, or one on the way back to it, being loaded.
  obtain ⟨first, among, blocked⟩ := nests.blocked library last reached
  have again : (got.whileLoading uri).loading = uri :: deeper :=
    congrArg (uri :: ·) ((fetch_loading fetched).trans onPath)
  obtain ⟨fault, left, refuses, ⟨fuel, ran⟩, -⟩ := blocked (got.whileLoading uri)
    (nestedLibrary.beyond last reached fresh fetched valid) (by rwa [again])
  have failed : (bring host (load host fuel) name (.str uri)).run.run found =
      (.error (.failed ⟨fault, []⟩), { left with loading := got.loading }) := by
    rw [bring_uri, if_neg fresh', fetched]
    simp only [valid]
    rw [ran]
  obtain ⟨left, loads⟩ := reached.fails last ⟨fuel, _, failed⟩
  obtain ⟨left, loads⟩ := nests.fails rfl loads
  exact ⟨fault, left, ⟨_, found, got, fetches, fetched, refuses⟩, loads⟩

end

/-! ## An include replaced by its document -/

/-- Two results are the same, but for worlds that are alike. -/
def Resemble (alike : ω → ω → Prop) (one other : Except Stop Unit × Session ω π) : Prop :=
  other.1 = one.1 ∧ one.2.Akin alike other.2

section

variable (overlooks : host.Overlooks alike) {documents : String → Except Fault Value}
  {name uri : String} {document : Value} (isDocument : ∀ uri, document ≠ .str uri)

include overlooks isDocument

/-- Including a URI comes to the same as including its document in place, or the document comes back
to its URI. -/
theorem bring_replaced {session got : Session ω π} (read : documents uri = .ok document)
    (fresh : uri ∉ session.loading)
    (fetched : (fetch host uri).run.run session = (.ok document, got))
    (unseen : session.Akin alike got)
    (library : ∀ inner, Procedure.ofValue document = .ok inner →
      FetchesFrom host documents inner session)
    (fuel : Nat) :
    Resemble alike ((bring host (load host fuel) name document).run.run session)
      ((bring host (load host fuel) name (.str uri)).run.run session) ∨
    (∃ left, (bring host (load host fuel) name (.str uri)).run.run session =
      (.error (.failed ⟨.includeCycle uri, []⟩), left)) ∧
    ∃ inner fault, Procedure.ofValue document = .ok inner ∧
      RefusesAgain host document inner session uri fault ∧ ∃ more left,
        (bring host (load host more) name document).run.run session =
          (.error (.failed ⟨fault, []⟩), left) := by
  have fresh' : ¬session.loading.contains uri = true := by rwa [List.contains_iff_mem]
  simp only [bring_inline isDocument, bring_uri, if_neg fresh', fetched]
  cases valid : Procedure.ofValue document with
  | error fault => exact .inl ⟨rfl, unseen⟩
  | ok inner =>
    have widened : Widened alike uri session (got.whileLoading uri) :=
      ⟨unseen.machine, unseen.root, fun other => by
        rw [← unseen.loading]
        exact List.mem_cons⟩
    have kept : ((load host fuel inner).run.run session).2.loading = session.loading :=
      load_loading fuel inner session
    have differ : Differ host alike inner session uri ((load host fuel inner).run.run session)
      ((load host fuel inner).run.run (got.whileLoading uri)) := load_widened overlooks fuel inner widened
    simp only
    cases ran : (load host fuel inner).run.run session with
    | mk outcome left =>
      cases ran' : (load host fuel inner).run.run (got.whileLoading uri) with
      | mk outcome' left' =>
        rw [ran, ran'] at differ
        rw [ran] at kept
        rcases differ with ⟨same, later⟩ | ⟨failed, returns⟩
        · have restored : left.Akin alike { left' with loading := got.loading } :=
            ⟨later.machine, later.root, unseen.loading.trans kept.symm⟩
          cases same
          left
          cases outcome with
          | error stop => exact ⟨rfl, restored⟩
          | ok _ => exact ⟨rfl, restored.withProcedure name inner⟩
        · cases failed
          right
          obtain ⟨fault, last, refuses, ⟨more, loads⟩, -⟩ :=
            returns.refuses read valid (library inner valid)
          refine ⟨⟨_, rfl⟩, inner, fault, rfl, refuses, more, last, ?_⟩
          rw [loads]

/-- A procedure with an include of a URI loads the same as the one with the document in place, or the
document comes back to its URI. -/
theorem load_replaced (equivalence : Equivalence alike) {procedure : Procedure} {before after : Scope}
    {session : Session ω π} (listed : procedure.includes = before ++ (name, .str uri) :: after)
    (fresh : uri ∉ session.loading)
    (read : documents uri = .ok document) (library : FetchesFrom host documents procedure session)
    (library' : FetchesFrom host documents
      (procedure.including (before ++ (name, document) :: after)) session)
    (unseen : ReadsUnseen host alike procedure session) (fuel : Nat) :
    Resemble alike
      ((load host fuel (procedure.including (before ++ (name, document) :: after))).run.run session)
      ((load host fuel procedure).run.run session) ∨
    (∃ left, (load host fuel procedure).run.run session =
      (.error (.failed ⟨.includeCycle uri, []⟩), left)) ∧
    ∃ inner found fault left, Procedure.ofValue document = .ok inner ∧
      Opens host procedure before session found ∧ RefusesAgain host document inner found uri fault ∧
      Loads host (procedure.including (before ++ (name, document) :: after)) session
        (.error (.failed ⟨fault, []⟩), left) := by
  have refl : ∀ session : Session ω π, session.Akin alike session :=
    fun session => ⟨.refl equivalence _, rfl, rfl⟩
  cases fuel with
  | zero => exact .inl ⟨rfl, refl session⟩
  | succ fuel =>
    have begins : opening host fuel
        (procedure.including (before ++ (name, document) :: after)) before =
          opening host fuel procedure before := rfl
    rw [load_split listed, load_split rfl, begins]
    cases opened : (opening host fuel procedure before).run.run session with
    | mk outcome found =>
      cases outcome with
      | error stop => exact .inl ⟨rfl, refl found⟩
      | ok _ =>
        have opens : Opens host procedure before session found := ⟨fuel, opened⟩
        have opens' : Opens host (procedure.including (before ++ (name, document) :: after)) before
          session found := opens
        have fresh' : uri ∉ found.loading := by rwa [opens.loading]
        obtain ⟨got, fetched⟩ := (library.fetch_iff listed opens fresh').mpr read
        have quiet := unseen.here listed opens fresh'
        rw [fetched] at quiet
        simp only
        rcases bring_replaced overlooks isDocument read fresh' fetched quiet
          (fun inner valid => library'.inside rfl opens' valid) fuel with
          resembles | ⟨⟨left, cyclic⟩, inner, fault, valid, refuses, failed⟩
        · left
          obtain ⟨same, alikes⟩ := resembles
          cases ran : (bring host (load host fuel) name document).run.run found with
          | mk outcome left =>
            cases ran' : (bring host (load host fuel) name (.str uri)).run.run found with
            | mk outcome' left' =>
              rw [ran, ran'] at same alikes
              cases same
              cases outcome with
              | error stop => exact ⟨rfl, alikes⟩
              | ok _ => exact bringAll_akin overlooks fuel after left left' alikes
        · rw [cyclic]
          obtain ⟨last, loads⟩ := opens'.fails rfl failed
          exact .inr ⟨⟨left, rfl⟩, inner, found, fault, last, valid, opens, refuses, loads⟩

end

end Session

namespace Procedure

/-- Two readings of a procedure are the same, or differ in the includes alone. -/
def Replaced {ε : Type} (includes others : Scope) (one other : Except ε Procedure) : Prop :=
  one = other ∨
    ∃ procedure : Procedure, one = .ok (procedure.including includes) ∧
      other = .ok (procedure.including others)

variable {includes others : Scope}

theorem field_replaced (procedure : Procedure) (key : String) (v : Value) :
    Replaced includes others (field (procedure.including includes) key v)
      (field (procedure.including others) key v) := by
  unfold field
  split
  · cases Param.sequence Param.string v with
    | error fault => exact Or.inl rfl
    | ok imports => exact Or.inr ⟨{ procedure with imports }, rfl, rfl⟩
  · cases v <;> exact Or.inl rfl
  · cases Param.map v with
    | error fault => exact Or.inl rfl
    | ok set => exact Or.inr ⟨{ procedure with set }, rfl, rfl⟩
  · cases Param.sequence TestCase.anything v with
    | error fault => exact Or.inl rfl
    | ok run => exact Or.inr ⟨{ procedure with run }, rfl, rfl⟩
  · cases Param.sequence TestCase.ofValue v with
    | error fault => exact Or.inl rfl
    | ok tests => exact Or.inr ⟨{ procedure with tests }, rfl, rfl⟩
  · exact Or.inr ⟨procedure, rfl, rfl⟩

theorem record_replaced (fields : Scope) (procedure : Procedure) :
    Replaced includes others (Param.record (procedure.including includes) field fields)
      (Param.record (procedure.including others) field fields) := by
  induction fields generalizing procedure with
  | nil => exact Or.inr ⟨procedure, rfl, rfl⟩
  | cons entry rest ih =>
    obtain ⟨key, v⟩ := entry
    show Replaced includes others
      (do Param.record (← field (procedure.including includes) key v) field rest)
      (do Param.record (← field (procedure.including others) key v) field rest)
    rcases field_replaced procedure key v with same | ⟨next, one, other⟩
    · rw [same]
      exact Or.inl rfl
    · rw [one, other]
      exact ih next

/-- The sections of a document whose include section is replaced by another one. -/
theorem record_include (front back : Scope) (defaults : Procedure) :
    Replaced includes others
      (Param.record defaults field (front ++ ("include", .obj includes) :: back))
      (Param.record defaults field (front ++ ("include", .obj others) :: back)) := by
  induction front generalizing defaults with
  | nil => exact record_replaced back defaults
  | cons entry rest ih =>
    obtain ⟨key, v⟩ := entry
    show Replaced includes others
      (do Param.record (← field defaults key v) field (rest ++ ("include", .obj includes) :: back))
      (do Param.record (← field defaults key v) field (rest ++ ("include", .obj others) :: back))
    cases field defaults key v with
    | error fault => exact Or.inl rfl
    | ok next => exact ih next

/-- A document whose include of a URI is replaced by a document in place. -/
theorem ofValue_replaced (front back before after : Scope) (name uri : String) (fields : Scope) :
    Replaced (before ++ (name, .str uri) :: after) (before ++ (name, .obj fields) :: after)
      (ofValue (.obj (front ++ ("include", .obj (before ++ (name, .str uri) :: after)) :: back)))
      (ofValue (.obj (front ++ ("include", .obj (before ++ (name, .obj fields) :: after)) :: back))) := by
  rw [ofValue_obj, ofValue_obj]
  have sections : Replaced (before ++ (name, .str uri) :: after) (before ++ (name, .obj fields) :: after)
    (Param.record {} field (front ++ ("include", .obj (before ++ (name, .str uri) :: after)) :: back))
    (Param.record {} field
      (front ++ ("include", .obj (before ++ (name, .obj fields) :: after)) :: back)) :=
    record_include front back {}
  rcases sections with same | ⟨procedure, one, two⟩
  · rw [same]
    exact Or.inl rfl
  · rw [one, two]
    have isUri : isReference (.str uri) = true := rfl
    have isDocument : isReference (.obj fields) = true := rfl
    simp only [including, List.find?_append, List.find?_cons, isUri, isDocument, Bool.not_true]
    cases (before.find? fun entry => !isReference entry.2).or
        (after.find? fun entry => !isReference entry.2) with
    | some entry => exact Or.inl rfl
    | none =>
      simp only
      cases procedure.run.forM fun value => Op.classify value >>= fun _ => pure () with
      | error fault => exact Or.inl rfl
      | ok _ => exact Or.inr ⟨procedure, rfl, rfl⟩

end Procedure

namespace Session

/-- Loading the document goes well, and leaves the session so. -/
def LoadsTo (host : Host ω π) (document : Value) (session loaded : Session ω π) : Prop :=
  ∃ procedure, Procedure.ofValue document = .ok procedure ∧ Loads host procedure session (.ok (), loaded)

theorem exec_failed {fuel : Nat} {document : Value} {procedure : Procedure} {session left : Session ω π}
    {stop : Stop} (valid : Procedure.ofValue document = .ok procedure)
    (failed : (load host fuel procedure).run.run session = (.error stop, left)) :
    (exec host fuel document).run.run session = (.error stop, left) := by
  rw [exec_run, valid]
  simp only
  rw [failed]

/-- Procedures that differ in what they include run the same once they have been loaded. -/
theorem exec_resembles (overlooks : host.Overlooks alike) {fuel : Nat} {one other : Value}
    {procedure : Procedure} {includes others : Scope} {session : Session ω π}
    (valid : Procedure.ofValue one = .ok (procedure.including includes))
    (valid' : Procedure.ofValue other = .ok (procedure.including others))
    (loads : Resemble alike ((load host fuel (procedure.including includes)).run.run session)
      ((load host fuel (procedure.including others)).run.run session)) :
    Resemble alike ((exec host fuel one).run.run session) ((exec host fuel other).run.run session) := by
  obtain ⟨same, lefts⟩ := loads
  rw [exec_run, exec_run, valid, valid']
  simp only
  cases ran : (load host fuel (procedure.including includes)).run.run session with
  | mk outcome loaded =>
    cases ran' : (load host fuel (procedure.including others)).run.run session with
    | mk outcome' loaded' =>
      rw [ran, ran'] at same lefts
      cases same
      cases outcome with
      | error stop => exact ⟨rfl, lefts⟩
      | ok _ =>
        have entries : loaded'.entry (procedure.including others) =
            loaded.entry (procedure.including includes) := by
          unfold Session.entry
          rw [lefts.root]
          rfl
        obtain ⟨outcome, frame, machine⟩ :=
          Frame.run_akin overlooks fuel (loaded'.entry (procedure.including others)) lefts.machine
        simp only [← entries]
        exact ⟨outcome, machine, frame, lefts.loading⟩

/-- A document that includes a URI and one that holds the document of that URI in place load the
same, and run the same. The one exception is a document that comes back to its URI: there the first
fails with that cycle, and the second is refused on the round that begins there; neither has then run
anything. Documents are fetched from a library, and unseen. -/
theorem exec_inline (equivalence : Equivalence alike) (overlooks : host.Overlooks alike)
    {documents : String → Except Fault Value} (front back before after : Scope) (name uri : String)
    (fields : Scope) (session : Session ω π) (fresh : uri ∉ session.loading)
    (read : documents uri = .ok (.obj fields)) :
    let holding := fun reference =>
      Value.obj (front ++ ("include", .obj (before ++ (name, reference) :: after)) :: back)
    let byUri := holding (.str uri)
    let inPlace := holding (.obj fields)
    (∀ document procedure, document = byUri ∨ document = inPlace →
      Procedure.ofValue document = .ok procedure →
        FetchesFrom host documents procedure session ∧ ReadsUnseen host alike procedure session) →
    (∀ loaded, LoadsTo host byUri session loaded →
      ∃ loaded', LoadsTo host inPlace session loaded' ∧ loaded'.Akin alike loaded) ∧
    (∀ loaded', LoadsTo host inPlace session loaded' →
      ∃ loaded, LoadsTo host byUri session loaded ∧ loaded'.Akin alike loaded) ∧
    ∀ fuel,
      Resemble alike ((exec host fuel inPlace).run.run session)
        ((exec host fuel byUri).run.run session) ∨
      (∃ left, (exec host fuel byUri).run.run session =
          (.error (.failed ⟨.includeCycle uri, []⟩), left) ∧
        session.Undisturbed alike left) ∧
      ∃ procedure inner found fault more left, Procedure.ofValue byUri = .ok procedure ∧
        Procedure.ofValue (.obj fields) = .ok inner ∧ Opens host procedure before session found ∧
        RefusesAgain host (.obj fields) inner found uri fault ∧
        (exec host more inPlace).run.run session = (.error (.failed ⟨fault, []⟩), left) ∧
        session.Undisturbed alike left := by
  intro holding byUri inPlace library
  have refl : ∀ session : Session ω π, session.Akin alike session :=
    fun session => ⟨.refl equivalence _, rfl, rfl⟩
  rcases Procedure.ofValue_replaced front back before after name uri fields with
    same | ⟨procedure, readByUri, readInPlace⟩
  · replace same : Procedure.ofValue byUri = Procedure.ofValue inPlace := same
    refine ⟨fun loaded loads => ⟨loaded, ?_, refl loaded⟩, fun loaded loads => ⟨loaded, ?_, refl loaded⟩,
      fun fuel => .inl ?_⟩
    · rwa [LoadsTo, ← same]
    · rwa [LoadsTo, same]
    · rw [exec_run, exec_run, same]
      exact ⟨rfl, refl _⟩
  · replace readByUri : Procedure.ofValue byUri = .ok _ := readByUri
    replace readInPlace : Procedure.ofValue inPlace = .ok _ := readInPlace
    obtain ⟨byUriFetches, unseen⟩ := library byUri _ (.inl rfl) readByUri
    obtain ⟨inPlaceFetches, unseen'⟩ := library inPlace _ (.inr rfl) readInPlace
    have compare := load_replaced overlooks (fun _ (same : Value.obj fields = _) => by cases same)
      equivalence rfl fresh read byUriFetches inPlaceFetches unseen
    simp only [Procedure.including_including] at compare
    refine ⟨?_, ?_, fun fuel => ?_⟩
    · rintro loaded ⟨_, read, ⟨fuel, ran⟩, settled⟩
      cases readByUri.symm.trans read
      rcases compare fuel with ⟨same, alikes⟩ | ⟨⟨left, cyclic⟩, -⟩
      · rw [ran] at same alikes
        refine ⟨_, ?_, alikes⟩
        exact ⟨_, readInPlace, ⟨fuel, Prod.ext same.symm rfl⟩, settled⟩
      · cases cyclic.symm.trans ran
    · rintro loaded ⟨_, read, ⟨fuel, ran⟩, settled⟩
      cases readInPlace.symm.trans read
      rcases compare fuel with ⟨same, alikes⟩ | ⟨-, _, _, fault, left, -, -, -, fails⟩
      · rw [ran] at same alikes
        refine ⟨_, ?_, alikes⟩
        exact ⟨_, readByUri, ⟨fuel, Prod.ext same rfl⟩, settled⟩
      · cases fails.unique ⟨⟨fuel, ran⟩, settled⟩
    · rcases compare fuel with
        resembles |
        ⟨⟨left, cyclic⟩, inner, found, fault, last, valid, opens, refuses, ⟨more, fails⟩, -⟩
      · exact .inl (exec_resembles overlooks readInPlace readByUri resembles)
      · have undisturbed := load_undisturbed equivalence unseen fuel
        have undisturbed' := load_undisturbed equivalence unseen' more
        rw [cyclic] at undisturbed
        rw [fails] at undisturbed'
        exact .inr ⟨⟨left, exec_failed readByUri cyclic, undisturbed⟩, _, inner, found, fault, more,
          last, readByUri, valid, opens, refuses, exec_failed readInPlace fails, undisturbed'⟩

/-- Of two documents that include each other, the one in place is not seen to be a cycle until the
other one comes up again. -/
theorem exec_inline_other_cycle :
    (fetch (Library.reader Library.couple) "mem:a").run.run Library.session =
      (.ok (.obj [("include", .obj [("b", .str "mem:b")])]), Library.session) ∧
    ((exec (Library.reader Library.couple) 4
      (.obj [("include", .obj [("x", .str "mem:a")])])).run.run Library.session).1 =
        .error (.failed ⟨.includeCycle "mem:a", []⟩) ∧
    ((exec (Library.reader Library.couple) 4
      (.obj [("include", .obj [("x", .obj [("include", .obj [("b", .str "mem:b")])])])])).run.run
        Library.session).1 = .error (.failed ⟨.includeCycle "mem:b", []⟩) := by
  refine ⟨?_, ?_, ?_⟩ <;> cbv

/-- A document that greets. -/
def greeting : Scope := [("run", .arr [.str "hello"])]

/-- A session over files, with that document in the file `/greet`. -/
def withGreeting : Session (World Unit) (Plug Empty) :=
  { machine :=
      { registry := Standard.withFiles Registry.builtins
        console := false
        world :=
          { files := { nodes := [(["greet"], .file (Text.toUtf8 "\x7b\"run\":[\"hello\"]\x7d"))] }
            guest := () } } }

theorem withGreeting_documents :
    withGreeting.documents (Standard.host Standard.noGuests) "file:///greet" = .ok (.obj greeting) := by
  have parsed : Url.parse "file:///greet" = .ok
    { scheme := "file", host := none, port := none, path := "/greet", query := none, fragment := none } := rfl
  have served : withGreeting.machine.registry.getter "file:///greet" =
      .ok (.foreign (.readFile .json)) := by
    rw [Registry.getter, Resource.parseUri, parsed]
    show withGreeting.machine.registry.plugin .getter "file" (some (Media.ofPath "/greet").name) = _
    rw [show Media.ofPath "/greet" = .json by cbv]
    rfl
  have named : Provider.File.pathOf "file:///greet" = .ok "/greet" := by
    rw [Provider.File.pathOf, Resource.parseUri, parsed]
    simp only [Except.mapError, bind, Except.bind]
    rw [show Text.percentDecode "/greet" = .ok "/greet" by cbv]
    rfl
  have text : ((Files.readText "/greet").run.run withGreeting.machine.world.files).1 =
      .ok "\x7b\"run\":[\"hello\"]\x7d" := by
    have bytes : (Files.readBytes "/greet").run.run withGreeting.machine.world.files =
      (.ok (Text.toUtf8 "\x7b\"run\":[\"hello\"]\x7d"),
        { withGreeting.machine.world.files with asked := [["greet"]] }) := rfl
    unfold Files.readText
    rw [run_bind, bytes]
    simp only [Text.ofUtf8_toUtf8]
    rfl
  have decoded : Media.json.decode? "\x7b\"run\":[\"hello\"]\x7d" = some (.obj greeting) := by
    cbv
  exact Standard.documents_file served named text decoded

/-- A greeting that is included from its file greets. -/
theorem exec_inline_file :
    let document := fun reference =>
      Value.obj [("include", .obj [("greet", reference)]), ("run", .arr [.obj [("op", .str "greet")]])]
    ((exec (Standard.host Standard.noGuests) 4 (document (.str "file:///greet"))).run.run withGreeting).1 =
        .ok () ∧
      ((exec (Standard.host Standard.noGuests) 4 (document (.str "file:///greet"))).run.run
        withGreeting).2.machine.stack = [.str "hello"] := by
  intro document
  have fetches : ∀ procedure,
      FetchesFrom (Standard.host Standard.noGuests) (withGreeting.documents (Standard.host Standard.noGuests))
        procedure withGreeting ∧
      ReadsUnseen (Standard.host Standard.noGuests) World.Alike procedure withGreeting :=
    Standard.fetches_documents fun _ _ listed => by cases listed
  have compare := (exec_inline World.alike_equivalence
    (Standard.host_overlooks Standard.noGuests_overlooks) []
    [("run", .arr [.obj [("op", .str "greet")]])] [] [] "greet" "file:///greet" greeting
    withGreeting List.not_mem_nil withGreeting_documents fun _ procedure _ _ => fetches procedure).2.2 4
  rcases compare with ⟨same, alikes⟩ | ⟨-, -, inner, _, _, _, _, -, valid, -, ⟨_, _, _, fetched, -⟩, -⟩
  · exact ⟨same, alikes.machine.stack⟩
  · -- The document includes nothing, so it does not come back to its URI.
    cases valid
    cases fetched with
    | here listed => exact absurd listed (by simp)
    | beyond listed => exact absurd listed (by simp)
    | inside listed => exact absurd listed (by simp)

end Session

end DocMachine
