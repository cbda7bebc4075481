import DocMachine.Proofs.Includes
import Mathlib

/-!
# Include cycles

A document may include itself, directly or through others. Loading keeps the URIs that are being
loaded and refuses to load one of them again. This module shows that it always comes to an end where
only finitely many URIs have documents, and that it refuses nothing else.

* `Session.Nests` follows a load into the procedures that it loads on the way, depth first and in
  the order of the documents. It keeps the path of URIs around.
* `Session.Meets` is an include that a load comes to.
* `Plugins.Honest`: no getter and no module reports a cycle of its own.

Results:
1. `Session.exists_budgets`: loading comes to an end.
2. `Session.Nests.loading` and `Session.Nests.nodup`: at any time those URIs are being loaded that
   are on the path, each of them once.
3. `Session.Meets.fails` and `Session.meets_of_cycle`: a cycle is reported exactly where a load
   comes to an include of a URI on the path.
4. `Session.load_reports_cycles`: all this of one load.
-/

namespace DocMachine

variable {ω π : Type} {host : Host ω π}

/-! ## Coming to an end -/

/-- From every session with the property the task comes to an end of its own, and leaves the
property. -/
def Task.Settles {α : Type} (I : Session ω π → Prop) (task : Task ω π α) : Prop :=
  ∀ session, I session → (task.run.run session).1 ≠ .error .starved ∧ I (task.run.run session).2

namespace Task.Settles

variable {α β : Type} {I : Session ω π → Prop}

theorem bind {task : Task ω π α} {rest : α → Task ω π β} (first : task.Settles I)
    (second : ∀ a, (rest a).Settles I) : (task >>= rest).Settles I := by
  intro session holds
  obtain ⟨settled, kept⟩ := first session holds
  rw [run_bind]
  cases ran : task.run.run session with
  | mk outcome left =>
    rw [ran] at settled kept
    cases outcome with
    | ok a => exact second a left kept
    | error stop => exact ⟨fun starved => settled (by cases starved; rfl), kept⟩

theorem forM {task : α → Task ω π Unit} {items : List α}
    (each : ∀ item ∈ items, (task item).Settles I) : Settles I (items.forM task) := by
  induction items with
  | nil => exact fun _ holds => ⟨by simp [List.forM], holds⟩
  | cons item rest ih =>
    exact bind (each item List.mem_cons_self) fun _ =>
      ih fun next listed => each next (List.mem_cons_of_mem _ listed)

theorem extend {task more : Task ω π α} (settles : task.Settles I) (same : task.Extends more) :
    more.Settles I := by
  intro session holds
  obtain ⟨settled, kept⟩ := settles session holds
  rw [same session settled]
  exact ⟨settled, kept⟩

end Task.Settles

namespace Session

theorem importModule_ne_starved (name : String) (session : Session ω π) :
    ((importModule host name).run.run session).1 ≠ .error .starved := by
  rw [importModule_run]
  cases session.machine.registry.modules.get? name with
  | none => simp
  | some plug =>
    simp only
    cases ((host.install plug).run.run session.machine.registry).1 <;> simp [Except.mapError]

theorem fetch_ne_starved (uri : String) (session : Session ω π) :
    ((fetch host uri).run.run session).1 ≠ .error .starved := by
  rw [Task.fetch_run]
  cases session.machine.registry.getter uri with
  | error fault => simp
  | ok plugin =>
    simp only
    cases ((plugin.get host uri []).run.run ⟨session.machine, session.root, "get"⟩).1 <;>
      simp [Except.mapError]

theorem fetch_loading {uri : String} {session got : Session ω π} {outcome : Except Stop Value}
    (fetched : (fetch host uri).run.run session = (outcome, got)) :
    got.loading = session.loading := by
  have kept : ((fetch host uri).run.run session).2.loading = session.loading :=
    loading_parts.fetch uri session
  rwa [fetched] at kept

/-- Including a document comes to an end if loading it does. -/
theorem Takes.ne_starved {load : Procedure → Task ω π Unit} {name : String} {document : Value}
    {session : Session ω π} {result : Except Stop Unit × Session ω π}
    (takes : Takes load name document session result)
    (loads : ∀ inner, Procedure.ofValue document = .ok inner →
      ((load inner).run.run session).1 ≠ .error .starved) : result.1 ≠ .error .starved := by
  cases takes with
  | refused _ => simp
  | stopped valid ran =>
    have settled := loads _ valid
    rwa [ran] at settled
  | done _ _ => simp

/-- It comes to an end with a property kept if loading does. -/
theorem Takes.settles {I : Session ω π → Prop} {load : Procedure → Task ω π Unit} {name : String}
    {document : Value} {session : Session ω π} {result : Except Stop Unit × Session ω π}
    (takes : Takes load name document session result) (holds : I session)
    (loads : ∀ inner, Procedure.ofValue document = .ok inner → (load inner).Settles I)
    (registers : ∀ inner left, I left → I (left.withProcedure name inner)) :
    result.1 ≠ .error .starved ∧ I result.2 := by
  refine ⟨takes.ne_starved fun inner valid => (loads inner valid session holds).1, ?_⟩
  cases takes with
  | refused _ => exact holds
  | stopped valid ran =>
    have kept := (loads _ valid session holds).2
    rwa [ran] at kept
  | done valid ran =>
    have kept := (loads _ valid session holds).2
    rw [ran] at kept
    exact registers _ _ kept

/-- If there is at most one procedure to load, one budget is enough, also if there is none. -/
theorem exists_budget {toLoad : Procedure → Prop} {enough : Nat → Procedure → Prop}
    (only : ∀ inner other, toLoad inner → toLoad other → inner = other)
    (budget : ∀ inner, toLoad inner → ∃ fuel, enough fuel inner) :
    ∃ fuel, ∀ inner, toLoad inner → enough fuel inner := by
  by_cases any : ∃ inner, toLoad inner
  · obtain ⟨inner, isToLoad⟩ := any
    obtain ⟨fuel, isEnough⟩ := budget inner isToLoad
    exact ⟨fuel, fun other isToLoad' => only inner other isToLoad isToLoad' ▸ isEnough⟩
  · exact ⟨0, fun inner isToLoad => absurd ⟨inner, isToLoad⟩ any⟩

/-- If each item has a budget that is enough for it, and more does no harm, one is enough for all. -/
theorem exists_common {α : Type} {enough : Nat → α → Prop}
    (mono : ∀ fuel more item, fuel ≤ more → enough fuel item → enough more item) {items : List α}
    (each : ∀ item ∈ items, ∃ fuel, enough fuel item) : ∃ fuel, ∀ item ∈ items, enough fuel item := by
  induction items with
  | nil => exact ⟨0, fun item listed => by cases listed⟩
  | cons item rest ih =>
    obtain ⟨fuel, first⟩ := each item List.mem_cons_self
    obtain ⟨fuel', others⟩ := ih fun next listed => each next (List.mem_cons_of_mem _ listed)
    refine ⟨max fuel fuel', fun next listed => ?_⟩
    cases listed with
    | head => exact mono _ _ _ (Nat.le_max_left fuel fuel') first
    | tail _ listed => exact mono _ _ _ (Nat.le_max_right fuel fuel') (others next listed)

/-- A list of includes comes to an end if each of them does. -/
theorem bringAll_settles {I : Session ω π → Prop} {includes : Scope}
    (each : ∀ entry ∈ includes,
      ∃ fuel, (bring host (load host fuel) entry.1 entry.2).Settles I) :
    ∃ fuel, ∀ entry ∈ includes,
      (bring host (load host fuel) entry.1 entry.2).Settles I :=
  exists_common
    (fun _ _ _ le settles => settles.extend (bring_extends (load_extends le) _ _)) each

/-! ### Libraries -/

section

variable {documents : String → Except Fault Value} {path : List String} {procedure : Procedure}

/-- The budget is enough to load the procedure from the library while these URIs are being loaded. -/
def Budgets (host : Host ω π) (documents : String → Except Fault Value) (path : List String)
    (fuel : Nat) (procedure : Procedure) : Prop :=
  ∀ session, session.loading = path → ReadsFrom host documents procedure session →
    ((load host fuel procedure).run.run session).1 ≠ .error .starved

/-- It is enough for this include of the procedure, wherever a load comes to that. -/
def Affords (host : Host ω π) (documents : String → Except Fault Value) (path : List String)
    (procedure : Procedure) (fuel : Nat) (entry : String × Value) : Prop :=
  ∀ before after session found, procedure.includes = before ++ entry :: after →
    session.loading = path → ReadsFrom host documents procedure session →
    Opens host procedure before session found →
      ((bring host (load host fuel) entry.1 entry.2).run.run found).1 ≠ .error .starved

theorem Affords.mono {fuel more : Nat} {entry : String × Value} (le : fuel ≤ more)
    (affords : Affords host documents path procedure fuel entry) :
    Affords host documents path procedure more entry := by
  intro before after session found listed onPath reads opens
  have settled := affords before after session found listed onPath reads opens
  rwa [bring_extends (load_extends le) entry.1 entry.2 found settled]

/-- A budget that is enough for all includes is enough for the load, but for one step. -/
theorem budgets_of_affords {fuel : Nat}
    (each : ∀ entry ∈ procedure.includes, Affords host documents path procedure fuel entry) :
    Budgets host documents path (fuel + 1) procedure := by
  intro session onPath reads starved
  rcases load_stopped (Prod.ext starved rfl) with imports | ⟨before, entry, after, found, listed,
    opened, stopped⟩
  · obtain ⟨_, name, _, ready, _, _, stopped⟩ := forM_stopped imports
    exact importModule_ne_starved name ready (congrArg Prod.fst stopped)
  · have affords := each entry (listed ▸ List.mem_append_right before List.mem_cons_self)
    exact affords before after session found listed onPath reads ⟨fuel, opened⟩
      (congrArg Prod.fst stopped)

/-- There is a budget for an include of a URI if there is one for loading what the library has there. -/
theorem exists_affords_uri {name uri : String}
    (beyond : ∀ document inner, uri ∉ path → documents uri = .ok document →
      Procedure.ofValue document = .ok inner →
        ∃ fuel, Budgets host documents (uri :: path) fuel inner) :
    ∃ fuel, Affords host documents path procedure fuel (name, .str uri) := by
  -- Before the budget is known, the library tells what there is to load.
  obtain ⟨fuel, budgets⟩ : ∃ fuel, ∀ inner, (uri ∉ path ∧ ∃ document,
      documents uri = .ok document ∧ Procedure.ofValue document = .ok inner) →
        Budgets host documents (uri :: path) fuel inner := by
    refine exists_budget ?_ fun inner ⟨fresh, document, read, valid⟩ =>
      beyond document inner fresh read valid
    rintro inner other ⟨-, document, read, valid⟩ ⟨-, document', read', valid'⟩
    cases read.symm.trans read'
    exact Except.ok.inj (valid.symm.trans valid')
  refine ⟨fuel, fun before after session found listed onPath reads opens => ?_⟩
  obtain ⟨result, ran, brings⟩ := bring_brings host (load host fuel) name (.str uri) found
  rw [ran]
  cases brings with
  | inline isDocument => exact absurd rfl (isDocument uri)
  | cyclic _ => simp
  | missed _ fetched =>
    have settled : ((fetch host uri).run.run found).1 ≠ .error .starved := fetch_ne_starved uri found
    rw [fetched] at settled
    simpa using settled
  | @got _ _ got left document outcome fresh fetched takes =>
    have read := reads.fetch_ok listed opens fresh fetched
    have onPath' : found.loading = path := opens.loading.trans onPath
    have kept : got.loading = found.loading := fetch_loading fetched
    have deeper : (got.whileLoading uri).loading = uri :: path :=
      congrArg (uri :: ·) (kept.trans onPath')
    rw [onPath'] at fresh
    refine takes.ne_starved fun inner valid => budgets inner ⟨fresh, document, read, valid⟩ _ deeper ?_
    exact reads.beyond listed opens (by rwa [onPath']) fetched valid

/-- There is a budget for an include of a document if there is one for loading that document. -/
theorem exists_affords_document {name : String} {reference : Value}
    (isDocument : ∀ uri, reference ≠ .str uri)
    (inside : ∀ inner, Procedure.ofValue reference = .ok inner →
      ∃ fuel, Budgets host documents path fuel inner) :
    ∃ fuel, Affords host documents path procedure fuel (name, reference) := by
  obtain ⟨fuel, budgets⟩ : ∃ fuel, ∀ inner, Procedure.ofValue reference = .ok inner →
      Budgets host documents path fuel inner :=
    exists_budget (fun _ _ valid valid' => Except.ok.inj (valid.symm.trans valid')) inside
  refine ⟨fuel, fun before after session found listed onPath reads opens => ?_⟩
  obtain ⟨result, ran, brings⟩ := bring_brings host (load host fuel) name reference found
  rw [ran]
  cases brings with
  | inline _ takes =>
    exact takes.ne_starved fun inner valid =>
      budgets inner valid found (opens.loading.trans onPath) (reads.inside listed opens valid)
  | cyclic => exact absurd rfl (isDocument _)
  | missed => exact absurd rfl (isDocument _)
  | got => exact absurd rfl (isDocument _)

/-- There is a budget for an include if there is one for loading what it names. -/
theorem exists_affords {entry : String × Value}
    (inside : ∀ inner, Procedure.ofValue entry.2 = .ok inner →
      ∃ fuel, Budgets host documents path fuel inner)
    (beyond : ∀ uri document inner, uri ∉ path → documents uri = .ok document →
      Procedure.ofValue document = .ok inner →
        ∃ fuel, Budgets host documents (uri :: path) fuel inner) :
    ∃ fuel, Affords host documents path procedure fuel entry := by
  obtain ⟨name, reference⟩ := entry
  by_cases isUri : ∃ uri, reference = .str uri
  · obtain ⟨uri, rfl⟩ := isUri
    exact exists_affords_uri (beyond uri)
  · exact exists_affords_document (fun uri same => isUri ⟨uri, same⟩) inside

/-- Where only finitely many URIs have documents, there is a budget under which loading comes to an
end, whatever the session. -/
theorem exists_budgets (answered : Finset String)
    (finite : ∀ uri, uri ∉ answered → ∃ fault, documents uri = .error fault)
    (path : List String) (procedure : Procedure) :
    ∃ fuel, Budgets host documents path fuel procedure := by
  -- Each URI that is entered leaves fewer to enter; between two of them documents get smaller.
  induction unread : (answered \ path.toFinset).card using Nat.strong_induction_on
    generalizing path procedure with
  | _ unread entering =>
    induction size : sizeOf procedure.includes using Nat.strong_induction_on
      generalizing procedure with
    | _ size nesting =>
      have each : ∀ entry ∈ procedure.includes,
          ∃ fuel, Affords host documents path procedure fuel entry := by
        intro entry listed
        refine exists_affords (fun inner valid => ?_) fun uri document inner fresh read valid => ?_
        · have smaller := Procedure.ofValue_includes_lt valid
          have within := List.sizeOf_lt_of_mem listed
          obtain ⟨name, document⟩ := entry
          simp only [Prod.mk.sizeOf_spec] at within smaller
          exact nesting (sizeOf inner.includes) (by omega) inner rfl
        · have known : uri ∈ answered := by
            by_contra unknown
            obtain ⟨fault, failed⟩ := finite uri unknown
            rw [read] at failed
            cases failed
          refine entering (answered \ (uri :: path).toFinset).card ?_ (uri :: path) inner rfl
          rw [← unread]
          refine Finset.card_lt_card ⟨?_, fun subset => ?_⟩
          · exact Finset.sdiff_subset_sdiff (Finset.Subset.refl _) (by simp)
          · have inside : uri ∈ answered \ path.toFinset := by simp [known, fresh]
            simpa using subset inside
      obtain ⟨fuel, affords⟩ := exists_common (fun _ _ _ le affords => affords.mono le) each
      exact ⟨fuel + 1, budgets_of_affords affords⟩

end

/-! ## The path -/

/-- While a procedure is loaded, a procedure comes to be loaded, be it itself. The paths are the URIs
whose documents are being loaded around each of them, innermost first.

* `self`: the procedure itself.
* `beyond`: one that is loaded for an include of a URI.
* `inside`: one that is loaded for an include of a document. -/
inductive Nests (host : Host ω π) : List String → Procedure → Session ω π →
    List String → Procedure → Session ω π → Prop
  | self {path : List String} {procedure : Procedure} {session : Session ω π} :
      Nests host path procedure session path procedure session
  | beyond {path deeper : List String} {procedure inner nested : Procedure}
      {session found got start : Session ω π} {before after : Scope} {name uri : String}
      {document : Value} :
      procedure.includes = before ++ (name, .str uri) :: after →
      Opens host procedure before session found → uri ∉ path →
      (fetch host uri).run.run found = (.ok document, got) →
      Procedure.ofValue document = .ok inner →
      Nests host (uri :: path) inner (got.whileLoading uri) deeper nested start →
      Nests host path procedure session deeper nested start
  | inside {path deeper : List String} {procedure inner nested : Procedure}
      {session found start : Session ω π} {before after : Scope} {name : String}
      {document : Value} :
      procedure.includes = before ++ (name, document) :: after →
      Opens host procedure before session found → Procedure.ofValue document = .ok inner →
      Nests host path inner found deeper nested start →
      Nests host path procedure session deeper nested start

/-- Loading a procedure comes to an include, with everything before it done. -/
def Meets (host : Host ω π) (path : List String) (procedure : Procedure) (session : Session ω π)
    (deeper : List String) (reference : Value) : Prop :=
  ∃ nested start before name after found, Nests host path procedure session deeper nested start ∧
    nested.includes = before ++ (name, reference) :: after ∧ Opens host nested before start found

theorem Opens.whileLoading {procedure : Procedure} {before : Scope} {session found got : Session ω π}
    {uri : String} {document : Value} (opens : Opens host procedure before session found)
    (fetched : (fetch host uri).run.run found = (.ok document, got)) :
    (got.whileLoading uri).loading = uri :: session.loading :=
  congrArg (uri :: ·) ((fetch_loading fetched).trans opens.loading)

/-- What a document in place comes to, the procedure comes to that includes it. -/
theorem Meets.inside {path deeper : List String} {procedure inner : Procedure}
    {session found : Session ω π} {before after : Scope} {name : String} {document reference : Value}
    (listed : procedure.includes = before ++ (name, document) :: after)
    (opens : Opens host procedure before session found)
    (valid : Procedure.ofValue document = .ok inner)
    (meets : Meets host path inner found deeper reference) :
    Meets host path procedure session deeper reference := by
  obtain ⟨nested, start, before', name', after', last, nests, rest⟩ := meets
  exact ⟨nested, start, before', name', after', last, .inside listed opens valid nests, rest⟩

/-- So it does with what the document of a URI comes to, if the URI is not on the path. -/
theorem Meets.beyond {path deeper : List String} {procedure inner : Procedure}
    {session found got : Session ω π} {before after : Scope} {name uri : String}
    {document reference : Value}
    (listed : procedure.includes = before ++ (name, .str uri) :: after)
    (opens : Opens host procedure before session found) (fresh : uri ∉ path)
    (fetched : (fetch host uri).run.run found = (.ok document, got))
    (valid : Procedure.ofValue document = .ok inner)
    (meets : Meets host (uri :: path) inner (got.whileLoading uri) deeper reference) :
    Meets host path procedure session deeper reference := by
  obtain ⟨nested, start, before', name', after', last, nests, rest⟩ := meets
  exact ⟨nested, start, before', name', after', last,
    .beyond listed opens fresh fetched valid nests, rest⟩

/-- Those URIs are being loaded that are on the path. -/
theorem Nests.loading {path deeper : List String} {procedure nested : Procedure}
    {session start : Session ω π} (nests : Nests host path procedure session deeper nested start)
    (same : session.loading = path) : start.loading = deeper := by
  induction nests with
  | self => exact same
  | beyond _ opens _ fetched _ _ ih => exact ih (by rw [opens.whileLoading fetched, same])
  | inside _ opens _ _ ih => exact ih (opens.loading.trans same)

/-- No URI is on the path twice. -/
theorem Nests.nodup {path deeper : List String} {procedure nested : Procedure}
    {session start : Session ω π} (nests : Nests host path procedure session deeper nested start)
    (apart : path.Nodup) : deeper.Nodup := by
  induction nests with
  | self => exact apart
  | beyond _ _ fresh _ _ _ ih => exact ih (List.nodup_cons.mpr ⟨fresh, apart⟩)
  | inside _ _ _ _ ih => exact ih apart

/-! ## Reported cycles -/

/-- A load fails as the include does that it comes to. -/
theorem Opens.fails {procedure : Procedure} {session found : Session ω π} {before after : Scope}
    {entry : String × Value} (listed : procedure.includes = before ++ entry :: after)
    (opens : Opens host procedure before session found) {failure : Failure}
    (fails : ∃ fuel left, (bring host (load host fuel) entry.1 entry.2).run.run found =
      (.error (.failed failure), left)) :
    ∃ left, Loads host procedure session (.error (.failed failure), left) := by
  obtain ⟨fuel, opened⟩ := opens
  obtain ⟨fuel', left, failed⟩ := fails
  have opened' := opening_extends (Nat.le_max_left fuel fuel') procedure before session
    (by rw [opened]; simp)
  have failed' := bring_extends (load_extends (Nat.le_max_right fuel fuel')) entry.1 entry.2 found
    (by rw [failed]; simp)
  refine ⟨left, ⟨max fuel fuel' + 1, ?_⟩, by simp⟩
  rw [load_split listed, opened', opened]
  simp only
  rw [failed', failed]

/-- A load fails as a load on the way does. -/
theorem Nests.fails {path deeper : List String} {procedure nested : Procedure}
    {session start left : Session ω π}
    (nests : Nests host path procedure session deeper nested start)
    (same : session.loading = path) {failure : Failure}
    (fails : Loads host nested start (.error (.failed failure), left)) :
    ∃ left, Loads host procedure session (.error (.failed failure), left) := by
  induction nests with
  | self => exact ⟨left, fails⟩
  | @beyond path _ procedure inner _ session found got _ before after name uri document listed opens
      fresh fetched valid _ ih =>
    have onPath : found.loading = path := opens.loading.trans same
    have onPath' : (got.whileLoading uri).loading = uri :: path := by
      rw [opens.whileLoading fetched, same]
    obtain ⟨left, ⟨fuel, ran⟩, -⟩ := ih onPath' fails
    refine opens.fails listed ⟨fuel, { left with loading := got.loading }, ?_⟩
    rw [bring_uri, if_neg (by rwa [List.contains_iff_mem, onPath]), fetched]
    simp only [valid]
    rw [ran]
  | @inside path _ procedure inner _ session found _ before after name document listed opens valid _
      ih =>
    obtain ⟨left, ⟨fuel, ran⟩, -⟩ := ih (opens.loading.trans same) fails
    refine opens.fails listed ⟨fuel, left, ?_⟩
    rw [bring_inline (Procedure.ne_uri_of_ofValue valid), valid]
    simp only
    rw [ran]

/-- An include of a URI on the path is reported as a cycle. -/
theorem Meets.fails {path deeper : List String} {procedure : Procedure} {session : Session ω π}
    {uri : String} (meets : Meets host path procedure session deeper (.str uri))
    (same : session.loading = path) (cyclic : uri ∈ deeper) :
    ∃ left, Loads host procedure session (.error (.failed ⟨.includeCycle uri, []⟩), left) := by
  obtain ⟨nested, start, before, name, after, found, nests, listed, opens⟩ := meets
  have onPath : found.loading = deeper := opens.loading.trans (nests.loading same)
  have refused : (bring host (load host 0) name (.str uri)).run.run found =
      (.error (.failed ⟨.includeCycle uri, []⟩), found) := by
    rw [bring_uri, if_pos (by rwa [List.contains_iff_mem, onPath])]
  obtain ⟨left, fails⟩ := opens.fails listed ⟨0, found, refused⟩
  exact nests.fails same fails

end Session

/-- No getter and no module reports an include cycle of its own. -/
structure Plugins.Honest (host : Host ω π) : Prop where
  get : ∀ plug uri call found, ((host.get plug uri []).run.run call).1 ≠ .error (.includeCycle found)
  install : ∀ plug registry found,
    ((host.install plug).run.run registry).1 ≠ .error (.includeCycle found)

namespace Library

theorem reader_honest (documents : String → Except Fault Value)
    (honest : ∀ uri found, documents uri ≠ .error (.includeCycle found)) :
    (reader documents).Honest where
  get _ uri call found := by
    rw [reader_get]
    exact honest uri found
  install _ _ _ failed := by cases failed

/-- Two documents that include each other. -/
def couple (uri : String) : Except Fault Value :=
  if uri = "mem:a" then .ok (.obj [("include", .obj [("b", .str "mem:b")])])
  else if uri = "mem:b" then .ok (.obj [("include", .obj [("a", .str "mem:a")])])
  else .error (.provider uri "not in mem")

theorem couple_finite {uri : String} (unknown : uri ∉ ({"mem:a", "mem:b"} : Finset String)) :
    ∃ fault, couple uri = .error fault := by
  simp only [Finset.mem_insert, Finset.mem_singleton, not_or] at unknown
  exact ⟨.provider uri "not in mem", by simp only [couple, if_neg unknown.1, if_neg unknown.2]⟩

theorem couple_honest (uri found : String) : couple uri ≠ .error (.includeCycle found) := by
  intro failed
  unfold couple at failed
  split at failed
  · cases failed
  · split at failed <;> cases failed

end Library

namespace Resource

theorem parseUri_fault {uri : String} {fault : Fault} (failed : parseUri uri = .error fault) :
    ∃ reason, fault = .invalidUri uri reason := by
  unfold parseUri at failed
  cases parsed : Url.parse uri with
  | ok url =>
    rw [parsed] at failed
    cases failed
  | error reason =>
    rw [parsed] at failed
    cases failed
    exact ⟨_, rfl⟩

theorem keyOf_fault {uri : String} {fault : Fault} (failed : keyOf uri = .error fault) :
    ∃ reason, fault = .invalidUri uri reason := by
  unfold keyOf at failed
  cases parsed : parseUri uri with
  | error reason =>
    rw [parsed] at failed
    cases failed
    exact parseUri_fault parsed
  | ok url =>
    rw [parsed] at failed
    let key := if url.path.isEmpty then url.host.getD "" else url.path
    replace failed : (if key.isEmpty then throw (.invalidUri uri .noVariable) >>= fun (_ : Unit) =>
        pure key else pure key) = (.error fault : Except Fault String) := failed
    generalize key = key at failed
    split at failed
    · cases failed
      exact ⟨_, rfl⟩
    · cases failed

end Resource

theorem Registry.getter_fault {registry : Registry π} {uri : String} {fault : Fault}
    (failed : registry.getter uri = .error fault) :
    (∃ reason, fault = .invalidUri uri reason) ∨
      ∃ scheme media, fault = .missingPlugin .getter scheme media := by
  unfold getter at failed
  cases parsed : Resource.parseUri uri with
  | error reason =>
    rw [parsed] at failed
    cases failed
    exact .inl (Resource.parseUri_fault parsed)
  | ok url =>
    rw [parsed] at failed
    replace failed : registry.plugin .getter url.scheme (some (Media.ofPath url.path).name) =
      .error fault := failed
    unfold plugin at failed
    split at failed
    · cases failed
    · cases failed
      exact .inr ⟨_, _, rfl⟩

namespace Session

theorem failed_of_mapError {α : Type} {result : Except Fault α} {fault : Fault}
    (failed : result.mapError (fun fault => Stop.failed ⟨fault, []⟩) =
      .error (.failed ⟨fault, []⟩)) : result = .error fault := by
  cases result with
  | ok a => cases failed
  | error reason =>
    cases failed
    rfl

section

variable (honest : host.Honest) {uri : String} {session : Session ω π}

include honest

theorem importModule_honest (name : String) :
    ((importModule host name).run.run session).1 ≠
      .error (.failed ⟨.includeCycle uri, []⟩) := by
  intro failed
  rw [importModule_run] at failed
  split at failed
  · cases failed
  · next plug _ => exact honest.install plug _ uri (failed_of_mapError failed)

theorem get_honest (plugin : Plugin π) (place : String) (call : Call ω π) :
    ((plugin.get host place []).run.run call).1 ≠ .error (.includeCycle uri) := by
  rcases plugin with reach | plug
  · intro failed
    replace failed : ((do
        let key ← Act.ofExcept (Resource.keyOf place)
        return ((← Act.scope reach).get? key).getD .null : Act ω π Value).run.run call).1 =
          .error (.includeCycle uri) := failed
    rw [run_bind] at failed
    cases read : Resource.keyOf place with
    | error fault =>
      rw [read] at failed
      obtain ⟨reason, rfl⟩ := Resource.keyOf_fault read
      cases failed
    | ok key =>
      rw [read] at failed
      cases reach <;> cases failed
  · exact honest.get plug place call uri

theorem fetch_honest (place : String) :
    ((fetch host place).run.run session).1 ≠ .error (.failed ⟨.includeCycle uri, []⟩) := by
  intro failed
  rw [Task.fetch_run] at failed
  split at failed
  · next fault missing =>
    cases failed
    rcases Registry.getter_fault missing with ⟨_, same⟩ | ⟨_, _, same⟩ <;> cases same
  · next plugin _ => exact get_honest honest plugin place _ (failed_of_mapError failed)

/-- A cycle is reported where the load comes to an include of a URI on the path. -/
theorem meets_of_cycle {fuel : Nat} {procedure : Procedure} {left : Session ω π}
    (failed : (load host fuel procedure).run.run session =
      (.error (.failed ⟨.includeCycle uri, []⟩), left)) :
    ∃ deeper, Meets host session.loading procedure session deeper (.str uri) ∧ uri ∈ deeper := by
  induction fuel generalizing procedure session left with
  | zero => cases failed
  | succ fuel ih =>
    rcases load_stopped failed with imports | ⟨before, ⟨name, reference⟩, after, found, listed,
      opened, stopped⟩
    · obtain ⟨_, module, _, ready, _, _, stopped⟩ := forM_stopped imports
      exact absurd (congrArg Prod.fst stopped) (importModule_honest honest module)
    have opens : Opens host procedure before session found := ⟨fuel, opened⟩
    cases Brings.of_run stopped with
    | cyclic cyclic =>
      rw [opens.loading] at cyclic
      exact ⟨session.loading,
        ⟨procedure, session, before, name, after, left, .self, listed, opens⟩, cyclic⟩
    | missed _ fetched => exact absurd (congrArg Prod.fst fetched) (fetch_honest honest _)
    | got fresh fetched takes =>
      rw [opens.loading] at fresh
      cases takes with
      | stopped valid ran =>
        obtain ⟨deeper, meets, cyclic⟩ := ih ran
        rw [opens.whileLoading fetched] at meets
        exact ⟨deeper, meets.beyond listed opens fresh fetched valid, cyclic⟩
    | inline _ takes =>
      cases takes with
      | stopped valid ran =>
        obtain ⟨deeper, meets, cyclic⟩ := ih ran
        rw [opens.loading] at meets
        exact ⟨deeper, meets.inside listed opens valid, cyclic⟩

end

/-- Where only finitely many URIs have documents, loading comes to an end. It reports a cycle through
a URI exactly if it comes to an include of that URI while the URI is being loaded; at any time those
URIs are being loaded that are on the path, each of them once, and afterwards those that were so
before. -/
theorem load_reports_cycles (honest : host.Honest) {documents : String → Except Fault Value}
    (answered : Finset String) (finite : ∀ uri, uri ∉ answered → ∃ fault, documents uri = .error fault)
    (procedure : Procedure) (session : Session ω π)
    (reads : ReadsFrom host documents procedure session) (apart : session.loading.Nodup) :
    (∃ result, Loads host procedure session result) ∧
    (∀ uri, (∃ left, Loads host procedure session
        (.error (.failed ⟨.includeCycle uri, []⟩), left)) ↔
      ∃ path, Meets host session.loading procedure session path (.str uri) ∧ uri ∈ path) ∧
    (∀ path nested start, Nests host session.loading procedure session path nested start →
      path.Nodup ∧ start.loading = path ∧
        ∀ fuel includes,
          ((opening host fuel nested includes).run.run start).2.loading = path) ∧
    ∀ fuel, ((load host fuel procedure).run.run session).2.loading = session.loading := by
  refine ⟨?_, fun uri => ⟨?_, ?_⟩, fun path nested start nests => ?_,
    fun fuel => load_loading fuel procedure session⟩
  · obtain ⟨fuel, budgets⟩ : ∃ fuel, Budgets host documents session.loading fuel procedure :=
      exists_budgets answered finite session.loading procedure
    exact ⟨_, ⟨fuel, rfl⟩, budgets session rfl reads⟩
  · rintro ⟨left, ⟨fuel, failed⟩, -⟩
    exact meets_of_cycle honest failed
  · rintro ⟨path, meets, cyclic⟩
    exact meets.fails rfl cyclic
  · have onPath := nests.loading rfl
    exact ⟨nests.nodup apart, onPath, fun fuel includes =>
      (opening_loading fuel nested includes start).trans onPath⟩

/-- Two documents that include each other are a cycle through the first. -/
theorem load_reports_cycles_couple :
    ∃ left, Loads (Library.reader Library.couple) { includes := [("a", .str "mem:a")] }
      Library.session (.error (.failed ⟨.includeCycle "mem:a", []⟩), left) := by
  obtain ⟨-, exactly, -⟩ := load_reports_cycles
    (Library.reader_honest Library.couple Library.couple_honest) _ (fun _ => Library.couple_finite)
    { includes := [("a", .str "mem:a")] } Library.session
    (Library.reader_readsFrom Library.couple _ rfl) List.nodup_nil
  refine (exactly "mem:a").mpr ⟨["mem:b", "mem:a"], ?_, by simp⟩
  have first : (fetch (Library.reader Library.couple) "mem:a").run.run Library.session =
      (.ok (.obj [("include", .obj [("b", .str "mem:b")])]), Library.session) := by
    cbv
  have second : (fetch (Library.reader Library.couple) "mem:b").run.run
      (Library.session.whileLoading "mem:a") =
      (.ok (.obj [("include", .obj [("a", .str "mem:a")])]), Library.session.whileLoading "mem:a") := by
    cbv
  have nests : Nests (Library.reader Library.couple) [] { includes := [("a", .str "mem:a")] }
      Library.session ["mem:b", "mem:a"] { includes := [("a", .str "mem:a")] }
      ((Library.session.whileLoading "mem:a").whileLoading "mem:b") :=
    .beyond (List.nil_append _).symm ⟨0, rfl⟩ (by simp) first (by cbv)
      (.beyond (List.nil_append _).symm ⟨0, rfl⟩ (by simp) second (by cbv) .self)
  exact ⟨_, _, [], "a", [], _, nests, rfl, ⟨0, rfl⟩⟩

end Session

end DocMachine
