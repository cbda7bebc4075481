import DocMachine.Proofs.Invariant
import DocMachine.Session

/-!
# Loading

Before a document runs, its imports and includes are loaded: modules are installed, documents are
fetched, and procedures are registered. All this happens outside of any activation.

* `Task.Parts` lists what loading does in turn, and `Session.load_parts` derives from it whatever is
  to be shown of loading as a whole. Where the registry may change in any way, `Task.Closed` is a
  simpler list.
* `Session.Fetches` is a document that loading comes to fetch. `Task.PartsAt` and `Session.load_at` ask
  a property of such fetches only.
* `Task.Keeps`: the task keeps an invariant of the session.
* `Task.IsOutside`: the task fails outside of any activation.

Results: `Session.load_lasting`, `Session.load_outside`, and `Session.exec_run`, which tells what
running a document comes to.
-/

namespace DocMachine

variable {ω π : Type} {host : Host ω π}

/-- `P` is a property of the building blocks of loading, and sequencing keeps it. -/
structure Task.Closed (host : Host ω π) (P : (α : Type) → Task ω π α → Prop) : Prop where
  pure : ∀ {α : Type} (a : α), P α (pure a)
  fail : ∀ {α : Type} (fault : Fault), P α (Task.fail fault)
  starve : P Unit (throw .starved)
  bind : ∀ {α β : Type} {task : Task ω π α} {rest : α → Task ω π β},
    P α task → (∀ a, P β (rest a)) → P β (task >>= rest)
  look : ∀ {α : Type} {rest : Session ω π → Task ω π α},
    (∀ session, P α (rest session)) → P α (get >>= rest)
  onRegistry : ∀ change, P Unit (Task.onRegistry change)
  fetch : ∀ uri, P Value (Session.fetch host uri)
  whileLoading : ∀ uri {task}, P Unit task → P Unit (Task.whileLoading uri task)

namespace Task.Closed

variable {P : (α : Type) → Task ω π α → Prop} (closed : Closed host P)

include closed

theorem ofExcept {α : Type} (result : Except Fault α) : P α (Task.ofExcept result) := by
  cases result with
  | ok a => exact closed.pure a
  | error fault => exact closed.fail fault

theorem importModule (name : String) : P Unit (Session.importModule host name) := by
  refine closed.look fun session => ?_
  simp only
  split
  · exact closed.fail _
  · exact closed.bind (closed.onRegistry _) fun _ => closed.ofExcept _

end Task.Closed

/-- `P` is a property of what loading does in turn, and sequencing keeps it. -/
structure Task.Parts (host : Host ω π) (P : (α : Type) → Task ω π α → Prop) : Prop where
  pure : ∀ {α : Type} (a : α), P α (pure a)
  fail : ∀ {α : Type} (fault : Fault), P α (Task.fail fault)
  starve : P Unit (throw .starved)
  bind : ∀ {α β : Type} {task : Task ω π α} {rest : α → Task ω π β},
    P α task → (∀ a, P β (rest a)) → P β (task >>= rest)
  look : ∀ {α : Type} {rest : Session ω π → Task ω π α},
    (∀ session, P α (rest session)) → P α (get >>= rest)
  importModule : ∀ name, P Unit (Session.importModule host name)
  register : ∀ name procedure,
    P Unit (Task.onRegistry fun registry => registry.withProcedure name procedure)
  fetch : ∀ uri, P Value (Session.fetch host uri)
  whileLoading : ∀ uri {task}, P Unit task → P Unit (Task.whileLoading uri task)

theorem Task.Closed.parts {P : (α : Type) → Task ω π α → Prop} (closed : Closed host P) :
    Parts host P where
  pure := closed.pure
  fail := closed.fail
  starve := closed.starve
  bind := closed.bind
  look := closed.look
  importModule := closed.importModule
  register _ _ := closed.onRegistry _
  fetch := closed.fetch
  whileLoading := closed.whileLoading

namespace Task.Parts

variable {P : (α : Type) → Task ω π α → Prop} (parts : Parts host P)

include parts

theorem forM {α : Type} {task : α → Task ω π Unit} (each : ∀ a, P Unit (task a)) (items : List α) :
    P Unit (items.forM task) := by
  induction items with
  | nil => exact parts.pure ()
  | cons item rest ih => exact parts.bind (each item) fun _ => ih

theorem included (name : String) (document : Value) :
    P Procedure (Session.included name document) := by
  unfold Session.included
  cases Procedure.ofValue document with
  | ok procedure => exact parts.pure procedure
  | error fault => exact parts.fail _

theorem bring {load : Procedure → Task ω π Unit} (loads : ∀ inner, P Unit (load inner))
    (name : String) (reference : Value) : P Unit (Session.bring host load name reference) := by
  unfold Session.bring
  split
  · next uri =>
    have fetched : P Unit (do
        let inner ← Session.included name (← Session.fetch host uri)
        Task.whileLoading uri (load inner)
        Task.onRegistry fun registry => registry.withProcedure name inner) :=
      parts.bind (parts.fetch uri) fun document => parts.bind (parts.included name document)
        fun inner => parts.bind (parts.whileLoading uri (loads inner)) fun _ =>
          parts.register name inner
    refine parts.look fun session => ?_
    split
    · exact parts.bind (parts.fail _) fun _ => fetched
    · exact fetched
  · exact parts.bind (parts.included name _) fun inner =>
      parts.bind (loads inner) fun _ => parts.register name inner

end Task.Parts

/-- What the parts of loading have, and sequencing keeps, loading has. -/
theorem Session.load_parts {P : (α : Type) → Task ω π α → Prop} (parts : Task.Parts host P)
    (fuel : Nat) (procedure : Procedure) : P Unit (load host fuel procedure) := by
  induction fuel generalizing procedure with
  | zero => exact parts.starve
  | succ fuel ih =>
    exact parts.bind (parts.forM parts.importModule _) fun _ =>
      parts.forM (fun (entry : String × Value) => parts.bring ih entry.1 entry.2) _

/-- What the building blocks of loading have, and sequencing keeps, loading has. -/
theorem Session.load_closed {P : (α : Type) → Task ω π α → Prop} (closed : Task.Closed host P)
    (fuel : Nat) (procedure : Procedure) : P Unit (load host fuel procedure) :=
  load_parts closed.parts fuel procedure

/-! ## Invariants -/

/-- What gets a document that is loaded from a URI. -/
def Registry.getter (registry : Registry π) (uri : String) : Except Fault (Plugin π) := do
  let url ← Resource.parseUri uri
  registry.plugin .getter url.scheme (some (Media.ofPath url.path).name)

/-- The task keeps an invariant of the session. -/
def Task.Keeps {α : Type} (I : Session ω π → Prop) (task : Task ω π α) : Prop :=
  ∀ session, I session → I (task.run.run session).2

/-- If the task fails, it does so outside of any activation. -/
def Task.IsOutside {α : Type} (task : Task ω π α) : Prop :=
  ∀ session failure, (task.run.run session).1 = .error (.failed failure) → failure.sites = []

namespace Task

variable {α β : Type} {I : Session ω π → Prop}

theorem whileLoading_run (uri : String) (task : Task ω π Unit) (session : Session ω π) :
    (whileLoading uri task).run.run session =
      let ran := task.run.run { session with loading := uri :: session.loading }
      (ran.1, { ran.2 with loading := session.loading }) := by
  let begun : Session ω π := { session with loading := uri :: session.loading }
  have lifted : (ExceptT.lift task.run : Task ω π _).run.run begun =
      (.ok (task.run.run begun).1, (task.run.run begun).2) := rfl
  unfold whileLoading
  rw [run_bind, show (get : Task ω π _).run.run session = (.ok session, session) from rfl]
  simp only
  rw [run_bind, show (modify fun session' => { session' with loading := uri :: session.loading } :
    Task ω π PUnit).run.run session = (.ok (), begun) from rfl]
  simp only
  rw [run_bind, lifted]
  cases (task.run.run begun).1 <;> rfl

/-- A fetch gets a document from a plugin, and changes nothing but by the plugin. -/
theorem fetch_run (uri : String) (session : Session ω π) :
    (Session.fetch host uri).run.run session =
      match session.machine.registry.getter uri with
      | .error fault => (.error (.failed ⟨fault, []⟩), session)
      | .ok plugin =>
        let ran := (plugin.get host uri []).run.run ⟨session.machine, session.root, "get"⟩
        (ran.1.mapError fun fault => .failed ⟨fault, []⟩,
          { session with machine := ran.2.machine, root := ran.2.frame }) := by
  unfold Session.fetch
  cases parsed : Resource.parseUri uri with
  | error fault =>
    rw [Registry.getter, parsed]
    rfl
  | ok url =>
    have getter : session.machine.registry.getter uri = session.machine.registry.plugin .getter
        url.scheme (some (Media.ofPath url.path).name) := by
      rw [Registry.getter, parsed]
      rfl
    rw [getter, run_bind,
      show (ofExcept (.ok url) : Task ω π _).run.run session = (.ok url, session) from rfl]
    simp only
    rw [run_bind, show (get : Task ω π _).run.run session = (.ok session, session) from rfl]
    simp only
    cases found : session.machine.registry.plugin .getter url.scheme
        (some (Media.ofPath url.path).name) with
    | error fault => rfl
    | ok plugin =>
      rw [run_bind,
        show (ofExcept (.ok plugin) : Task ω π _).run.run session = (.ok plugin, session) from rfl]
      simp only
      cases (plugin.get host uri []).run.run ⟨session.machine, session.root, "get"⟩ with
      | mk outcome call => cases outcome <;> rfl

theorem Keeps.bind {task : Task ω π α} {rest : α → Task ω π β} (first : task.Keeps I)
    (second : ∀ a, (rest a).Keeps I) : (task >>= rest).Keeps I := by
  intro session holds
  have kept := first session holds
  rw [run_bind]
  cases ran : task.run.run session with
  | mk outcome left =>
    rw [ran] at kept
    cases outcome with
    | ok a => exact second a left kept
    | error stop => exact kept

theorem Keeps.closed (registry : ∀ session change, I session → I { session with
      machine := { session.machine with registry := change } })
    (loading : ∀ session uris, I session → I { session with loading := uris })
    (fetch : ∀ uri, (Session.fetch host uri).Keeps I) :
    Closed host fun _ (task : Task ω π _) => task.Keeps I where
  pure _ _ holds := holds
  fail _ _ holds := holds
  starve _ holds := holds
  bind := Keeps.bind
  look each session holds := each session session holds
  onRegistry change session holds := registry session _ holds
  fetch := fetch
  whileLoading uri task keeps session holds := by
    rw [whileLoading_run]
    exact loading _ _ (keeps _ (loading session _ holds))

theorem IsOutside.closed : Closed host fun _ (task : Task ω π _) => task.IsOutside where
  pure _ _ _ failed := by cases failed
  fail _ _ _ failed := by
    cases failed
    rfl
  starve _ _ failed := by cases failed
  bind {_ _ task rest} first second session failure failed := by
    have outside := first session
    rw [run_bind] at failed
    cases ran : task.run.run session with
    | mk outcome left =>
      rw [ran] at failed outside
      cases outcome with
      | ok a => exact second a left failure failed
      | error stop =>
        cases failed
        exact outside failure rfl
  look each session := each session session
  onRegistry _ _ _ failed := by cases failed
  fetch uri session failure failed := by
    rw [fetch_run] at failed
    cases found : session.machine.registry.getter uri with
    | error fault =>
      rw [found] at failed
      cases failed
      rfl
    | ok plugin =>
      simp only [found] at failed
      generalize ((plugin.get host uri []).run.run ⟨session.machine, session.root, "get"⟩).1 = got
        at failed
      cases got with
      | ok value => cases failed
      | error fault =>
        cases failed
        rfl
  whileLoading uri task outside session failure failed := by
    rw [whileLoading_run] at failed
    exact outside _ failure failed

end Task

namespace Session

/-- The lasting part of a session. -/
def lasting (session : Session ω π) : Lasting :=
  Call.lasting ⟨session.machine, session.root, ""⟩

theorem get_facade (facade : host.Facade) (plugin : Plugin π) (uri : String) (scope : Scope) :
    (plugin.get host uri scope).Facade := by
  rcases plugin with reach | plug
  · exact Act.Facade.blocks.closed.getVariable reach uri scope
  · exact facade.get plug uri scope

/-- What acts keep that work through the façade, and does not depend on the registry, all building blocks
of loading keep. -/
theorem facade_closed (facade : host.Facade) {I : Machine ω π → Frame → Prop}
    (keeps : ∀ act : Act ω π Value, act.Facade → act.Keeps fun call => I call.machine call.frame)
    (registry : ∀ machine frame registry, I machine frame → I { machine with registry } frame) :
    Task.Closed host fun _ (task : Task ω π _) =>
      task.Keeps fun session => I session.machine session.root := by
  refine Task.Keeps.closed (fun _ _ => registry _ _ _) (fun _ _ holds => holds) ?_
  intro uri session holds
  rw [Task.fetch_run]
  cases session.machine.registry.getter uri with
  | error fault => exact holds
  | ok plugin => exact keeps _ (get_facade facade plugin uri []) _ holds

theorem lasting_closed (facade : host.Facade) (lasting : Lasting) :
    Task.Closed host fun _ (task : Task ω π _) => task.Keeps (·.lasting = lasting) :=
  facade_closed (I := fun machine root => Call.lasting ⟨machine, root, ""⟩ = lasting) facade
    (fun _ act => act.keeps_lasting lasting) fun _ _ _ holds => holds

/-- Loading changes neither the root activation nor the machine's trace. -/
theorem load_lasting (facade : host.Facade) (fuel : Nat) (procedure : Procedure)
    (session : Session ω π) :
    ((load host fuel procedure).run.run session).2.lasting = session.lasting :=
  load_closed (lasting_closed facade session.lasting) fuel procedure session rfl

/-- Loading fails outside of any activation. -/
theorem load_outside (fuel : Nat) (procedure : Procedure) : (load host fuel procedure).IsOutside :=
  load_closed Task.IsOutside.closed fuel procedure

/-- What loading a procedure begins with: its imports, and the first of its includes. -/
def opening (host : Host ω π) (fuel : Nat) (procedure : Procedure) (includes : Scope) :
    Task ω π Unit := do
  procedure.imports.forM (importModule host)
  includes.forM fun entry => bring host (load host fuel) entry.1 entry.2

/-- What the parts of loading have, its beginning has. -/
theorem opening_parts {P : (α : Type) → Task ω π α → Prop} (parts : Task.Parts host P)
    (fuel : Nat) (procedure : Procedure) (includes : Scope) :
    P Unit (opening host fuel procedure includes) :=
  parts.bind (parts.forM parts.importModule _) fun _ =>
    parts.forM (fun (entry : String × Value) => parts.bring (load_parts parts fuel) entry.1 entry.2) _

/-! ## Fetches -/

/-- Loading a procedure comes to fetch a document, in the session `found`.

* `here`: the procedure includes it by its URI.
* `beyond`: what was fetched includes it in turn.
* `inside`: a procedure within the procedure includes it. -/
inductive Fetches (host : Host ω π) :
    Nat → Procedure → Session ω π → String → Session ω π → Prop
  | here {fuel : Nat} {procedure : Procedure} {session left : Session ω π} {before after : Scope}
      {name uri : String} :
      procedure.includes = before ++ (name, .str uri) :: after →
      (opening host fuel procedure before).run.run session = (.ok (), left) →
      left.loading.contains uri = false → Fetches host (fuel + 1) procedure session uri left
  | beyond {fuel : Nat} {procedure inner : Procedure} {session left got found : Session ω π}
      {before after : Scope} {name first uri : String} {document : Value} :
      procedure.includes = before ++ (name, .str first) :: after →
      (opening host fuel procedure before).run.run session = (.ok (), left) →
      left.loading.contains first = false →
      (fetch host first).run.run left = (.ok document, got) →
      Procedure.ofValue document = .ok inner →
      Fetches host fuel inner { got with loading := first :: got.loading } uri found →
      Fetches host (fuel + 1) procedure session uri found
  | inside {fuel : Nat} {procedure inner : Procedure} {session left found : Session ω π}
      {before after : Scope} {name uri : String} {document : Value} :
      procedure.includes = before ++ (name, document) :: after →
      (opening host fuel procedure before).run.run session = (.ok (), left) →
      Procedure.ofValue document = .ok inner → Fetches host fuel inner left uri found →
      Fetches host (fuel + 1) procedure session uri found

theorem included_run {name : String} {document : Value} {session left : Session ω π}
    {inner : Procedure} (read : (included name document).run.run session = (.ok inner, left)) :
    Procedure.ofValue document = .ok inner ∧ left = session := by
  unfold included at read
  cases valid : Procedure.ofValue document with
  | error fault =>
    rw [valid] at read
    cases read
  | ok procedure =>
    rw [valid] at read
    cases read
    exact ⟨rfl, rfl⟩

end Session

/-- `P` is a property of what loading does in turn, in the session in which it is done, and sequencing
keeps it. Fetches are left out. -/
structure Task.PartsAt (host : Host ω π) (P : (α : Type) → Task ω π α → Session ω π → Prop) :
    Prop where
  pure : ∀ {α : Type} (a : α) session, P α (pure a) session
  fail : ∀ {α : Type} (fault : Fault) session, P α (Task.fail fault) session
  starve : ∀ session, P Unit (throw .starved) session
  bind : ∀ {α β : Type} {task : Task ω π α} {rest : α → Task ω π β} {session : Session ω π},
    P α task session → (∀ a left, task.run.run session = (.ok a, left) → P β (rest a) left) →
      P β (task >>= rest) session
  guard : ∀ uri {stopped rest : Task ω π Unit} {session : Session ω π},
    P Unit (if session.loading.contains uri then stopped else rest) session →
      P Unit (get >>= fun session => if session.loading.contains uri then stopped else rest) session
  importModule : ∀ name session, P Unit (Session.importModule host name) session
  register : ∀ name procedure session,
    P Unit (Task.onRegistry fun registry => registry.withProcedure name procedure) session
  whileLoading : ∀ uri {task : Task ω π Unit} {session : Session ω π},
    P Unit task { session with loading := uri :: session.loading } →
      P Unit (Task.whileLoading uri task) session

namespace Task.PartsAt

variable {P : (α : Type) → Task ω π α → Session ω π → Prop} (parts : PartsAt host P)

include parts

/-- What is done for each item of a list has the property if it has it after the items before. -/
theorem forM {α : Type} {task : α → Task ω π Unit} {items : List α} {session : Session ω π}
    (each : ∀ before item after left, items = before ++ item :: after →
      (before.forM task).run.run session = (.ok (), left) → P Unit (task item) left) :
    P Unit (items.forM task) session := by
  induction items generalizing session with
  | nil => exact parts.pure () session
  | cons item rest ih =>
    refine parts.bind (each [] item rest session rfl rfl) fun _ left ran => ih ?_
    intro before next after later split reached
    refine each (item :: before) next after later (by rw [split]; rfl) ?_
    show (task item >>= fun _ => before.forM task).run.run session = _
    rw [run_bind, ran]
    exact reached

theorem included (name : String) (document : Value) (session : Session ω π) :
    P Procedure (Session.included name document) session := by
  unfold Session.included
  cases Procedure.ofValue document with
  | ok procedure => exact parts.pure procedure session
  | error fault => exact parts.fail _ session

/-- Bringing in a procedure has the property if fetching and loading it have it. -/
theorem bring {load : Procedure → Task ω π Unit} {name : String} {reference : Value}
    {session : Session ω π}
    (fetches : ∀ uri, reference = .str uri → session.loading.contains uri = false →
      P Value (Session.fetch host uri) session)
    (beyond : ∀ uri document inner got, reference = .str uri →
      session.loading.contains uri = false →
      (Session.fetch host uri).run.run session = (.ok document, got) →
      Procedure.ofValue document = .ok inner →
      P Unit (load inner) { got with loading := uri :: got.loading })
    (inside : ∀ inner, Procedure.ofValue reference = .ok inner → P Unit (load inner) session) :
    P Unit (Session.bring host load name reference) session := by
  unfold Session.bring
  split
  · next uri =>
    refine parts.guard uri ?_
    split
    · next cyclic => exact parts.bind (parts.fail _ session) fun _ _ ran => by cases ran
    · next fresh =>
      rw [Bool.not_eq_true] at fresh
      refine parts.bind (fetches uri rfl fresh) ?_
      intro document got fetched
      refine parts.bind (parts.included name document got) fun inner left read => ?_
      obtain ⟨valid, rfl⟩ := Session.included_run read
      exact parts.bind
        (parts.whileLoading uri (beyond uri document inner left rfl fresh fetched valid))
        fun _ _ _ => parts.register name inner _
  · refine parts.bind (parts.included name _ session) fun inner left read => ?_
    obtain ⟨valid, rfl⟩ := Session.included_run read
    exact parts.bind (inside inner valid) fun _ _ _ => parts.register name inner _

end Task.PartsAt

namespace Session

/-- What the parts of loading have, and the fetches that it comes to, loading has. -/
theorem load_at {P : (α : Type) → Task ω π α → Session ω π → Prop} (parts : Task.PartsAt host P)
    (fuel : Nat) {procedure : Procedure} {session : Session ω π}
    (fetches : ∀ uri found, Fetches host fuel procedure session uri found →
      P Value (fetch host uri) found) : P Unit (load host fuel procedure) session := by
  induction fuel generalizing procedure session with
  | zero => exact parts.starve session
  | succ fuel ih =>
    refine parts.bind (parts.forM fun _ name _ left _ _ => parts.importModule name left)
      fun _ ready imported => parts.forM ?_
    -- What an include fetches depends on the modules and includes before it.
    intro before entry after left split brought
    have opened : (opening host fuel procedure before).run.run session = (.ok (), left) := by
      rw [opening, run_bind, imported]
      exact brought
    refine parts.bring ?_ ?_ ?_
    · intro uri isUri fresh
      have listed : procedure.includes = before ++ (entry.1, .str uri) :: after := by
        rw [split, ← isUri]
      exact fetches uri left (.here listed opened fresh)
    · intro uri document inner got isUri fresh fetched valid
      have listed : procedure.includes = before ++ (entry.1, .str uri) :: after := by
        rw [split, ← isUri]
      exact ih fun uri' found reached =>
        fetches uri' found (.beyond listed opened fresh fetched valid reached)
    · intro inner valid
      exact ih fun uri' found reached =>
        fetches uri' found (.inside split opened valid reached)

/-! ## Documents -/

theorem runRoot_run (fuel : Nat) (ops : List Value) (session : Session ω π) :
    (runRoot host fuel ops).run.run session =
      let run := (session.root.start ops).run host fuel session.machine
      (run.outcome, { session with machine := run.machine, root := run.frame }) := by
  unfold runRoot
  rw [run_bind, show (get : Task ω π _).run.run session = (.ok session, session) from rfl]
  simp only
  rw [run_bind]
  cases ((session.root.start ops).run host fuel session.machine).outcome <;> rfl

/-- The frame that runs the ops of a procedure at the root. -/
def entry (session : Session ω π) (procedure : Procedure) : Frame :=
  { session.root with locals := session.root.locals.extend procedure.set }.start procedure.run

/-- What running a procedure comes to: loading stops it, or its ops are run. -/
theorem execProcedure_run (fuel : Nat) (procedure : Procedure) (session : Session ω π) :
    (execProcedure host fuel procedure).run.run session =
      match (load host fuel procedure).run.run session with
      | (.error stop, left) => (.error stop, left)
      | (.ok _, loaded) =>
        let run := (loaded.entry procedure).run host fuel loaded.machine
        (run.outcome, { loaded with machine := run.machine, root := run.frame }) := by
  unfold execProcedure
  rw [run_bind]
  cases (load host fuel procedure).run.run session with
  | mk outcome loaded =>
    cases outcome with
    | error stop => rfl
    | ok _ => exact runRoot_run fuel procedure.run _

/-- What running a document comes to: it is refused, or it is a procedure and that is run. -/
theorem exec_run (fuel : Nat) (document : Value) (session : Session ω π) :
    (exec host fuel document).run.run session =
      match Procedure.ofValue document with
      | .error fault => (.error (.failed ⟨.invalidProcedure fault, []⟩), session)
      | .ok procedure =>
        match (load host fuel procedure).run.run session with
        | (.error stop, left) => (.error stop, left)
        | (.ok _, loaded) =>
          let run := (loaded.entry procedure).run host fuel loaded.machine
          (run.outcome, { loaded with machine := run.machine, root := run.frame }) := by
  unfold exec
  cases Procedure.ofValue document with
  | error fault => rfl
  | ok procedure => exact execProcedure_run fuel procedure session

/-- What evaluating a line comes to. -/
theorem eval_run (fuel : Nat) (line : String) (session : Session ω π) :
    (eval host fuel line).run.run session =
      if (Text.trim line).isEmpty then (.ok (), session)
      else
        match importOf? (Text.trim line) with
        | some name => (importModule host name).run.run session
        | none =>
          if isProcedureUri (Text.trim line) then
            match (fetch host (Text.trim line)).run.run session with
            | (.ok document, got) => (exec host fuel document).run.run got
            | (.error stop, left) => (.error stop, left)
          else
            match parseLiteral? (Text.trim line) with
            | some op => (runRoot host fuel [op]).run.run session
            | none => (.error (.failed ⟨.codec .json, []⟩), session) := by
  unfold eval
  simp only
  generalize Text.trim line = text
  by_cases blank : text.isEmpty = true
  · rw [if_pos blank, if_pos blank]
    rfl
  · rw [if_neg blank, if_neg blank]
    cases importOf? text with
    | some name => rfl
    | none =>
      simp only
      by_cases isUri : isProcedureUri text = true
      · rw [if_pos isUri, if_pos isUri, run_bind]
        cases (fetch host text).run.run session with
        | mk outcome left => cases outcome <;> rfl
      · rw [if_neg isUri, if_neg isUri]
        cases parseLiteral? text <;> rfl

end Session

end DocMachine
