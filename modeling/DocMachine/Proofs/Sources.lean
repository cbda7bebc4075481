import DocMachine.Proofs.Requests
import DocMachine.Proofs.Unseen
import DocMachine.Standard

/-!
# Where documents come from

Documents are read from variables, from files and from the web. The files note the places that were
looked at, and the web the requests that were made, but no handler asks for either. So reading
documents changes nothing that is seen, and it gives the same again and again.

* `Act.Quiet`: the act changes nothing but what no handler sees, and does the same whatever the
  registry.
* `Session.documents`: what the getters of a session get.
* `Registry.Steady`: importing a module leaves the getters and the modules.
* `World.Alike`: the same files, servers and guests, whatever is noted of them.

Results:
1. `Session.fetches_documents`: if getters are quiet and the registry is steady, what a load fetches is
   what the session's getters get at first, and it is fetched unseen.
2. `Standard.host_overlooks`: the handlers of standard machines do the same in worlds that are alike, if
   those of the guests do.
3. `Standard.fetches_documents`: loads of standard machines without guests fetch as in 1, unless a module
   can be imported that brings new getters.
-/

namespace DocMachine

/-! ## Quiet getters -/

section

variable {ω π : Type} {host : Host ω π} {alike : ω → ω → Prop}

/-- The call with another registry. -/
def Call.withRegistry (call : Call ω π) (registry : Registry π) : Call ω π :=
  { call with machine := { call.machine with registry } }

/-- In worlds that are alike, and whatever the registry, the act does the same, and it changes nothing
but what no handler sees of the world. -/
def Act.Quiet {α : Type} (alike : ω → ω → Prop) (act : Act ω π α) : Prop :=
  ∀ (call call' : Call ω π) registry, (call.withRegistry registry).Akin alike call' →
    (act.run.run call').1 = (act.run.run call).1 ∧ call'.Akin alike (act.run.run call').2

theorem Act.Quiet.pure {α : Type} (equivalence : Equivalence alike) (a : α) :
    (Pure.pure a : Act ω π α).Quiet alike :=
  fun _ _ _ _ => ⟨rfl, .refl equivalence _, rfl, rfl⟩

/-- Reading a variable changes nothing at all. -/
theorem Resource.getVariable_quiet (equivalence : Equivalence alike) (reach : Reach) (uri : String) :
    (getVariable reach uri [] : Act ω π Value).Quiet alike := by
  intro call call' registry alikes
  have scopes : call'.scopes reach = call.scopes reach := by
    cases reach with
    | locals => exact congrArg Frame.locals alikes.frame
    | globals => exact alikes.machine.globals
  rw [getVariable_reads, getVariable_reads, scopes]
  have refl : call'.Akin alike call' := ⟨.refl equivalence _, rfl, rfl⟩
  cases keyOf uri with
  | error fault => exact ⟨rfl, refl⟩
  | ok key => exact ⟨rfl, refl⟩

/-- Importing a module of the registry leaves its getters, and its modules. -/
def Registry.Steady (host : Host ω π) (registry : Registry π) : Prop :=
  ∀ name plug, registry.modules.get? name = some plug →
    ∀ other : Registry π, other.getters = registry.getters → other.modules = registry.modules →
      let left := ((host.install plug).run.run other).2
      left.getters = registry.getters ∧ left.modules = registry.modules

namespace Session

/-- What the getters of the session get. -/
def documents (host : Host ω π) (session : Session ω π) (uri : String) : Except Fault Value := do
  let plugin ← session.machine.registry.getter uri
  ((plugin.get host uri []).run.run ⟨session.machine, session.root, "get"⟩).1

/-- The session is as it was, but for ops that were registered and what no handler sees of the world. -/
structure Settled (alike : ω → ω → Prop) (base session : Session ω π) : Prop where
  machine : Machine.Akin alike { base.machine with registry := session.machine.registry }
    session.machine
  root : session.root = base.root
  getters : session.machine.registry.getters = base.machine.registry.getters
  modules : session.machine.registry.modules = base.machine.registry.modules

namespace Settled

variable {base session : Session ω π}

theorem refl (equivalence : Equivalence alike) (base : Session ω π) : Settled alike base base :=
  ⟨.refl equivalence _, rfl, rfl, rfl⟩

theorem onRegistry (settled : Settled alike base session) {registry : Registry π}
    (getters : registry.getters = base.machine.registry.getters)
    (modules : registry.modules = base.machine.registry.modules) :
    Settled alike base { session with machine := { session.machine with registry } } where
  machine := settled.machine.map (fun machine => { machine with registry }) (fun _ => rfl)
    fun _ _ => rfl
  root := settled.root
  getters := getters
  modules := modules

theorem unseen (equivalence : Equivalence alike) (settled : Settled alike base session)
    {left : Session ω π} (alikes : session.Akin alike left) : Settled alike base left where
  machine := by
    rw [alikes.machine.registry]
    exact settled.machine.trans equivalence alikes.machine
  root := alikes.root.trans settled.root
  getters := by rw [alikes.machine.registry, settled.getters]
  modules := by rw [alikes.machine.registry, settled.modules]

theorem loading (settled : Settled alike base session) (loading : List String) :
    Settled alike base { session with loading } :=
  ⟨settled.machine, settled.root, settled.getters, settled.modules⟩

theorem getter (settled : Settled alike base session) (uri : String) :
    session.machine.registry.getter uri = base.machine.registry.getter uri := by
  unfold Registry.getter Registry.plugin Registry.plugins
  rw [settled.getters]

/-- What a quiet getter gets, it got at first. -/
theorem get (settled : Settled alike base session) {plugin : Plugin π} {uri : String}
    (quiet : (plugin.get host uri []).Quiet alike) :
    let ran := (plugin.get host uri []).run.run ⟨session.machine, session.root, "get"⟩
    ran.1 = ((plugin.get host uri []).run.run ⟨base.machine, base.root, "get"⟩).1 ∧
      Call.Akin alike ⟨session.machine, session.root, "get"⟩ ran.2 :=
  quiet _ _ session.machine.registry ⟨settled.machine, settled.root, rfl⟩

end Settled

section

variable (equivalence : Equivalence alike) {base : Session ω π}
  (quiet : ∀ uri plugin, base.machine.registry.getter uri = .ok plugin →
    (plugin.get host uri []).Quiet alike)

include equivalence quiet

/-- A fetch fetches what was there at first, unseen. -/
theorem Settled.fetch {session : Session ω π} (settled : Settled alike base session) (uri : String) :
    ((fetch host uri).run.run session).1 =
      (documents host base uri).mapError (fun fault => .failed ⟨fault, []⟩) ∧
    session.Akin alike ((fetch host uri).run.run session).2 := by
  unfold documents
  rw [Task.fetch_run, settled.getter]
  cases found : base.machine.registry.getter uri with
  | error fault => exact ⟨rfl, .refl equivalence _, rfl, rfl⟩
  | ok plugin =>
    obtain ⟨same, quietly⟩ := settled.get (quiet uri plugin found)
    exact ⟨congrArg (Except.mapError _) same, quietly.machine, quietly.frame, rfl⟩

/-- Loading keeps the session settled. -/
theorem settled_parts (steady : base.machine.registry.Steady host) :
    Task.Parts host fun _ (task : Task ω π _) => task.Keeps (Settled alike base) where
  pure _ _ settled := settled
  fail _ _ settled := settled
  starve _ settled := settled
  bind := .bind
  look each session settled := each session session settled
  importModule name session settled := by
    rw [importModule_run]
    split
    · exact settled
    · next plug listed =>
      rw [settled.modules] at listed
      obtain ⟨getters, modules⟩ := steady name plug listed _ settled.getters settled.modules
      exact settled.onRegistry getters modules
  register _ _ _ settled := settled.onRegistry settled.getters settled.modules
  fetch uri session settled := settled.unseen equivalence (settled.fetch equivalence quiet uri).2
  whileLoading uri task keeps session settled := by
    rw [Task.whileLoading_run]
    exact (keeps { session with loading := uri :: session.loading } (settled.loading _)).loading _

/-- If getters are quiet and the registry is steady, what a load fetches is what the getters of the session
get, and it is fetched unseen. -/
theorem fetches_documents (steady : base.machine.registry.Steady host) (procedure : Procedure) :
    FetchesFrom host (documents host base) procedure base ∧ ReadsUnseen host alike procedure base := by
  have settled : ∀ fuel uri found, Fetches host fuel procedure base uri found →
      Settled alike base found := fun fuel uri found fetches =>
    fetches.keeps (settled_parts equivalence quiet steady)
      (fun _ loading settled => settled.loading loading) (.refl equivalence base)
  exact ⟨fun fuel uri found fetches => ((settled fuel uri found fetches).fetch equivalence quiet uri).1,
    fun fuel uri found fetches => ((settled fuel uri found fetches).fetch equivalence quiet uri).2⟩

end

end Session

end

/-! ## Reading -/

namespace Provider

variable {σ τ ε ε' α β : Type} {view : σ → τ}

/-- In states that look the same the act does the same, and leaves states that look the same. -/
def Overlooks (view : σ → τ) (act : ExceptT ε (StateM σ) α) : Prop :=
  ∀ state state', view state' = view state → (act.run.run state').1 = (act.run.run state).1 ∧
    view (act.run.run state').2 = view (act.run.run state).2

/-- In states that look the same the act does the same, and it changes nothing that can be seen. -/
def Reads (view : σ → τ) (act : ExceptT ε (StateM σ) α) : Prop :=
  ∀ state state', view state' = view state → (act.run.run state').1 = (act.run.run state).1 ∧
    view (act.run.run state').2 = view state'

namespace Overlooks

theorem bind {act : ExceptT ε (StateM σ) α} {rest : α → ExceptT ε (StateM σ) β}
    (first : Overlooks view act) (second : ∀ a, Overlooks view (rest a)) :
    Overlooks view (act >>= rest) := by
  intro state state' same
  obtain ⟨outcomes, lefts⟩ := first state state' same
  rw [run_bind, run_bind]
  cases ran : act.run.run state with
  | mk outcome left =>
    cases ran' : act.run.run state' with
    | mk outcome' left' =>
      rw [ran, ran'] at outcomes lefts
      cases outcomes
      cases outcome with
      | ok a => exact second a left left' lefts
      | error fault => exact ⟨rfl, lefts⟩

/-- What fails in the same way is passed on, as a value. -/
theorem lift {act : ExceptT ε (StateM σ) α} (overlooks : Overlooks view act) :
    Overlooks view (ExceptT.lift act.run : ExceptT ε' (StateM σ) (Except ε α)) := by
  intro state state' same
  obtain ⟨outcomes, lefts⟩ := overlooks state state' same
  exact ⟨congrArg Except.ok outcomes, lefts⟩

end Overlooks

namespace Reads

theorem overlooks {act : ExceptT ε (StateM σ) α} (reads : Reads view act) : Overlooks view act := by
  intro state state' same
  obtain ⟨outcomes, left'⟩ := reads state state' same
  exact ⟨outcomes, left'.trans (same.trans (reads state state rfl).2.symm)⟩

theorem pure (a : α) : Reads view (Pure.pure a : ExceptT ε (StateM σ) α) := fun _ _ _ => ⟨rfl, rfl⟩

theorem throw (fault : ε) : Reads view (MonadExcept.throw fault : ExceptT ε (StateM σ) α) :=
  fun _ _ _ => ⟨rfl, rfl⟩

theorem ofExcept (result : Except ε α) :
    Reads view (ExceptT.mk (Pure.pure result) : ExceptT ε (StateM σ) α) := fun _ _ _ => ⟨rfl, rfl⟩

theorem bind {act : ExceptT ε (StateM σ) α} {rest : α → ExceptT ε (StateM σ) β}
    (first : Reads view act) (second : ∀ a, Reads view (rest a)) : Reads view (act >>= rest) := by
  intro state state' same
  obtain ⟨outcomes, left'⟩ := first state state' same
  obtain ⟨-, left⟩ := first state state rfl
  rw [run_bind, run_bind]
  cases ran : act.run.run state with
  | mk outcome after =>
    cases ran' : act.run.run state' with
    | mk outcome' after' =>
      rw [ran] at outcomes left
      rw [ran'] at outcomes left'
      cases outcomes
      cases outcome with
      | error fault => exact ⟨rfl, left'⟩
      | ok a =>
        obtain ⟨outcomes, last⟩ := second a after after' (left'.trans (same.trans left.symm))
        exact ⟨outcomes, last.trans left'⟩

/-- What is done without failing, and may have failed before, is passed on as a value. -/
theorem lift {act : StateM σ α} (reads : ∀ state state', view state' = view state →
      (act.run state').1 = (act.run state).1 ∧ view (act.run state').2 = view state') :
    Reads view (ExceptT.lift act : ExceptT ε (StateM σ) α) := by
  intro state state' same
  obtain ⟨outcomes, left⟩ := reads state state' same
  exact ⟨congrArg Except.ok outcomes, left⟩

/-- What comes after a check. -/
theorem checked {P : Prop} [Decidable P] {fault : ε} {rest : PUnit → ExceptT ε (StateM σ) α}
    (second : Reads view (rest ⟨⟩)) :
    Reads view (if P then MonadExcept.throw fault >>= rest else rest ⟨⟩) := by
  split
  · exact bind (throw fault) fun _ => second
  · exact second

end Reads

end Provider

/-! ### Files -/

/-- What operations see of files: what stands where, and where relative paths start. -/
def FileTree.seen (tree : FileTree) : Table Place Node × Place :=
  (tree.nodes, tree.current)

namespace Files

open Provider

theorem look_run (place : Place) (tree : FileTree) :
    (look place).run.run tree =
      (.ok (if place.isEmpty then some .dir else tree.nodes.get? place),
        if place.isEmpty || tree.asked.contains place then tree
        else { tree with asked := place :: tree.asked }) := by
  unfold look
  rw [run_bind, show (get : Files FileTree).run.run tree = (.ok tree, tree) from rfl]
  simp only
  cases place.isEmpty with
  | true => rfl
  | false => cases tree.asked.contains place <;> rfl

/-- To look at a place is noted, but nobody sees the note. -/
theorem look_reads (place : Place) : Reads FileTree.seen (look place) := by
  intro tree tree' same
  have nodes : tree'.nodes = tree.nodes := congrArg Prod.fst same
  rw [look_run, look_run]
  refine ⟨by rw [nodes], ?_⟩
  simp only
  split <;> rfl

theorem follow_reads (place : Place) (names : List String) :
    Reads FileTree.seen (follow place names) := by
  induction names generalizing place with
  | nil => exact .pure place
  | cons name rest ih =>
    unfold follow
    refine .bind (look_reads place) fun found => ?_
    split
    · exact .throw _
    · exact .throw _
    · refine .checked ?_
      split
      · exact ih place
      · split
        · exact ih _
        · exact ih _

theorem origin_reads (path : String) : Reads FileTree.seen (origin path) := by
  refine .checked (.checked (.checked ?_))
  split
  · exact .pure _
  · intro tree tree' same
    have current : tree'.current = tree.current := congrArg Prod.snd same
    exact ⟨congrArg Except.ok current, rfl⟩

theorem locate_reads (path : String) : Reads FileTree.seen (locate path) :=
  .bind (origin_reads path) fun start => follow_reads start _

theorem readText_reads (path : String) : Reads FileTree.seen (readText path) := by
  have bytes : Reads FileTree.seen (readBytes path) := by
    refine .bind (locate_reads path) fun place => .bind (look_reads place) fun found => ?_
    split
    · exact .pure _
    · exact .throw _
    · exact .throw _
  refine .bind bytes fun bytes => ?_
  split
  · exact .pure _
  · exact .throw _

theorem locateEntry_reads (path : String) : Reads FileTree.seen (locateEntry path) := by
  refine .bind (origin_reads path) fun start => .bind (follow_reads start _) fun place =>
    .bind (look_reads place) fun found => ?_
  split
  · exact .throw _
  · exact .throw _
  · exact .pure _
  · exact .checked (.pure _)

theorem onNodes_overlooks (change : Table Place Node → Table Place Node) :
    Overlooks FileTree.seen (onNodes change) := by
  intro tree tree' same
  exact ⟨rfl, congrArg (fun seen : Table Place Node × Place => (change seen.1, seen.2)) same⟩

theorem writeText_overlooks (path text : String) : Overlooks FileTree.seen (writeText path text) := by
  refine .bind (locateEntry_reads path).overlooks fun entry => ?_
  split
  · exact (Reads.throw _).overlooks
  · refine .bind (look_reads _).overlooks fun found => ?_
    split
    · exact (Reads.throw _).overlooks
    · exact onNodes_overlooks _

theorem removeFile_overlooks (path : String) : Overlooks FileTree.seen (removeFile path) := by
  refine .bind (locate_reads path).overlooks fun place => .bind (look_reads place).overlooks fun found => ?_
  split
  · exact (Reads.throw _).overlooks
  · exact (Reads.throw _).overlooks
  · exact onNodes_overlooks _

end Files

/-! ### Documents in files and on the web -/

namespace Provider

theorem decoded_reads {σ τ : Type} {view : σ → τ} {media : Media} {text : String} :
    Reads view (match media.decode? text with
      | some value => return value
      | none => MonadExcept.throw (Fault.codec media) : ExceptT Fault (StateM σ) Value) := by
  split
  · exact .pure _
  · exact .throw _

namespace File

theorem read_reads (media : Media) (uri : String) : Reads FileTree.seen (read media uri) := by
  refine .bind (.ofExcept (pathOf uri)) fun path => .bind (.lift (Files.readText_reads path)) fun outcome => ?_
  split
  · exact .throw _
  · exact decoded_reads

/-- A file holds the document that its text denotes. -/
theorem read_ok {media : Media} {uri path text : String} {value : Value} {tree : FileTree}
    (named : pathOf uri = .ok path) (read : ((Files.readText path).run.run tree).1 = .ok text)
    (decoded : media.decode? text = some value) :
    ((File.read media uri).run.run tree).1 = .ok value := by
  unfold File.read
  rw [named, run_bind, show (ExceptT.mk (Pure.pure (.ok path)) : ExceptT Fault (StateM FileTree) _).run.run
    tree = (.ok path, tree) from rfl]
  simp only
  rw [run_bind, show (ExceptT.lift (Files.readText path).run : ExceptT Fault (StateM FileTree) _).run.run
    tree = (.ok ((Files.readText path).run.run tree).1, ((Files.readText path).run.run tree).2) from rfl, read]
  simp only
  rw [decoded]
  rfl

theorem write_overlooks (media : Media) (value : Value) (uri : String) :
    Overlooks FileTree.seen (write media value uri) := by
  refine .bind (Reads.ofExcept (pathOf uri)).overlooks fun path =>
    .bind (.lift (Files.writeText_overlooks path _)) fun outcome => ?_
  split
  · exact (Reads.throw _).overlooks
  · exact (Reads.pure _).overlooks

theorem remove_overlooks (missingOk : Bool) (uri : String) :
    Overlooks FileTree.seen (remove missingOk uri) := by
  refine .bind (Reads.ofExcept (pathOf uri)).overlooks fun path =>
    .bind (.lift (Files.removeFile_overlooks path)) fun outcome => ?_
  split
  · split
    · exact (Reads.pure _).overlooks
    · exact (Reads.throw _).overlooks
  · exact (Reads.pure _).overlooks

end File

namespace Web

/-- What one request comes to. -/
theorem send_run (headers : List (String × String)) (fuel : Nat) (url : Url) (net : Net) :
    (send headers (fuel + 1) url).run net =
      match net.servers.get? url.authority with
      | none => (none, net)
      | some answers =>
        let asked := { net with requests := ⟨url.target, headers⟩ :: net.requests }
        let answer := (answers.get? url.target).getD { status := 404 }
        match answer.location with
        | none => (some answer, asked)
        | some location =>
          if answer.status = 301 || answer.status = 302 then
            match redirected url location with
            | some next => (send headers fuel next).run asked
            | none => (some answer, asked)
          else (some answer, asked) := by
  rw [send, StateT.run_bind, StateT.run_get, pure_bind]
  simp only
  cases net.servers.get? url.authority with
  | none => rfl
  | some answers =>
    simp only
    rw [StateT.run_bind, StateT.run_set, pure_bind]
    cases ((answers.get? url.target).getD { status := 404 }).location with
    | none => rfl
    | some location =>
      simp only
      split
      · cases redirected url location <;> rfl
      · rfl

/-- What a server answers does not depend on what it was asked before. -/
theorem send_reads (headers : List (String × String)) (fuel : Nat) (url : Url) {net net' : Net}
    (same : net'.servers = net.servers) :
    ((send headers fuel url).run net').1 = ((send headers fuel url).run net).1 ∧
      ((send headers fuel url).run net').2.servers = net'.servers := by
  induction fuel generalizing url net net' with
  | zero => exact ⟨rfl, rfl⟩
  | succ fuel ih =>
    rw [send_run, send_run, same]
    split
    · exact ⟨rfl, same⟩
    · simp only
      split
      · exact ⟨rfl, rfl⟩
      · split
        · split
          · exact ih _ rfl
          · exact ⟨rfl, rfl⟩
        · exact ⟨rfl, rfl⟩

theorem read_reads (settings : Settings) (media : Media) (uri : String)
    (headers : List (String × String)) : Reads Net.servers (read settings media uri headers) := by
  refine .bind (.ofExcept (Resource.parseUri uri)) fun url => .checked (.checked ?_)
  refine .bind (.lift fun net net' same => send_reads _ _ url same) fun outcome => ?_
  split
  · exact .throw _
  · refine .checked ?_
    split
    · exact decoded_reads
    · exact .throw _

end Web

end Provider

/-! ## Standard machines -/

/-- The same files, servers and guests, whatever is noted of them. -/
structure World.Alike {ω : Type} (world world' : World ω) : Prop where
  files : world'.files.seen = world.files.seen
  servers : world'.net.servers = world.net.servers
  guest : world'.guest = world.guest

theorem World.alike_equivalence {ω : Type} : Equivalence (World.Alike (ω := ω)) where
  refl _ := ⟨rfl, rfl, rfl⟩
  symm same := ⟨same.files.symm, same.servers.symm, same.guest.symm⟩
  trans first second := ⟨second.files.trans first.files, second.servers.trans first.servers,
    second.guest.trans first.guest⟩

namespace Standard

section

variable {ω γ α : Type} {guests : Plugins (World ω) (Plug γ) γ}

theorem onFiles_run (act : ExceptT Fault (StateM FileTree) α) (call : Call (World ω) (Plug γ)) :
    (onFiles act).run.run call =
      let ran := act.run.run call.machine.world.files
      (ran.1, { call with machine :=
        call.machine.inWorld { call.machine.world with files := ran.2 } }) := by
  unfold onFiles
  rw [run_bind, show (get : Act (World ω) (Plug γ) _).run.run call = (.ok call, call) from rfl]
  simp only
  cases act.run.run call.machine.world.files with
  | mk outcome files => cases outcome <;> rfl

theorem onNet_run (act : ExceptT Fault (StateM Provider.Web.Net) α) (call : Call (World ω) (Plug γ)) :
    (onNet act).run.run call =
      let ran := act.run.run call.machine.world.net
      (ran.1, { call with machine :=
        call.machine.inWorld { call.machine.world with net := ran.2 } }) := by
  unfold onNet
  rw [run_bind, show (get : Act (World ω) (Plug γ) _).run.run call = (.ok call, call) from rfl]
  simp only
  cases act.run.run call.machine.world.net with
  | mk outcome net => cases outcome <;> rfl

theorem onFiles_overlooks {act : ExceptT Fault (StateM FileTree) α}
    (overlooks : Provider.Overlooks FileTree.seen act) :
    (onFiles act : Act (World ω) (Plug γ) α).Overlooks World.Alike := by
  rintro call ⟨machine', frame', op'⟩ ⟨⟨worlds⟩, ⟨⟩, ⟨⟩⟩
  rw [onFiles_run, onFiles_run]
  obtain ⟨outcomes, lefts⟩ := overlooks _ _ worlds.files
  exact ⟨outcomes, .intro ⟨lefts, worlds.servers, worlds.guest⟩, rfl, rfl⟩

theorem onNet_overlooks {act : ExceptT Fault (StateM Provider.Web.Net) α}
    (overlooks : Provider.Overlooks Provider.Web.Net.servers act) :
    (onNet act : Act (World ω) (Plug γ) α).Overlooks World.Alike := by
  rintro call ⟨machine', frame', op'⟩ ⟨⟨worlds⟩, ⟨⟩, ⟨⟩⟩
  rw [onNet_run, onNet_run]
  obtain ⟨outcomes, lefts⟩ := overlooks _ _ worlds.servers
  exact ⟨outcomes, .intro ⟨worlds.files, lefts, worlds.guest⟩, rfl, rfl⟩

/-- The handlers of standard machines do the same in worlds that are alike, if those of the guests do. -/
theorem host_overlooks (overlooks : guests.Overlooks World.Alike) :
    (host guests).Overlooks World.Alike where
  op plug scope := by
    cases plug with
    | guest plug => exact overlooks.op plug scope
    | _ => exact .pure _
  get plug uri scope := by
    cases plug with
    | readFile media =>
      exact .bind (Act.Overlooks.blocks.closed.noParams scope) fun _ =>
        onFiles_overlooks (Provider.File.read_reads media uri).overlooks
    | readWeb settings media =>
      exact .bind (Act.Overlooks.blocks.closed.params _) fun headers =>
        onNet_overlooks (Provider.Web.read_reads settings media uri headers).overlooks
    | guest plug => exact overlooks.get plug uri scope
    | _ => exact .pure _
  put plug value uri scope := by
    cases plug with
    | writeFile media =>
      exact .bind (Act.Overlooks.blocks.closed.noParams scope) fun _ =>
        onFiles_overlooks (Provider.File.write_overlooks media value uri)
    | guest plug => exact overlooks.put plug value uri scope
    | _ => exact .pure _
  delete plug uri scope := by
    cases plug with
    | removeFile =>
      exact .bind (Act.Overlooks.blocks.closed.params _) fun missingOk =>
        onFiles_overlooks (Provider.File.remove_overlooks missingOk uri)
    | guest plug => exact overlooks.delete plug uri scope
    | _ => exact .pure _

theorem onFiles_quiet {act : ExceptT Fault (StateM FileTree) α}
    (reads : Provider.Reads FileTree.seen act) :
    (onFiles act : Act (World ω) (Plug γ) α).Quiet World.Alike := by
  rintro call ⟨machine', frame', op'⟩ registry ⟨⟨worlds⟩, ⟨⟩, ⟨⟩⟩
  rw [onFiles_run, onFiles_run]
  obtain ⟨outcomes, left⟩ := reads _ _ worlds.files
  exact ⟨outcomes, .intro ⟨left, rfl, rfl⟩, rfl, rfl⟩

theorem onNet_quiet {act : ExceptT Fault (StateM Provider.Web.Net) α}
    (reads : Provider.Reads Provider.Web.Net.servers act) :
    (onNet act : Act (World ω) (Plug γ) α).Quiet World.Alike := by
  rintro call ⟨machine', frame', op'⟩ registry ⟨⟨worlds⟩, ⟨⟩, ⟨⟩⟩
  rw [onNet_run, onNet_run]
  obtain ⟨outcomes, left⟩ := reads _ _ worlds.servers
  exact ⟨outcomes, .intro ⟨rfl, left, rfl⟩, rfl, rfl⟩

end

section

variable {ω γ : Type}

theorem noGuests_overlooks :
    (noGuests : Plugins (World ω) (Plug γ) Empty).Overlooks World.Alike where
  op plug := nomatch plug
  get plug := nomatch plug
  put plug := nomatch plug
  delete plug := nomatch plug

/-- The getters of standard machines without guests are quiet. -/
theorem get_quiet (plugin : Plugin (Plug Empty)) (uri : String) :
    (plugin.get (host (noGuests : Plugins (World ω) (Plug Empty) Empty)) uri []).Quiet World.Alike := by
  rcases plugin with reach | plug
  · exact Resource.getVariable_quiet World.alike_equivalence reach uri
  · cases plug with
    | readFile media => exact onFiles_quiet (Provider.File.read_reads media uri)
    | readWeb settings media => exact onNet_quiet (Provider.Web.read_reads settings media uri [])
    | guest plug => exact nomatch plug
    | _ => exact .pure World.alike_equivalence _

/-- A session with a file has the document that the file holds. -/
theorem documents_file {guests : Plugins (World ω) (Plug γ) γ} {session : Session (World ω) (Plug γ)}
    {media : Media} {uri path text : String} {value : Value}
    (served : session.machine.registry.getter uri = .ok (.foreign (.readFile media)))
    (named : Provider.File.pathOf uri = .ok path)
    (read : ((Files.readText path).run.run session.machine.world.files).1 = .ok text)
    (decoded : media.decode? text = some value) : session.documents (host guests) uri = .ok value := by
  unfold Session.documents
  rw [served]
  show ((onFiles (Provider.File.read media uri)).run.run _).1 = _
  rw [onFiles_run]
  exact Provider.File.read_ok named read decoded

theorem withFiles_getters (registry : Registry (Plug γ)) :
    (withFiles registry).getters = Media.all.foldl (fun getters media =>
      getters.insert (Provider.File.scheme, some media.name) (.foreign (.readFile media)))
      registry.getters := rfl

theorem withWeb_getters (settings : Provider.Web.Settings) (registry : Registry (Plug γ)) :
    (withWeb settings registry).getters = Media.all.foldl (fun getters media =>
      Provider.Web.schemes.foldl (fun getters scheme =>
        getters.insert (scheme, some media.name) (.foreign (.readWeb settings media))) getters)
      registry.getters := rfl

theorem installWeb_run (settings : Provider.Web.Settings) (registry : Registry (Plug γ)) :
    (installWeb settings).run.run registry =
      if Provider.Web.settingsAreLegal settings then (.ok (), withWeb settings registry)
      else (.error Provider.Web.clientFault, registry) := by
  unfold installWeb
  split <;> rfl

/-- Importing modules again does not bring other getters than before. -/
theorem steady_of_imported {registry : Registry (Plug Empty)}
    (imported : ∀ name plug, registry.modules.get? name = some plug →
      (((host (noGuests : Plugins (World ω) (Plug Empty) Empty)).install plug).run.run registry).2.getters =
        registry.getters) :
    registry.Steady (host (noGuests : Plugins (World ω) (Plug Empty) Empty)) := by
  intro name plug listed other getters modules
  have known := imported name plug listed
  cases plug with
  | guest plug => exact nomatch plug
  | installFiles =>
    refine ⟨Eq.trans ?_ known, modules⟩
    show (withFiles other).getters = (withFiles registry).getters
    rw [withFiles_getters, withFiles_getters, getters]
  | installWeb settings =>
    replace known : ((installWeb settings).run.run registry).2.getters = registry.getters := known
    show ((installWeb settings).run.run other).2.getters = registry.getters ∧
      ((installWeb settings).run.run other).2.modules = registry.modules
    rw [installWeb_run] at known ⊢
    split
    · next legal =>
      rw [if_pos legal] at known
      refine ⟨Eq.trans ?_ known, modules⟩
      rw [withWeb_getters, withWeb_getters, getters]
    · exact ⟨getters, modules⟩
  | _ => exact ⟨getters, modules⟩

/-- Loads of standard machines without guests fetch what the getters of the session get, unseen, if no
module that can be imported brings others. -/
theorem fetches_documents {session : Session (World ω) (Plug Empty)}
    (imported : ∀ name plug, session.machine.registry.modules.get? name = some plug →
      (((host (noGuests : Plugins (World ω) (Plug Empty) Empty)).install plug).run.run
        session.machine.registry).2.getters = session.machine.registry.getters) (procedure : Procedure) :
    Session.FetchesFrom (host noGuests) (session.documents (host noGuests)) procedure session ∧
      Session.ReadsUnseen (host noGuests) World.Alike procedure session :=
  Session.fetches_documents World.alike_equivalence (fun uri plugin _ => get_quiet plugin uri)
    (steady_of_imported imported) procedure

end

end Standard

end DocMachine
