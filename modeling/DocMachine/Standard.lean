import DocMachine.Config
import DocMachine.Provider.File
import DocMachine.Suite

/-!
# The standard machine

A machine with the built-in ops, and with files and the web as modules. A host may add handlers of
its own: they are its guests, with a type `γ` of names and a state `ω` beside the files and the
web.
-/

namespace DocMachine

/-- What standard machines act on. -/
structure World (ω : Type) where
  files : FileTree := {}
  net : Provider.Web.Net := {}
  guest : ω

/-- The foreign handlers of standard machines. -/
inductive Plug (γ : Type) where
  | readFile (media : Media)
  | writeFile (media : Media)
  | removeFile
  | readWeb (settings : Provider.Web.Settings) (media : Media)
  | installFiles
  | installWeb (settings : Provider.Web.Settings)
  | guest (plug : γ)

namespace Standard

variable {ω γ : Type}

/-! ## Files and the web -/

/-- Something done to the files. -/
def onFiles {α : Type} (act : ExceptT Fault (StateM FileTree) α) : Act (World ω) (Plug γ) α := do
  let (outcome, files) := act.run.run (← get).machine.world.files
  Act.onWorld fun world => { world with files }
  Act.ofExcept outcome

/-- Something done on the web. -/
def onNet {α : Type} (act : ExceptT Fault (StateM Provider.Web.Net) α) :
    Act (World ω) (Plug γ) α := do
  let (outcome, net) := act.run.run (← get).machine.world.net
  Act.onWorld fun world => { world with net }
  Act.ofExcept outcome

/-- Registers files under their scheme. Removal does not depend on the media type. -/
def withFiles (registry : Registry (Plug γ)) : Registry (Plug γ) :=
  let scheme := Provider.File.scheme
  let registry := Media.all.foldl (fun registry media =>
    (registry.withGetter scheme (some media.name) (.readFile media)).withPutter scheme
      (some media.name) (.writeFile media)) registry
  (none :: Media.all.map fun media => some media.name).foldl (fun registry media =>
    registry.withDeleter scheme media .removeFile) registry

/-- Registers the web under its schemes. -/
def withWeb (settings : Provider.Web.Settings) (registry : Registry (Plug γ)) :
    Registry (Plug γ) :=
  Media.all.foldl (fun registry media =>
    Provider.Web.schemes.foldl (fun registry scheme =>
      registry.withGetter scheme (some media.name) (.readWeb settings media)) registry) registry

/-- Installs the web, if its client can be made. -/
def installWeb (settings : Provider.Web.Settings) :
    ExceptT Fault (StateM (Registry (Plug γ))) Unit := do
  if Provider.Web.settingsAreLegal settings then modify (withWeb settings)
  else throw Provider.Web.clientFault

/-- The handlers of standard machines, given those of the guests. -/
def host (guests : Plugins (World ω) (Plug γ) γ) : Host (World ω) (Plug γ) where
  op
    | .guest plug, params => guests.op plug params
    | _, _ => return []
  get
    | .readFile media, uri, params => do
      Act.noParams params
      onFiles (Provider.File.read media uri)
    | .readWeb settings media, uri, params => do
      let headers ← Act.params (Param.record [] Provider.Web.headersField params)
      onNet (Provider.Web.read settings media uri headers)
    | .guest plug, uri, params => guests.get plug uri params
    | _, _, _ => return .null
  put
    | .writeFile media, value, uri, params => do
      Act.noParams params
      onFiles (Provider.File.write media value uri)
    | .guest plug, value, uri, params => guests.put plug value uri params
    | _, _, _, _ => return ()
  delete
    | .removeFile, uri, params => do
      let missingOk ← Act.params (Param.record false Provider.File.missingOkField params)
      onFiles (Provider.File.remove missingOk uri)
    | .guest plug, uri, params => guests.delete plug uri params
    | _, _, _ => return ()
  copy
    | .guest plug, value, deep => guests.copy plug value deep
    | _, value, _ => value
  install
    | .installFiles => modify withFiles
    | .installWeb settings => installWeb settings
    | .guest plug => guests.install plug
    | _ => return ()

/-- The handlers of machines without guests. -/
def noGuests : Plugins (World ω) (Plug γ) Empty where
  op plug := nomatch plug
  get plug := nomatch plug
  put plug := nomatch plug
  delete plug := nomatch plug
  copy plug := nomatch plug
  install plug := nomatch plug

/-! ## Sessions -/

/-- The built-in ops, with files and the web as modules that can be imported. -/
def registry (config : Config) : Registry (Plug γ) :=
  (Registry.builtins.withModule fileModule .installFiles).withModule webModule
    (.installWeb config.web)

/-- A session over a registry, before any module is imported. -/
def bareSession (config : Config) (registry : Registry (Plug γ)) (world : World ω) :
    Session (World ω) (Plug γ) :=
  { machine := { registry, console := config.console, world } }

/-- Imports the modules that the settings ask for. -/
def preload (guests : Plugins (World ω) (Plug γ) γ) (config : Config) :
    Task (World ω) (Plug γ) Unit :=
  config.preload.forM (Session.importModule (host guests))

/-- The URI of what a user points at: a URI stands for itself, anything else is the path of a file
that has to exist. -/
def targetUri (target : String) : StateM FileTree (Except Fault String) := do
  let isUri := match Url.parse target with
    | .ok url => decide (1 < url.scheme.length)
    | .error _ => false
  if isUri then return .ok target
  match ← (Files.canonicalize target).run with
  | .ok place => return .ok (Provider.File.uriFor (Files.pathOf place))
  | .error cause => return .error (.provider target ("cannot open: " ++ cause.message))

end Standard

end DocMachine
