import DocMachine.FileTree
import DocMachine.Provider.Web
import DocMachine.Toml.Parser

/-!
# Settings

What a settings file may say, and where it is found: in the directory at hand, in one above it, or
in the user's own settings directory. Everything has a default. Sections other than the known ones
are refused; unknown settings inside a section are passed over.
-/

namespace DocMachine

/-- The module that serves files. -/
def fileModule : String := "zvm.fs"

/-- The module that serves the web. -/
def webModule : String := "zvm.http"

/-- The settings of the program. -/
structure Config where
  console : Bool := true
  web : Provider.Web.Settings := {}
  history : Option String := none
  preload : List String := [fileModule, webModule]
  deriving DecidableEq

/-- Why settings cannot be used. -/
inductive ConfigFault where
  | unreadable (path : String) (cause : FileFault)
  | malformed (path : String)
  deriving DecidableEq

namespace ConfigFault

/-- The fault in words. -/
def message : ConfigFault → String
  | unreadable path cause => "cannot read '" ++ path ++ "': " ++ cause.message
  | malformed path => "invalid toml in '" ++ path ++ "': malformed settings"

end ConfigFault

namespace Config

/-- The name of a settings file. -/
def fileName : String := "zvm.toml"

/-- A truth value. -/
def bool? : Value → Option Bool
  | .bool b => some b
  | _ => none

/-- A text. -/
def string? : Value → Option String
  | .str s => some s
  | _ => none

/-- A count. -/
def count? : Value → Option Nat
  | .num (.int i) => if i < 0 then none else some i.toNat
  | _ => none

/-- A list of texts. -/
def strings? : Value → Option (List String)
  | .arr items => items.mapM string?
  | _ => none

/-- The settings of a section: a table, or an array that gives the known ones in order. -/
def settings? (known : List String) : Value → Option (List (String × Value))
  | .obj fields => some fields
  | .arr items => some (known.zip items)
  | _ => none

/-- Reads the settings of a section. -/
def readSection (known : List String) (setting : Config → String → Value → Option Config)
    (config : Config) (v : Value) : Option Config := do
  (← settings? known v).foldlM (fun config entry => setting config entry.1 entry.2) config

/-- Reads a setting of tracing. -/
def traceSetting (config : Config) (key : String) (v : Value) : Option Config :=
  match key with
  | "console" => (bool? v).map fun console => { config with console }
  | _ => some config

/-- Reads a setting of the web. -/
def webSetting (config : Config) (key : String) (v : Value) : Option Config :=
  match key with
  | "timeout_secs" =>
    (count? v).map fun secs => { config with web := { config.web with timeoutSecs := secs } }
  | "user_agent" =>
    (string? v).map fun agent => { config with web := { config.web with userAgent := some agent } }
  | _ => some config

/-- Reads a setting of interactive sessions. -/
def replSetting (config : Config) (key : String) (v : Value) : Option Config :=
  match key with
  | "history" => (string? v).map fun path => { config with history := some path }
  | _ => some config

/-- Reads a setting of modules. -/
def modulesSetting (config : Config) (key : String) (v : Value) : Option Config :=
  match key with
  | "preload" => (strings? v).map fun preload => { config with preload }
  | _ => some config

/-- Reads one section. -/
def readEntry (config : Config) (key : String) (v : Value) : Option Config :=
  match key with
  | "trace" => readSection ["console"] traceSetting config v
  | "http" => readSection ["timeout_secs", "user_agent"] webSetting config v
  | "repl" => readSection ["history"] replSetting config v
  | "modules" => readSection ["preload"] modulesSetting config v
  | _ => none

/-- Settings from their text. -/
def parse? (text : String) : Option Config := do
  match ← Toml.parse? text with
  | .obj fields => fields.foldlM (fun config entry => readEntry config entry.1 entry.2) {}
  | _ => none

/-- Settings from a file. -/
def load (path : String) : StateM FileTree (Except ConfigFault Config) := do
  match ← (Files.readText path).run with
  | .error cause => return .error (.unreadable path cause)
  | .ok text =>
    match parse? text with
    | some config => return .ok config
    | none => return .error (.malformed path)

/-- The settings file in a directory or in one above it. The fuel bounds how many are above. -/
def findAbove : Nat → String → StateM FileTree (Option String)
  | 0, _ => return none
  | fuel + 1, dir => do
    let candidate := Path.join dir fileName
    if ← Files.isFile candidate then return some candidate
    match Path.parent? dir with
    | some parent => findAbove fuel parent
    | none => return none

/-- The settings file for a directory: there or above it, else in the user's settings directory. -/
def find (start : String) (home : Option String) : StateM FileTree (Option String) := do
  match ← findAbove (start.length + 1) start with
  | some path => return some path
  | none =>
    match home with
    | none => return none
    | some home =>
      let own := Path.join (Path.join (Path.join home ".config") "zvm") fileName
      if ← Files.isFile own then return some own else return none

/-- The settings for a directory; without a file, the defaults. -/
def discover (start : String) (home : Option String) :
    StateM FileTree (Except ConfigFault Config) := do
  match ← find start home with
  | some path => load path
  | none => return .ok {}

end Config

end DocMachine
