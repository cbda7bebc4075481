import DocMachine.Procedure

/-!
# The registry

What names mean to a machine: ops by name, plugins by scheme and media type, copiers by the kind of
value, and modules that can be imported. The last registration of a key wins.

Handlers are first-order data. An op is one of the built-in ones, a procedure, or foreign: foreign
handlers are known by a name of a type `π` of the host's choosing, and the host gives them meaning.
-/

namespace DocMachine

/-- The ops that every machine has. -/
inductive Builtin where
  | add | subtract | multiply | divide | modulo
  | both | either | differ | negation
  | asBool | asInt | asFloat
  | equal | unequal | greater | atLeast | less | atMost
  | dup | swap | discard | size | pack | unpack | nextParams
  | openLoop | closeLoop | leaveLoop | continueIf
  | openIf | otherwise | closeIf | recurse
  | fetch | store | remove
  | format | require
  deriving DecidableEq

namespace Builtin

/-- The op's name in documents. -/
def name : Builtin → String
  | add => "+"
  | subtract => "-"
  | multiply => "*"
  | divide => "/"
  | modulo => "%"
  | both => "and"
  | either => "or"
  | differ => "xor"
  | negation => "not"
  | asBool => "asbool"
  | asInt => "asint"
  | asFloat => "asfloat"
  | equal => "eq"
  | unequal => "neq"
  | greater => "gt"
  | atLeast => "ge"
  | less => "lt"
  | atMost => "le"
  | dup => "dup"
  | swap => "swap"
  | discard => "drop"
  | size => "size"
  | pack => "pack"
  | unpack => "unpack"
  | nextParams => "set_next_params"
  | openLoop => "begin"
  | closeLoop => "repeat"
  | leaveLoop => "break"
  | continueIf => "while"
  | openIf => "if"
  | otherwise => "else"
  | closeIf => "endif"
  | recurse => "recurse"
  | fetch => "get"
  | store => "put"
  | remove => "del"
  | format => "fstring"
  | require => "assert"

/-- All built-in ops. -/
def all : List Builtin :=
  [add, subtract, multiply, divide, modulo, asBool, asInt, asFloat, both, either, differ, equal,
    unequal, greater, atLeast, less, atMost, negation, dup, swap, discard, size, pack, unpack,
    nextParams, openLoop, closeLoop, leaveLoop, continueIf, openIf, otherwise, closeIf, recurse,
    fetch, store, remove, format, require]

end Builtin

/-- What an op's name stands for. -/
inductive Handler (π : Type) where
  | builtin (op : Builtin)
  | foreign (plug : π)
  | procedure (procedure : Procedure)

/-- What serves the URIs of a scheme: the variables of the program, or something foreign. -/
inductive Plugin (π : Type) where
  | variables (reach : Reach)
  | foreign (plug : π)

/-- The scheme and the media type that a plugin serves. -/
abbrev PluginKey := String × Option String

/-- What names mean to a machine. -/
structure Registry (π : Type) where
  ops : Table String (Handler π) := []
  getters : Table PluginKey (Plugin π) := []
  putters : Table PluginKey (Plugin π) := []
  deleters : Table PluginKey (Plugin π) := []
  copiers : Table Kind π := []
  modules : Table String π := []

namespace Registry

variable {π : Type}

/-- Registers the plugins for the variables of one reach. -/
def withVariables (registry : Registry π) (reach : Reach) : Registry π :=
  let key : PluginKey := (reach.scheme, none)
  { registry with
    getters := registry.getters.insert key (.variables reach)
    putters := registry.putters.insert key (.variables reach)
    deleters := registry.deleters.insert key (.variables reach) }

/-- The registry of the built-in ops and the variables. -/
def builtins : Registry π :=
  let ops : Registry π := { ops := Builtin.all.map fun op => (op.name, .builtin op) }
  (ops.withVariables .locals).withVariables .globals

/-- Registers a foreign op. -/
def withOp (registry : Registry π) (name : String) (plug : π) : Registry π :=
  { registry with ops := registry.ops.insert name (.foreign plug) }

/-- Registers a procedure as an op. -/
def withProcedure (registry : Registry π) (name : String) (procedure : Procedure) : Registry π :=
  { registry with ops := registry.ops.insert name (.procedure procedure) }

/-- Registers a document as an op, if it is a procedure. -/
def withDocument (registry : Registry π) (name : String) (document : Value) :
    Except Fault (Registry π) :=
  match Procedure.ofValue document with
  | .ok procedure => .ok (registry.withProcedure name procedure)
  | .error fault => .error (.invalidProcedure (.registered name fault))

/-- Registers a foreign getter. -/
def withGetter (registry : Registry π) (scheme : String) (media : Option String) (plug : π) :
    Registry π :=
  { registry with getters := registry.getters.insert (scheme, media) (.foreign plug) }

/-- Registers a foreign putter. -/
def withPutter (registry : Registry π) (scheme : String) (media : Option String) (plug : π) :
    Registry π :=
  { registry with putters := registry.putters.insert (scheme, media) (.foreign plug) }

/-- Registers a foreign deleter. -/
def withDeleter (registry : Registry π) (scheme : String) (media : Option String) (plug : π) :
    Registry π :=
  { registry with deleters := registry.deleters.insert (scheme, media) (.foreign plug) }

/-- Registers a copier for the values of a kind. -/
def withCopier (registry : Registry π) (kind : Kind) (plug : π) : Registry π :=
  { registry with copiers := registry.copiers.insert kind plug }

/-- Publishes a module. -/
def withModule (registry : Registry π) (name : String) (plug : π) : Registry π :=
  { registry with modules := registry.modules.insert name plug }

/-- The handler of an op. -/
def op (registry : Registry π) (name : String) : Except Fault (Handler π) :=
  match registry.ops.get? name with
  | some handler => .ok handler
  | none => .error (.unknownOp name)

/-- The op names in ascending order. -/
def opNames (registry : Registry π) : List String :=
  registry.ops.keys.mergeSort fun a b => decide (a ≤ b)

/-- The plugins of a role. -/
def plugins (registry : Registry π) : Role → Table PluginKey (Plugin π)
  | .getter => registry.getters
  | .putter => registry.putters
  | .deleter => registry.deleters

/-- The plugin of a role for a scheme and a media type. -/
def plugin (registry : Registry π) (role : Role) (scheme : String) (media : Option String) :
    Except Fault (Plugin π) :=
  match (registry.plugins role).get? (scheme, media) with
  | some plugin => .ok plugin
  | none => .error (.missingPlugin role scheme media)

end Registry

end DocMachine
