import DocMachine.Act

/-!
# Resources

The ops that read, write and remove what a URI names. The scheme of the URI and the media type asked
for choose the plugin; all other parameters are handed on to it. The variables of a program are
resources of the schemes `locals` and `globals`.
-/

namespace DocMachine.Resource

variable {ω π : Type}

/-- What is asked for: a URI, a media type, and parameters for the plugin. -/
structure Request where
  uri : Option String := none
  media : Option String := none
  rest : Scope := []

/-- Reads one parameter of a request. -/
def Request.field (request : Request) (key : String) (v : Value) : Param.Read Request :=
  match key with
  | "uri" => do return { request with uri := some (← Param.string v) }
  | "mediaType" => do return { request with media := ← Param.optional Param.string v }
  | _ => .ok { request with rest := request.rest ++ [(key, v)] }

/-- A URI, parsed. -/
def parseUri (uri : String) : Except Fault Url :=
  (Url.parse uri).mapError fun fault => .invalidUri uri (.url fault)

/-- The name of the variable that a URI addresses: its path or, if that is empty, its host. -/
def keyOf (uri : String) : Except Fault String := do
  let url ← parseUri uri
  let key := if url.path.isEmpty then url.host.getD "" else url.path
  if key.isEmpty then throw (.invalidUri uri .noVariable)
  return key

/-- Reads the parameter of a variable's getter. -/
def defaultField (_ : Value) (key : String) (v : Value) : Param.Read Value :=
  match key with
  | "default" => .ok v
  | _ => .error (.unknown key ["default"])

/-- Reads a variable; one that is absent has the default value. -/
def getVariable (reach : Reach) (uri : String) (scope : Scope) : Act ω π Value := do
  let default ← Act.params (Param.record .null defaultField scope)
  let key ← Act.ofExcept (keyOf uri)
  return ((← Act.scope reach).get? key).getD default

/-- Writes a variable. -/
def putVariable (reach : Reach) (value : Value) (uri : String) (scope : Scope) : Act ω π Unit := do
  Act.noParams scope
  let key ← Act.ofExcept (keyOf uri)
  Act.writeVariable reach key value

/-- Removes a variable, which has to be there. -/
def deleteVariable (reach : Reach) (uri : String) (scope : Scope) : Act ω π Unit := do
  Act.noParams scope
  let key ← Act.ofExcept (keyOf uri)
  let _ ← Act.removeVariable reach key

end DocMachine.Resource

namespace DocMachine.Plugin

variable {ω π : Type}

/-- Reads what a URI names, by the plugin. -/
def get (host : Host ω π) : Plugin π → String → Scope → Act ω π Value
  | .variables reach => Resource.getVariable reach
  | .foreign plug => host.get plug

/-- Writes to what a URI names, by the plugin. -/
def put (host : Host ω π) : Plugin π → Value → String → Scope → Act ω π Unit
  | .variables reach => Resource.putVariable reach
  | .foreign plug => host.put plug

/-- Removes what a URI names, by the plugin. -/
def delete (host : Host ω π) : Plugin π → String → Scope → Act ω π Unit
  | .variables reach => Resource.deleteVariable reach
  | .foreign plug => host.delete plug

end DocMachine.Plugin

namespace DocMachine.Resource

variable {ω π : Type}

/-- Reads a request and finds its plugin. -/
def resolve (role : Role) (scope : Scope) : Act ω π (Plugin π × String × Scope) := do
  let request ← Act.params (Param.record {} Request.field scope)
  let uri ← Act.params (Param.required "uri" request.uri)
  let url ← Act.ofExcept (parseUri uri)
  let plugin ← Act.ofExcept ((← get).machine.registry.plugin role url.scheme request.media)
  return (plugin, uri, request.rest)

/-- Pushes what a URI names. -/
def fetch (host : Host ω π) (scope : Scope) : Act ω π (List Value) := do
  let (plugin, uri, rest) ← resolve .getter scope
  return [← plugin.get host uri rest]

/-- Pops a value and writes it to what a URI names. -/
def store (host : Host ω π) (scope : Scope) : Act ω π (List Value) := do
  let (plugin, uri, rest) ← resolve .putter scope
  let value ← Act.pop
  plugin.put host value uri rest
  return []

/-- Removes what a URI names. -/
def remove (host : Host ω π) (scope : Scope) : Act ω π (List Value) := do
  let (plugin, uri, rest) ← resolve .deleter scope
  plugin.delete host uri rest
  return []

end DocMachine.Resource
