import DocMachine.Resource

/-!
# Documents from the web

The schemes `http` and `https` name documents on servers. A request is made with a client's own
name and with the headers asked for; any answer but a plain success is a fault. What servers answer
is part of the world: a server that is not known to it cannot be reached.
-/

namespace DocMachine.Provider.Web

/-- The schemes of the web. -/
def schemes : List String := ["http", "https"]

/-- How a client behaves. -/
structure Settings where
  timeoutSecs : Nat := 30
  userAgent : Option String := none
  deriving DecidableEq

/-- What a server answers. -/
structure Answer where
  status : Nat := 200
  body : List UInt8 := []
  location : Option String := none

/-- A request as the server sees it; header names are in lower case. -/
structure Request where
  target : String
  headers : List (String × String)

/-- The servers that can be reached, by host and port, with their answers by request target, and the
requests made so far, the last first. -/
structure Net where
  servers : Table String (Table String Answer) := []
  requests : List Request := []

/-- The name under which the program presents itself. -/
def defaultAgent : String := "zvm/0.1.0"

/-! ## Headers -/

/-- Whether a character may stand in the name of a header. -/
def isTokenChar (c : Char) : Bool :=
  c.isAlphanum || "!#$%&'*+-.^_|~".toList.contains c || c.toNat = 0x60

/-- Whether a text is the name of a header. -/
def isHeaderName (name : String) : Bool :=
  !name.isEmpty && name.toList.all isTokenChar

/-- Whether a text is the value of a header: it has no controls but tabs. -/
def isHeaderValue (value : String) : Bool :=
  value.toList.all fun c => (decide (32 ≤ c.toNat) && c.toNat ≠ 127) || c = '\t'

/-- Reads a map of texts in the order of its keys. -/
def headerMap : Value → Param.Read (List (String × String))
  | .obj fields => do
    let headers ← fields.mapM fun (key, v) => do return (key, ← Param.string v)
    return headers.mergeSort fun a b => decide (a.1 ≤ b.1)
  | other => .error (.wrongType other .map)

/-- Reads the parameter of a request. -/
def headersField (_ : List (String × String)) (key : String) (v : Value) :
    Param.Read (List (String × String)) :=
  match key with
  | "headers" => headerMap v
  | _ => .error (.unknown key ["headers"])

/-- The headers of a request: those of the client, unless they are given, and those given. -/
def requestHeaders (settings : Settings) (given : List (String × String)) :
    List (String × String) :=
  let lower := given.map fun (name, value) =>
    (String.ofList (name.toList.map Char.toLower), value)
  let own := [("accept", "*/*"), ("user-agent", settings.userAgent.getD defaultAgent)].filter
    fun (name, _) => !lower.any fun header => header.1 = name
  (own ++ lower).mergeSort fun a b => decide (a.1 ≤ b.1)

/-- Whether a client can be made. -/
def settingsAreLegal (settings : Settings) : Bool :=
  isHeaderValue (settings.userAgent.getD defaultAgent)

/-- The fault of a client that cannot be made. -/
def clientFault : Fault :=
  .provider "http:" "failed to build HTTP client: builder error"

/-! ## Requests -/

/-- The reason phrases of status codes. -/
def reason : Nat → String
  | 200 => "OK"
  | 201 => "Created"
  | 202 => "Accepted"
  | 203 => "Non Authoritative Information"
  | 204 => "No Content"
  | 205 => "Reset Content"
  | 206 => "Partial Content"
  | 300 => "Multiple Choices"
  | 301 => "Moved Permanently"
  | 302 => "Found"
  | 303 => "See Other"
  | 304 => "Not Modified"
  | 307 => "Temporary Redirect"
  | 308 => "Permanent Redirect"
  | 400 => "Bad Request"
  | 401 => "Unauthorized"
  | 402 => "Payment Required"
  | 403 => "Forbidden"
  | 404 => "Not Found"
  | 405 => "Method Not Allowed"
  | 406 => "Not Acceptable"
  | 408 => "Request Timeout"
  | 409 => "Conflict"
  | 410 => "Gone"
  | 418 => "I'm a teapot"
  | 422 => "Unprocessable Entity"
  | 429 => "Too Many Requests"
  | 500 => "Internal Server Error"
  | 501 => "Not Implemented"
  | 502 => "Bad Gateway"
  | 503 => "Service Unavailable"
  | 504 => "Gateway Timeout"
  | _ => "<unknown status code>"

/-- A path up to its last slash. -/
def directory (path : String) : String :=
  String.ofList (path.toList.reverse.dropWhile (· ≠ '/')).reverse

/-- The URL that a redirection leads to: an absolute one, or a path on the same server. -/
def redirected (url : Url) (location : String) : Option Url :=
  match Url.parse location with
  | .ok target => some target
  | .error _ =>
    let path :=
      if location.toList.head? = some '/' then location else directory url.path ++ location
    (Url.parse (url.scheme ++ "://" ++ url.authority ++ path)).toOption

/-- Asks for a URL and follows redirections. The fuel bounds their count. -/
def send (headers : List (String × String)) : Nat → Url → StateM Net (Option Answer)
  | 0, _ => return none
  | fuel + 1, url => do
    let net ← get
    match net.servers.get? url.authority with
    | none => return none
    | some answers =>
      set { net with requests := ⟨url.target, headers⟩ :: net.requests }
      let answer := (answers.get? url.target).getD { status := 404 }
      match answer.location with
      | some location =>
        if answer.status = 301 || answer.status = 302 then
          match redirected url location with
          | some next => send headers fuel next
          | none => return some answer
        else return some answer
      | none => return some answer

/-- Whether a request can be addressed to a host. Quotes and braces may stand in the name of a host
but not in the address of a request. -/
def isAddress (host : String) : Bool :=
  host.toList.all fun c => c ≠ '"' && c.toNat ≠ 0x60 && c.toNat ≠ 0x7b && c.toNat ≠ 0x7d

/-- The most redirections that are followed. -/
def maxRedirects : Nat := 10

/-- Reads a document from the web. -/
def read (settings : Settings) (media : Media) (uri : String) (headers : List (String × String)) :
    ExceptT Fault (StateM Net) Value := do
  let url ← ExceptT.mk (pure (Resource.parseUri uri))
  if !headers.all fun (name, value) => isHeaderName name && isHeaderValue value then
    throw (.provider uri "HTTP request failed: builder error")
  if !isAddress (url.host.getD "") then
    throw (.provider uri ("HTTP request failed: builder error for url (" ++ url.render ++ ")"))
  match ← ExceptT.lift (send (requestHeaders settings headers) (maxRedirects + 1) url) with
  | none =>
    throw (.provider uri
      ("HTTP request failed: error sending request for url (" ++ url.render ++ ")"))
  | some answer =>
    if answer.status ≠ 200 then
      throw (.provider uri
        ("unexpected HTTP status " ++ toString answer.status ++ " " ++ reason answer.status))
    match Text.ofUtf8 answer.body with
    | .ok text =>
      match media.decode? text with
      | some value => return value
      | none => throw (.codec media)
    | .error _ => throw (.codec media)

end DocMachine.Provider.Web
