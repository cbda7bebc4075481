import DocMachine.Text.Blank
import DocMachine.Url.Host

/-!
# URLs

A URL names where a value lives. The scheme selects the plugin that serves it; what follows is a
host and a path, or for schemes such as `locals:` an opaque rest that is the path as it stands.

Web and file URLs are *special*: a backslash acts as a slash and the path is never empty. Paths
that start with a slash have their dot segments resolved.
-/

namespace DocMachine

/-- A URL in its parts. User names and passwords are not kept. -/
structure Url where
  scheme : String
  host : Option String
  port : Option Nat
  path : String
  query : Option String
  fragment : Option String

namespace Url

/-- The schemes of the web, with their usual ports. -/
def webPorts : List (String × Nat) :=
  [("http", 80), ("https", 443), ("ws", 80), ("wss", 443), ("ftp", 21)]

/-- Whether a scheme belongs to the web. -/
def isWeb (scheme : String) : Bool :=
  (webPorts.lookup scheme).isSome

/-- Whether a backslash acts as a slash and the path is never empty. -/
def isSpecial (scheme : String) : Bool :=
  isWeb scheme || scheme = "file"

/-- The characters that end a scheme-specific part. -/
def isTail (c : Char) : Bool := c = '?' || c = '#'

/-- The characters that separate path segments. -/
def isSlash (special : Bool) (c : Char) : Bool := c = '/' || (special && c = '\\')

/-! ## Paths -/

/-- The characters that stand for themselves in a path. -/
def staysInPath (c : Char) : Bool :=
  isPrintableAscii c && !" \"#<>?^`".toList.contains c && c ≠ '{' && c ≠ '}'

/-- A segment that names the directory itself. -/
def isSingleDot (segment : List Char) : Bool :=
  segment = ['.'] || segment.map Char.toLower = "%2e".toList

/-- A segment that names the parent directory. -/
def isDoubleDot (segment : List Char) : Bool :=
  [['.', '.'], "%2e%2e".toList, "%2e.".toList, ".%2e".toList].contains (segment.map Char.toLower)

/-- A letter and a colon or a bar: a drive. -/
def isDrive : List Char → Bool
  | [letter, mark] => letter.isAlpha && (mark = ':' || mark = '|')
  | _ => false

/-- The segments without the last one. A drive at the root of a file path stays. -/
def shorten (file : Bool) (segments : List (List Char)) : List (List Char) :=
  match segments with
  | [drive] => if file && isDrive drive && drive.getLast? = some ':' then segments else []
  | _ => segments.dropLast

/-- Adds a segment. A drive at the root of a file path is written with a colon. -/
def append (file : Bool) (segments : List (List Char)) (segment : List Char) : List (List Char) :=
  if file && segments.isEmpty && isDrive segment then [segment.take 1 ++ [':']]
  else segments ++ [segment]

/-- Follows the segments of a path, from those already `resolved`. -/
def resolve (file : Bool) (resolved : List (List Char)) : List (List Char) → List (List Char)
  | [] => resolved
  | [segment] =>
    if isDoubleDot segment then shorten file resolved ++ [[]]
    else if isSingleDot segment then resolved ++ [[]]
    else append file resolved (Text.percentEncode staysInPath segment)
  | segment :: rest =>
    if isDoubleDot segment then resolve file (shorten file resolved) rest
    else if isSingleDot segment then resolve file resolved rest
    else resolve file (append file resolved (Text.percentEncode staysInPath segment)) rest

/-- The path of the segments in `body`, which may start with a slash. -/
def rootedPath (scheme : String) (body : List Char) : List Char :=
  let special := isSpecial scheme
  let file := scheme = "file"
  let body :=
    match body with
    | c :: rest => if isSlash special c then rest else body
    | [] => []
  let path := joinWith '/' (resolve file [] (splitAt (isSlash special) body))
  '/' :: (if file then path.dropWhile (· = '/') else path)

/-! ## Query and fragment -/

/-- The characters that stand for themselves in a query. -/
def staysInQuery (special : Bool) (c : Char) : Bool :=
  isPrintableAscii c && !" \"#<>".toList.contains c && !(special && c = '\'')

/-- The characters that stand for themselves in a fragment. -/
def staysInFragment (c : Char) : Bool :=
  isPrintableAscii c && !" \"<>`".toList.contains c

/-- Completes a URL by the query and the fragment in `tail`. -/
def withTail (url : Url) (tail : List Char) : Url :=
  let (query, rest) := tail.span (· ≠ '#')
  { url with
    query :=
      match query with
      | '?' :: text =>
        some (String.ofList (Text.percentEncode (staysInQuery (isSpecial url.scheme)) text))
      | _ => none
    fragment :=
      match rest with
      | '#' :: text => some (String.ofList (Text.percentEncode staysInFragment text))
      | _ => none }

/-! ## Authorities -/

/-- The text up to the last at sign of an authority, and the characters after it. -/
def splitUser (special : Bool) (chars : List Char) : Option (List Char × List Char) :=
  let authority := chars.takeWhile fun c => !(isSlash special c || isTail c)
  if authority.contains '@' then
    let after := (authority.reverse.takeWhile (· ≠ '@')).length
    let user := authority.take (authority.length - after - 1)
    some (user, chars.drop (user.length + 1))
  else none

/-- The characters of a host and those after it. A colon ends it unless it is between brackets. -/
def spanHost (special : Bool) : Bool → List Char → List Char × List Char
  | _, [] => ([], [])
  | inside, c :: rest =>
    if (c = ':' && !inside) || isSlash special c || isTail c then ([], c :: rest)
    else
      let (host, rest) := spanHost special (c = '[' || (inside && c ≠ ']')) rest
      (c :: host, rest)

/-- A port and the characters after it. The usual port of the scheme is not kept. -/
def readPort (scheme : String) (chars : List Char) : Except UrlFault (Option Nat × List Char) :=
  let (digits, rest) := spanDigits chars
  let ends :=
    match rest with
    | [] => true
    | c :: _ => c = '/' || c = '\\' || isTail c
  let port := natOfDigits digits
  if 65535 < port || !ends then .error .port
  else if digits.isEmpty || webPorts.lookup scheme = some port then .ok (none, rest)
  else .ok (some port, rest)

/-- The part of a URL after two slashes: a host, a port and a path. -/
def readAuthority (scheme : String) (chars : List Char) : Except UrlFault Url := do
  let special := isSpecial scheme
  let (user, chars) ←
    match splitUser special chars with
    | none => pure ([], chars)
    | some ([], rest) =>
      match rest with
      | c :: _ => if isSlash special c || isTail c then throw .emptyHost else pure ([], rest)
      | [] => pure ([], rest)
    | some found => pure found
  let (hostChars, rest) := spanHost special false chars
  let host ← if special then specialHost hostChars else plainHost hostChars
  let (port, rest) ←
    match rest with
    | ':' :: rest => if host.isEmpty then throw .emptyHost else readPort scheme rest
    | _ => pure (none, rest)
  if host.isEmpty && !user.isEmpty && user ≠ [':'] then throw .emptyHost
  let (body, tail) := rest.span fun c => !isTail c
  let path := if body.isEmpty && !special then [] else rootedPath scheme body
  let url : Url :=
    { scheme
      host := if host.isEmpty then none else some (String.ofList host)
      port
      path := String.ofList path
      query := none
      fragment := none }
  return url.withTail tail

/-! ## Files -/

/-- A file URL with the given host, from the start of its path on. -/
def filePath (host : Option String) (chars : List Char) : Url :=
  let (body, tail) := chars.span fun c => !isTail c
  let url : Url :=
    { scheme := "file"
      host
      port := none
      path := String.ofList (rootedPath "file" body)
      query := none
      fragment := none }
  url.withTail tail

/-- The part of a file URL after its scheme. The local host need not be named, and a drive is no
host. -/
def readFile (chars : List Char) : Except UrlFault Url :=
  match chars with
  | a :: b :: rest =>
    if isSlash true a && isSlash true b then
      let (hostChars, after) := rest.span fun c => !(isSlash true c || isTail c)
      if hostChars.isEmpty || isDrive hostChars then .ok (filePath none rest)
      else do
        let host := String.ofList (← specialHost hostChars)
        return filePath (if host = "localhost" then none else some host) after
    else .ok (filePath none chars)
  | _ => .ok (filePath none chars)

/-! ## Whole URLs -/

/-- The scheme ahead, in lower case, and the characters after its colon. -/
def readScheme : List Char → Option (List Char × List Char)
  | [] => none
  | first :: rest =>
    if first.isAlpha then
      match rest.span fun c => c.isAlphanum || c = '+' || c = '-' || c = '.' with
      | (more, ':' :: after) => some ((first :: more).map Char.toLower, after)
      | _ => none
    else none

/-- The part of a URL after the scheme when it names neither a host nor a rooted path. -/
def flatPath (scheme : String) (chars : List Char) : Url :=
  let (body, tail) := chars.span fun c => !isTail c
  let url : Url :=
    { scheme
      host := none
      port := none
      path := String.ofList (Text.percentEncode isPrintableAscii body)
      query := none
      fragment := none }
  url.withTail tail

/-- A path that starts at the root, without a host. -/
def hostless (scheme : String) (chars : List Char) : Url :=
  let (body, tail) := chars.span fun c => !isTail c
  let url : Url :=
    { scheme
      host := none
      port := none
      path := String.ofList (rootedPath scheme body)
      query := none
      fragment := none }
  url.withTail tail

/-- The characters of a URL: none of its tabs and line ends, and no controls or blanks at its
ends. -/
def clean (text : String) : List Char :=
  (Text.trimChars (fun c => decide (c.toNat ≤ 0x20)) text.toList).filter fun c =>
    !(c = '\t' || c = '\n' || c = '\r')

/-- The URL that a text denotes. -/
def parse (text : String) : Except UrlFault Url :=
  match readScheme (clean text) with
  | none => .error .relative
  | some (schemeChars, rest) =>
    let scheme := String.ofList schemeChars
    if scheme = "file" then readFile rest
    else if isWeb scheme then readAuthority scheme (rest.dropWhile (isSlash true))
    else
      match rest with
      | '/' :: '/' :: rest => readAuthority scheme rest
      | '/' :: _ => .ok (hostless scheme rest)
      | _ => .ok (flatPath scheme rest)

/-- The path and query that a server is asked for. -/
def target (url : Url) : String :=
  url.path ++ (match url.query with
    | some query => "?" ++ query
    | none => "")

/-- The host with its port. -/
def authority (url : Url) : String :=
  url.host.getD "" ++ (match url.port with
    | some port => ":" ++ toString port
    | none => "")

/-- The text of a URL with a host. -/
def render (url : Url) : String :=
  url.scheme ++ "://" ++ url.authority ++ url.target ++ (match url.fragment with
    | some fragment => "#" ++ fragment
    | none => "")

end Url

end DocMachine
