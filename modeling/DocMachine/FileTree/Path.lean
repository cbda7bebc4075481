import DocMachine.Text.Blank

/-!
# Paths as text

A path is text with slashes between names. Repeated slashes, a slash at the end and a dot as a name
(unless it comes first) do not change what a path names, so they are passed over when its parent is
taken.
-/

namespace DocMachine.Path

/-- Whether a path starts at the root. -/
def isAbsolute (path : String) : Bool :=
  path.toList.head? = some '/'

/-- Whether a path ends in a slash. -/
def endsInSlash (path : String) : Bool :=
  path.toList.getLast? = some '/'

/-- A path below another one. An absolute path stands for itself. -/
def join (base path : String) : String :=
  if isAbsolute path || base.isEmpty then path
  else if endsInSlash base then base ++ path
  else base ++ "/" ++ path

/-- A reversed path without slashes and lone dots at its end. The fuel bounds their count. -/
def trimReversed : Nat → List Char → List Char
  | 0, chars => chars
  | fuel + 1, '/' :: rest => trimReversed fuel rest
  | fuel + 1, '.' :: '/' :: rest => trimReversed fuel rest
  | _, chars => chars

/-- The path without its last name. The root and the empty path have no parent. -/
def parent? (path : String) : Option String :=
  let reversed := path.toList.reverse
  let trimmed := trimReversed reversed.length reversed
  if trimmed.isEmpty then none
  else
    let before := trimmed.dropWhile (· ≠ '/')
    let parent := trimReversed before.length before
    if parent.isEmpty then some (if isAbsolute path then "/" else "")
    else some (String.ofList parent.reverse)

/-- The names of a path. A slash at the end counts as a dot: what it follows has to be a
directory. -/
def names (path : String) : List String :=
  let parts := ((path.toList.splitOn '/').map String.ofList).filter fun name => !name.isEmpty
  if endsInSlash path && !parts.isEmpty then parts ++ ["."] else parts

end DocMachine.Path
