/-!
# Arguments

The command line: a command with its arguments and options, which may come in any order. The option
for the settings file is also taken ahead of the command. Whatever does not fit is a usage error.
-/

namespace DocMachine

/-- What the program is asked to do. -/
inductive Command where
  | run (target : String) (quiet : Bool)
  | test (target : String) (filter : Option String)
  | eval (lines : List String) (quiet : Bool)
  | repl
  deriving DecidableEq

/-- A command and the settings file to use. -/
structure Invocation where
  config : Option String
  command : Command
  deriving DecidableEq

namespace Args

/-- The words that name commands. -/
inductive Verb where
  | run
  | test
  | eval
  | repl
  deriving DecidableEq

/-- The word itself. -/
def Verb.name : Verb → String
  | .run => "run"
  | .test => "test"
  | .eval => "eval"
  | .repl => "repl"

/-- The command that a word names. -/
def Verb.ofName? : String → Option Verb
  | "run" => some .run
  | "test" => some .test
  | "eval" => some .eval
  | "repl" => some .repl
  | _ => none

/-- The most arguments of a command. -/
def Verb.limit : Verb → Option Nat
  | .run => some 1
  | .test => some 1
  | .eval => none
  | .repl => some 0

/-- Why there is nothing to do: the arguments do not fit, or they ask for the version or for help,
on a command or on the program. -/
inductive Halt where
  | usage
  | version
  | help (verb : Option Verb)
  deriving DecidableEq

/-- What was read of the arguments of a command. -/
structure Reading where
  words : List String := []
  quiet : Bool := false
  filter : Option String := none
  config : Option String := none

/-- Whether an argument looks like an option. -/
def isOption (arg : String) : Bool :=
  match arg.toList with
  | ['-'] => false
  | '-' :: _ => true
  | _ => false

/-- The name and the attached value of a long option. -/
def longOption? (arg : String) : Option (String × Option String) :=
  match arg.toList with
  | '-' :: '-' :: body =>
    match body.span (· ≠ '=') with
    | (name, _ :: value) => some (String.ofList name, some (String.ofList value))
    | (name, []) => some (String.ofList name, none)
  | _ => none

/-- The value of an option: attached, or the argument that follows. -/
def valueOf : Option String → List String → Except Halt (String × List String)
  | some value, rest => .ok (value, rest)
  | none, value :: rest => if isOption value then .error .usage else .ok (value, rest)
  | none, [] => .error .usage

/-- Notes the settings file, which is named once. -/
def setConfig (reading : Reading) (path : String) : Except Halt Reading :=
  if path.isEmpty || reading.config.isSome then .error .usage
  else .ok { reading with config := some path }

/-- Asks for quiet, which is done once, of the commands that can be quiet. -/
def setQuiet (verb : Verb) (reading : Reading) : Except Halt Reading :=
  if reading.quiet || !(verb = .run || verb = .eval) then .error .usage
  else .ok { reading with quiet := true }

/-- Notes a filter, which is given once, for tests. -/
def setFilter (verb : Verb) (reading : Reading) (filter : String) : Except Halt Reading :=
  if reading.filter.isSome || verb ≠ .test then .error .usage
  else .ok { reading with filter := some filter }

/-- Notes an argument, if the command takes one more. -/
def addWord (verb : Verb) (reading : Reading) (word : String) : Except Halt Reading :=
  if verb.limit.all fun limit => reading.words.length < limit then
    .ok { reading with words := reading.words ++ [word] }
  else .error .usage

/-- Reads letters that stand together after one hyphen. -/
def readLetters (verb : Verb) (reading : Reading) : List Char → Except Halt Reading
  | [] => .ok reading
  | 'q' :: rest => do readLetters verb (← setQuiet verb reading) rest
  | 'h' :: _ => .error (.help (some verb))
  | _ => .error .usage

/-- Reads the arguments of a command. The fuel bounds their count. -/
def readWords (verb : Verb) : Nat → Reading → List String → Except Halt Reading
  | 0, reading, _ => .ok reading
  | _ + 1, reading, [] => .ok reading
  | fuel + 1, reading, arg :: rest =>
    if arg = "--" then rest.foldlM (addWord verb) reading
    else
      match longOption? arg, isOption arg with
      | some ("config", value), _ => do
        let (path, rest) ← valueOf value rest
        readWords verb fuel (← setConfig reading path) rest
      | some ("filter", value), _ => do
        if verb ≠ .test then throw .usage
        let (filter, rest) ← valueOf value rest
        readWords verb fuel (← setFilter verb reading filter) rest
      | some ("quiet", none), _ => do readWords verb fuel (← setQuiet verb reading) rest
      | some ("help", none), _ => .error (.help (some verb))
      | some _, _ => .error .usage
      | none, true => do
        readWords verb fuel (← readLetters verb reading (arg.toList.drop 1)) rest
      | none, false => do readWords verb fuel (← addWord verb reading arg) rest

/-- The command that a reading amounts to. -/
def commandOf (verb : Verb) (reading : Reading) : Except Halt Command :=
  match verb, reading.words with
  | .run, [target] => .ok (.run target reading.quiet)
  | .test, [target] => .ok (.test target reading.filter)
  | .eval, line :: lines => .ok (.eval (line :: lines) reading.quiet)
  | .repl, [] => .ok .repl
  | _, _ => .error .usage

/-- What the words after a request for help ask for. -/
def helpOn : List String → Halt
  | [] => .help none
  | [word] =>
    match Verb.ofName? word with
    | some verb => .help (some verb)
    | none => .usage
  | _ => .usage

/-- Reads the arguments up to a command, and then those of the command. The settings file named last
counts. The fuel bounds the count of arguments. -/
def readTop : Nat → Reading → List String → Except Halt Invocation
  | 0, _, _ => .error .usage
  | _ + 1, _, [] => .error .usage
  | fuel + 1, reading, arg :: rest =>
    if arg = "--" then .error .usage
    else
      match longOption? arg, isOption arg with
      | some ("config", value), _ => do
        let (path, rest) ← valueOf value rest
        readTop fuel (← setConfig reading path) rest
      | some ("help", none), _ => .error (.help none)
      | some ("version", none), _ => .error .version
      | some _, _ => .error .usage
      | none, true =>
        match arg.toList with
        | '-' :: 'h' :: _ => .error (.help none)
        | '-' :: 'V' :: _ => .error .version
        | _ => .error .usage
      | none, false =>
        match Verb.ofName? arg with
        | some verb => do
          let inner ← readWords verb (rest.length + 1) {} rest
          let command ← commandOf verb inner
          return { config := inner.config <|> reading.config, command }
        | none => if arg = "help" then .error (helpOn rest) else .error .usage

/-- The invocation that arguments ask for. -/
def parse (args : List String) : Except Halt Invocation :=
  readTop (args.length + 1) {} args

end Args

end DocMachine
