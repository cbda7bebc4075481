import DocMachine.Media
import DocMachine.Url

/-!
# Faults

What can go wrong, by cause, and the one wording of each cause. A `Failure` is a fault together with
the activations it unwound, innermost first. A handler may also fail with a fault that has unwound
some activations before, and such a trace is carried on.
-/

namespace DocMachine

/-- The part that a plugin plays. -/
inductive Role where
  | getter
  | putter
  | deleter
  deriving DecidableEq

namespace Role

/-- The role in words. -/
def name : Role → String
  | getter => "getter"
  | putter => "putter"
  | deleter => "deleter"

end Role

/-- The two sets of variables that a program sees. -/
inductive Reach where
  | locals
  | globals
  deriving DecidableEq

namespace Reach

/-- The adjective of a variable. -/
def name : Reach → String
  | locals => "local"
  | globals => "global"

/-- The scheme that addresses the variables. -/
def scheme : Reach → String
  | locals => "locals"
  | globals => "globals"

end Reach

/-- The blocks that control words open. -/
inductive Block where
  | conditional
  | loop
  deriving DecidableEq

namespace Block

/-- The word that opens the block. -/
def opener : Block → String
  | conditional => "if"
  | loop => "begin"

end Block

/-! ## Parameters -/

/-- What a parameter has to be. -/
inductive Wanted where
  | count
  | boolean
  | string
  | sequence
  | map
  | testCase
  | check
  deriving DecidableEq

namespace Wanted

/-- The requirement in words. -/
def describe : Wanted → String
  | count => "usize"
  | boolean => "a boolean"
  | string => "a string"
  | sequence => "a sequence"
  | map => "a map"
  | testCase => "struct TestCase"
  | check => "struct Check"

end Wanted

/-- A value as a complaint about its type names it. -/
def Value.found : Value → String
  | .null => "null"
  | .bool b => "boolean `" ++ toString b ++ "`"
  | .num (.int i) => "integer `" ++ toString i ++ "`"
  | .num (.float x) => "floating point `" ++ FloatStyle.document.render x ++ "`"
  | .str s => "string " ++ Text.quoted s
  | .arr _ => "sequence"
  | .obj _ => "map"

/-- Why parameters do not fit. -/
inductive ParamFault where
  | unexpected (key : String)
  | missing (field : String)
  | unknown (field : String) (known : List String)
  | wrongType (value : Value) (wanted : Wanted)
  | negative (value : Int)
  | tooLong (length : Nat)
  | offsetOutside (offset size : Nat)
  | keyCount (keys items : Nat)
  | absentKey (key : String)
  | formatNotText

namespace ParamFault

private def ticked (name : String) : String := "`" ++ name ++ "`"

/-- The choice among known names: one alone, two with `or`, more as a list. -/
def choice : List String → String
  | [one] => ticked one
  | [one, two] => ticked one ++ " or " ++ ticked two
  | many => "one of " ++ String.intercalate ", " (many.map ticked)

/-- The fault in words. -/
def message : ParamFault → String
  | unexpected key => "unexpected parameter '" ++ key ++ "'"
  | missing field => "missing field " ++ ticked field
  | unknown field known => "unknown field " ++ ticked field ++ ", expected " ++ choice known
  | wrongType value wanted => "invalid type: " ++ value.found ++ ", expected " ++ wanted.describe
  | negative value =>
    "invalid value: integer " ++ ticked (toString value) ++ ", expected " ++ Wanted.count.describe
  | tooLong length =>
    "invalid length " ++ toString length ++ ", expected fewer elements in array"
  | offsetOutside offset size =>
    "offset " ++ toString offset ++ " is outside the " ++ toString size ++ " swapped item(s)"
  | keyCount keys items =>
    toString keys ++ " key(s) given for " ++ toString items ++ " packed item(s)"
  | absentKey key => "key '" ++ key ++ "' is not in the unpacked value"
  | formatNotText => "'fmt' must be a string"

end ParamFault

/-! ## Documents -/

/-- Why a document is not a procedure. -/
inductive ProcedureFault where
  | notObject (type : String)
  | field (fault : ParamFault)
  | badInclude (name : String)
  | badOpName (type : String)
  | included (name : String) (fault : ProcedureFault)
  | registered (name : String) (fault : ProcedureFault)

namespace ProcedureFault

/-- The words before every fault of a document. -/
def heading : String := "invalid procedure: "

/-- The fault in words. -/
def message : ProcedureFault → String
  | notObject type => "expected a key-value array, got " ++ type
  | field fault => fault.message
  | badInclude name =>
    "include '" ++ name ++ "' is not a uri (string) or an op (key-value array)"
  | badOpName type => "op name must be a string, got " ++ type
  | included name fault => "include '" ++ name ++ "': " ++ heading ++ fault.message
  | registered name fault => "op '" ++ name ++ "': " ++ heading ++ fault.message

end ProcedureFault

/-! ## Addresses -/

/-- Why a URI cannot be used. -/
inductive UriFault where
  | url (fault : UrlFault)
  | noVariable
  | notFile
  | emptyPath
  | encoding (fault : Text.Utf8Fault)

namespace UriFault

/-- The fault in words. -/
def message : UriFault → String
  | url fault => fault.message
  | noVariable => "no variable name"
  | notFile => "expected a file: URI"
  | emptyPath => "empty path"
  | encoding fault => fault.message

end UriFault

/-! ## Types -/

/-- Why a format string cannot be rendered. Two of the causes are not for anyone to take up, as they end
the program: a fill that no text can hold, and a number with more digits than can be asked for. -/
inductive TemplateFault where
  | strayClose
  | unclosed
  | nested
  | badConversion
  | unclosedIndex
  | badAccessor
  | manualToAutomatic
  | automaticToManual
  | indexOutside (index : Nat)
  | noKeyword (name : String)
  | unknownConversion (letter : Char)
  | noEntry (key : String) (value : Value)
  | missingPrecision
  | badSpec (text : String)
  | unknownCode (letter : Char) (type : String)
  | unknownNumberCode (letter : Char)
  | capacity
  | digitCount

namespace TemplateFault

/-- The fault in words. -/
def message : TemplateFault → String
  | strayClose => "single '\x7d' encountered"
  | unclosed => "single '\x7b' encountered"
  | nested => "nested replacement fields are not supported"
  | badConversion => "expected a single conversion character after '!'"
  | unclosedIndex => "missing ']' in field name"
  | badAccessor => "only '.' or '[' may follow ']' in a field name"
  | manualToAutomatic => "cannot switch from manual field numbering to automatic"
  | automaticToManual => "cannot switch from automatic field numbering to manual"
  | indexOutside index => "replacement index " ++ toString index ++ " out of range"
  | noKeyword name => "no keyword argument '" ++ name ++ "'"
  | unknownConversion letter => "unknown conversion '!" ++ letter.toString ++ "'"
  | noEntry key value => "cannot look up '" ++ key ++ "' in " ++ Json.compact value
  | missingPrecision => "format specifier missing precision"
  | badSpec text => "invalid format specifier '" ++ text ++ "'"
  | unknownCode letter type => "unknown format code '" ++ letter.toString ++ "' for " ++ type
  | unknownNumberCode letter => "unknown format code '" ++ letter.toString ++ "' for a number"
  | capacity => "capacity overflow"
  | digitCount => "Formatting argument out of range"

end TemplateFault

/-- Why an op does not take the values it met. -/
inductive TypeFault where
  | operands (symbol left right : String)
  | ordering (left right : String)
  | undefinedOrdering
  | nonFinite (value : Float)
  | noInt (type : String)
  | badIntText (text : String)
  | noFloat (type : String)
  | badFloatText (text : String)
  | unpackWithoutKeys (type : String)
  | unpackWithKeys (type : String)
  | nextParams (type : String)
  | template (fault : TemplateFault)

namespace TypeFault

/-- The fault in words. -/
def message : TypeFault → String
  | operands symbol left right =>
    "unsupported operand type(s) for " ++ symbol ++ ": '" ++ left ++ "' and '" ++ right ++ "'"
  | ordering left right =>
    "ordering not supported between '" ++ left ++ "' and '" ++ right ++ "'"
  | undefinedOrdering => "comparison with NaN is undefined"
  | nonFinite value => "non-finite float result: " ++ FloatStyle.plain.render value
  | noInt type => "cannot convert " ++ type ++ " to int"
  | badIntText text => "invalid literal for int: '" ++ text ++ "'"
  | noFloat type => "cannot convert " ++ type ++ " to float"
  | badFloatText text => "could not convert string to float: '" ++ text ++ "'"
  | unpackWithoutKeys type =>
    "cannot unpack a value of type '" ++ type ++ "' without keys"
  | unpackWithKeys type => "unpacking with keys expects an object, got '" ++ type ++ "'"
  | nextParams type =>
    "set_next_params expects an object on top of the stack, got '" ++ type ++ "'"
  | template fault => "format string: " ++ fault.message

end TypeFault

/-! ## All faults -/

/-- An activation that a fault unwound: its name and the index of the op it was at. -/
structure Site where
  frame : String
  pc : Int
  deriving DecidableEq

/-- The lines of a stack trace, numbered from the outermost activation. -/
def Site.traceLines (sites : List Site) : String :=
  String.join (sites.reverse.zipIdx.map fun (site, i) =>
    "\n  #" ++ toString i ++ ": " ++ site.frame ++ " (pc " ++ toString site.pc ++ ")")

/-- A cause of failure.

* `countOverflow` is not for anyone to take up, as it ends the program: a count that no word can hold.
* `traced` is a fault that has unwound activations already, innermost first. -/
inductive Fault where
  | unknownOp (name : String)
  | unknownModule (name : String)
  | missingPlugin (role : Role) (scheme : String) (media : Option String)
  | invalidProcedure (fault : ProcedureFault)
  | invalidParams (op : String) (fault : ParamFault)
  | invalidUri (uri : String) (fault : UriFault)
  | stackOverflow (limit : Nat)
  | stackUnderflow (needed available : Nat)
  | unterminated (block : Block)
  | unboundElse
  | repeatWithoutBegin
  | assertionFailed (text : String)
  | missingVariable (reach : Reach) (key : String)
  | type (fault : TypeFault)
  | divisionByZero
  | arithmeticOverflow
  | codec (media : Media)
  | provider (uri reason : String)
  | invalidFilter
  | includeCycle (uri : String)
  | checkFailed (test : String) (check : Nat) (expected actual : List Value)
  | countOverflow
  | traced (source : Fault) (sites : List Site)

namespace Fault

/-- The fault in words. -/
def message : Fault → String
  | unknownOp name => "unknown op: " ++ name
  | unknownModule name => "unknown module: " ++ name
  | missingPlugin role scheme media =>
    "no " ++ role.name ++ " registered for scheme '" ++ scheme ++ "' and media type " ++
      media.getD "(none)"
  | invalidProcedure fault => ProcedureFault.heading ++ fault.message
  | invalidParams op fault => "invalid parameters for op '" ++ op ++ "': " ++ fault.message
  | invalidUri uri fault => "invalid uri '" ++ uri ++ "': " ++ fault.message
  | stackOverflow limit => "stack overflow: call depth exceeded " ++ toString limit
  | stackUnderflow needed available =>
    "cannot pop " ++ toString needed ++ " value(s) from a stack of depth " ++ toString available
  | unterminated block => "unterminated " ++ block.opener ++ " statement"
  | unboundElse => "unbound else"
  | repeatWithoutBegin => "repeat without begin"
  | assertionFailed text => "assertion failed: " ++ text
  | missingVariable reach key => reach.name ++ " variable has not been set: " ++ key
  | type fault => "type error: " ++ fault.message
  | divisionByZero => "division by zero"
  | arithmeticOverflow => "arithmetic overflow"
  | codec media => media.name ++ " codec error: malformed text"
  | provider uri reason => uri ++ ": " ++ reason
  | invalidFilter => "invalid test filter: malformed pattern"
  | includeCycle uri => "include cycle through " ++ uri
  | checkFailed test check expected actual =>
    "check " ++ toString check ++ " of test '" ++ test ++ "' failed: expected " ++
      Json.compact (.arr expected) ++ ", got " ++ Json.compact (.arr actual)
  | countOverflow => "attempt to add with overflow"
  | traced source sites =>
    source.message ++ "\nStack trace (most recent call last):" ++ Site.traceLines sites

/-- Whether the fault ends the program. -/
def isCrash : Fault → Bool
  | type (.template .capacity) => true
  | type (.template .digitCount) => true
  | countOverflow => true
  | traced source _ => source.isCrash
  | _ => false

/-- The fault underneath all traces. -/
def root : Fault → Fault
  | traced source _ => source.root
  | fault => fault

/-- The activations that the fault has unwound already, innermost first. -/
def frames : Fault → List Site
  | traced _ sites => sites
  | _ => []

end Fault

/-- A fault and the activations it unwound, innermost first. -/
structure Failure where
  fault : Fault
  sites : List Site := []

namespace Failure

/-- The failure with the trace that its fault brings along as its own, if it has none yet. -/
def opened : Failure → Failure
  | ⟨.traced source sites, []⟩ => ⟨source, sites⟩
  | failure => failure

/-- The failure after it has left one more activation. -/
def through (failure : Failure) (site : Site) : Failure :=
  { failure.opened with sites := failure.opened.sites ++ [site] }

/-- The failure of a fault raised in the activation at `site`, which it leaves. -/
def raised (fault : Fault) (site : Site) : Failure :=
  (Failure.mk fault []).through site

/-- The fault underneath all traces. -/
def root (failure : Failure) : Fault :=
  failure.fault.root

/-- The activations that the failure tells of, innermost first. -/
def frames (failure : Failure) : List Site :=
  failure.opened.sites

/-- The whole report: the fault and, if activations were left, a stack trace. -/
def message (failure : Failure) : String :=
  if failure.sites.isEmpty then failure.fault.message
  else (Fault.traced failure.fault failure.sites).message

/-- The fault with the activations it left, innermost first, one a line. -/
def describe (failure : Failure) : String :=
  failure.root.message ++ String.join (failure.frames.map fun site =>
    "\n    at " ++ site.frame ++ " (pc " ++ toString site.pc ++ ")")

end Failure

end DocMachine
