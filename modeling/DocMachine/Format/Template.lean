import DocMachine.Format.Spec

/-!
# Format strings

A template is text with fields in braces. A field takes an argument by position or by name, may look
into it, and may say how it is converted and laid out: `{name.key[0]!r:spec}`. A doubled brace
is a brace.

* `Template.parse` reads a format string.
* `Template.render` fills the fields.
-/

namespace DocMachine.Format

/-- What a field takes: the next argument, the one at an index, or a named one. -/
inductive Arg where
  | next
  | index (i : Nat)
  | name (name : String)
  deriving DecidableEq

/-- A field: its argument, the keys that lead into it, a conversion and a specifier. -/
structure Field where
  arg : Arg
  path : List String
  conversion : Option Char
  spec : String
  deriving DecidableEq

/-- A part of a template. -/
inductive Piece where
  | text (c : Char)
  | field (field : Field)
  deriving DecidableEq

/-- A format string in its parts. -/
abbrev Template := List Piece

/-- An index: digits, after an optional plus. -/
def index? (s : String) : Option Nat :=
  let digits :=
    match s.toList with
    | '+' :: rest => rest
    | chars => chars
  if digits.isEmpty || !digits.all Char.isDigit then none else word? digits

namespace Field

/-- Whether a character begins an accessor. -/
def isAccessor (c : Char) : Bool := c = '.' || c = '['

/-- The keys of a chain of accessors. The fuel bounds their count. -/
def accessors : Nat → List Char → Except TemplateFault (List String)
  | _, [] => .ok []
  | 0, _ => .ok []
  | fuel + 1, '.' :: rest =>
    let (key, rest) := rest.span (!isAccessor ·)
    (accessors fuel rest).map (String.ofList key :: ·)
  | fuel + 1, '[' :: rest =>
    match rest.span (· ≠ ']') with
    | (key, ']' :: rest) => (accessors fuel rest).map (String.ofList key :: ·)
    | _ => .error .unclosedIndex
  | _, _ => .error .badAccessor

/-- The argument that a field's name asks for. -/
def argOf (name : String) : Arg :=
  if name.isEmpty then .next
  else
    match index? name with
    | some i => .index i
    | none => .name name

/-- The conversion after the first exclamation mark, and what stands before it. -/
def conversionOf (chars : List Char) : Except TemplateFault (List Char × Option Char) :=
  match chars.span (· ≠ '!') with
  | (head, [_, letter]) => .ok (head, some letter)
  | (head, []) => .ok (head, none)
  | _ => .error .badConversion

/-- A field from the characters between its braces. -/
def parse (chars : List Char) : Except TemplateFault Field := do
  let (head, spec) := chars.span (· ≠ ':')
  let (head, conversion) ← conversionOf head
  let (name, rest) := head.span (!isAccessor ·)
  let path ← accessors rest.length rest
  return { arg := argOf (String.ofList name), path, conversion, spec := String.ofList spec.tail }

end Field

namespace Template

/-- The characters of a field up to its closing brace, and the characters after it. -/
def fieldBody : List Char → Except TemplateFault (List Char × List Char)
  | [] => .error .unclosed
  | '\x7d' :: rest => .ok ([], rest)
  | '\x7b' :: _ => .error .nested
  | c :: rest => (fieldBody rest).map fun (body, after) => (c :: body, after)

/-- The parts of a format string. The fuel bounds their count. -/
def pieces : Nat → List Char → Except TemplateFault Template
  | _, [] => .ok []
  | 0, _ => .ok []
  | fuel + 1, '\x7b' :: '\x7b' :: rest => (pieces fuel rest).map (.text '\x7b' :: ·)
  | fuel + 1, '\x7d' :: '\x7d' :: rest => (pieces fuel rest).map (.text '\x7d' :: ·)
  | _ + 1, '\x7d' :: _ => .error .strayClose
  | fuel + 1, '\x7b' :: rest => do
    let (body, after) ← fieldBody rest
    let field ← Field.parse body
    (pieces fuel after).map (.field field :: ·)
  | fuel + 1, c :: rest => (pieces fuel rest).map (.text c :: ·)

/-- The parts of a format string. -/
def parse (text : String) : Except TemplateFault Template :=
  pieces text.toList.length text.toList

/-- Whether a part takes its argument by position. -/
def isPositional : Piece → Bool
  | .field { arg := .next, .. } => true
  | .field { arg := .index _, .. } => true
  | _ => false

/-- The number of fields that take their argument by position. -/
def positionalCount (template : Template) : Nat :=
  template.countP isPositional

/-- The entry of a value under a key. -/
def entry (value : Value) (key : String) : Except TemplateFault Value :=
  let found :=
    match value with
    | .arr items => (index? key).bind fun i => items[i]?
    | .obj fields => Table.get? fields key
    | _ => none
  match found with
  | some v => .ok v
  | none => .error (.noEntry key value)

/-- A value as it would be written in a program: strings stand in single quotes. -/
def quote : Value → String
  | .str s =>
    let escape (c : Char) : List Char := if c = '\\' || c = '\'' then ['\\', c] else [c]
    "'" ++ String.ofList (s.toList.flatMap escape) ++ "'"
  | other => Json.compact other

/-- The text of a value under a conversion. -/
def convert (value : Value) : Option Char → Except TemplateFault String
  | none => .ok value.display
  | some 's' => .ok value.display
  | some 'r' => .ok (quote value)
  | some letter => .error (.unknownConversion letter)

/-- How arguments were taken by position so far. -/
inductive Numbering where
  | unset
  | automatic (next : Nat)
  | manual
  deriving DecidableEq

/-- The argument at an index. -/
def positional (args : List Value) (i : Nat) : Except TemplateFault Value :=
  match args[i]? with
  | some v => .ok v
  | none => .error (.indexOutside i)

/-- The argument of a field, and how arguments have been taken by then. -/
def argument (args : List Value) (named : Scope) (numbering : Numbering) :
    Arg → Except TemplateFault (Value × Numbering)
  | .next =>
    match numbering with
    | .unset => (positional args 0).map (·, .automatic 1)
    | .automatic next => (positional args next).map (·, .automatic (next + 1))
    | .manual => .error .manualToAutomatic
  | .index i =>
    match numbering with
    | .automatic _ => .error .automaticToManual
    | _ => (positional args i).map (·, .manual)
  | .name name =>
    match named.get? name with
    | some v => .ok (v, numbering)
    | none => .error (.noKeyword name)

/-- The text of a field with the given argument. -/
def renderField (field : Field) (base : Value) : Except TemplateFault String := do
  let value ← field.path.foldlM entry base
  let rendered ← convert value field.conversion
  if field.spec.isEmpty then return rendered
  let spec ← Spec.parse field.spec.toList
  spec.apply value rendered

/-- Fills the fields from left to right. -/
def renderFrom (args : List Value) (named : Scope) :
    Numbering → Template → Except TemplateFault String
  | _, [] => .ok ""
  | numbering, .text c :: rest => do
    return c.toString ++ (← renderFrom args named numbering rest)
  | numbering, .field field :: rest => do
    let (base, numbering) ← argument args named numbering field.arg
    let text ← renderField field base
    return text ++ (← renderFrom args named numbering rest)

/-- Fills the fields. -/
def render (template : Template) (args : List Value) (named : Scope) :
    Except TemplateFault String :=
  renderFrom args named .unset template

end Template

end DocMachine.Format
