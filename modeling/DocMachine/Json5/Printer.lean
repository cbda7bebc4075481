import DocMachine.Json.Printer

/-!
# Written relaxed JSON

The compact form with two differences: floats have no exponent and whole ones no point, and of the
controls only those with a letter of their own are escaped, but so is the slash.
-/

namespace DocMachine.Json5

/-- The escapes of the relaxed dialect. -/
def escape (c : Char) : List Char :=
  if c = '"' then ['\\', '"']
  else if c = '\\' then ['\\', '\\']
  else if c = '/' then ['\\', '/']
  else if c = '\n' then ['\\', 'n']
  else if c = '\r' then ['\\', 'r']
  else if c = '\t' then ['\\', 't']
  else if c = '\x08' then ['\\', 'b']
  else if c = '\x0c' then ['\\', 'f']
  else [c]

/-- The style of the relaxed dialect. -/
def relaxed : Json.Style :=
  ⟨fun x => (FloatStyle.plain.render x).toList, escape⟩

/-- The text of a value. -/
def compact (v : Value) : String :=
  String.ofList (Json.write relaxed v)

end DocMachine.Json5
