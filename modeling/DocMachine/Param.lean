import DocMachine.Fault

/-!
# Typed parameters

Readers that take one parameter value apart. A record of parameters is read field by field in the
order in which the fields were written, so the first bad field is the one reported; fields that are
missing are reported last.
-/

namespace DocMachine.Param

/-- A result or the reason why parameters do not fit. -/
abbrev Read (α : Type) := Except ParamFault α

/-- A count or an offset. -/
def count : Value → Read Nat
  | .num (.int i) => if i < 0 then .error (.negative i) else .ok i.toNat
  | other => .error (.wrongType other .count)

/-- A truth value; numbers do not count. -/
def boolean : Value → Read Bool
  | .bool b => .ok b
  | other => .error (.wrongType other .boolean)

/-- A text. -/
def string : Value → Read String
  | .str s => .ok s
  | other => .error (.wrongType other .string)

/-- Anything but null, or nothing. -/
def optional {α : Type} (read : Value → Read α) : Value → Read (Option α)
  | .null => .ok none
  | other => (read other).map some

/-- A sequence of things. -/
def sequence {α : Type} (read : Value → Read α) : Value → Read (List α)
  | .arr items => items.mapM read
  | other => .error (.wrongType other .sequence)

/-- A map with values of any type. -/
def map : Value → Read Scope
  | .obj fields => .ok fields
  | other => .error (.wrongType other .map)

/-- Reads the fields of a record in order, from the record of all defaults. -/
def record {α : Type} (defaults : α) (field : α → String → Value → Read α) (params : Scope) :
    Read α :=
  params.foldlM (fun acc entry => field acc entry.1 entry.2) defaults

/-- A field that has to be given. -/
def required {α : Type} (name : String) : Option α → Read α
  | some a => .ok a
  | none => .error (.missing name)

end DocMachine.Param
