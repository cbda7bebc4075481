import DocMachine.Act
import DocMachine.Format.Template

/-!
# Filling format strings

The op that fills a format string: fields by position take values from the stack, the deepest first,
and fields by name take parameters.
-/

namespace DocMachine.Format

variable {ω π : Type}

/-- A part of a format string's work, with its faults as type faults. -/
def formatting {α : Type} (result : Except TemplateFault α) : Act ω π α :=
  Act.ofExcept (result.mapError fun fault => .type (.template fault))

/-- Fills a format string with values from the stack and with parameters. -/
def fill (scope : Scope) : Act ω π (List Value) := do
  match scope.get? "fmt" with
  | some (.str text) =>
    let template ← formatting (Template.parse text)
    let args ← Act.popMany template.positionalCount
    return [.str (← formatting (template.render args (scope.erase "fmt")))]
  | some _ => Act.blame .formatNotText
  | none => Act.blame (.missing "fmt")

end DocMachine.Format
