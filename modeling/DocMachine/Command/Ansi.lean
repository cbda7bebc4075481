/-!
# Colours

Text with the control sequences that colour it on a terminal.
-/

namespace DocMachine.Ansi

/-- Text between the sequence of a style and the one that ends it. -/
def styled (code text : String) : String :=
  "\x1b[" ++ code ++ "m" ++ text ++ "\x1b[0m"

/-- Green text. -/
def green : String → String := styled "32"

/-- Red text. -/
def red : String → String := styled "31"

/-- Cyan text. -/
def cyan : String → String := styled "36"

/-- Bold text. -/
def bold : String → String := styled "1"

/-- Gray text. -/
def gray : String → String := styled "90"

/-- A label in bold green, at the right of a field of twelve characters. -/
def statusLabel (label : String) : String :=
  styled "1;32" (String.ofList (List.replicate (12 - label.length) ' ') ++ label)

end DocMachine.Ansi
