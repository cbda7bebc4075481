/-!
# Lines

Text and bytes are cut into lines by one rule: a line ends with a line feed, of which a carriage
return before it is a part, and what follows the last line feed is a line unless it is empty.
-/

namespace DocMachine.Text

/-- The lines of a sequence, given what counts as line feed and as carriage return. `line` holds
what was read of the present line, the last first. -/
def linesFrom {α : Type} [DecidableEq α] (feed ret : α) (line : List α) : List α → List (List α)
  | [] => if line.isEmpty then [] else [line.reverse]
  | x :: rest =>
    if x = feed then
      let ended := if line.head? = some ret then line.tail else line
      ended.reverse :: linesFrom feed ret [] rest
    else linesFrom feed ret (x :: line) rest

/-- The lines of a sequence of bytes. -/
def byteLines (bytes : List UInt8) : List (List UInt8) :=
  linesFrom 10 13 [] bytes

/-- The lines of a text. -/
def lines (text : String) : List String :=
  (linesFrom '\n' '\r' [] text.toList).map String.ofList

end DocMachine.Text
