import DocMachine.Decimal.Fixed
import DocMachine.Decimal.Remainder

/-!
# Traces

A machine reports each op before it runs it, and each procedure when it is entered and when it
returns. A step has a form for the console: nesting shown by indentation, then the index, the
height of the stack, the op and the time since the start.
-/

namespace DocMachine

/-- A reported event. -/
inductive Event where
  | step (frame : String) (depth pc height : Nat) (op : String)
  | enter (frame : String) (depth : Nat)
  | exit (frame : String) (depth : Nat)
  deriving DecidableEq

namespace Trace

/-- `text` filled up with blanks on the left. -/
def alignRight (text : String) (width : Nat) : String :=
  String.ofList (List.replicate (width - text.length) ' ') ++ text

/-- `text` filled up with blanks on the right. -/
def alignLeft (text : String) (width : Nat) : String :=
  text ++ String.ofList (List.replicate (width - text.length) ' ')

/-- The time in hours, minutes and seconds from a count of milliseconds. Leading zero parts are left
out; times before the start count as zero. -/
def formatElapsed (milliseconds : Int) : String :=
  let total := Float.ofInt (max milliseconds 0) / 1000.0
  let hours := (total / 3600.0).toUInt64.toNat
  let minutes := (total / 60.0).toUInt64.toNat % 60
  let seconds := alignRight (fixedPoint (floatRemainder total 60.0) 3) 6
  (if 0 < hours then toString hours ++ "h" else "") ++
    (if 0 < minutes then alignRight (toString minutes) 2 ++ "m" else "") ++
    String.ofList (seconds.toList.take 6) ++ "s"

/-- The console form of a step. Of the index the last two characters show, and of the op's name the
first fourteen. -/
def consoleLine (depth : Nat) (pc : Int) (height : Nat) (op : String) (milliseconds : Int) :
    String :=
  let left := String.ofList (List.replicate (2 * depth) ' ')
  let right := String.ofList (List.replicate (10 - 2 * depth) ' ')
  let digits := toString pc.natAbs
  let index := if pc < 0 then "-" ++ digits else zeroFill digits 2
  let index := String.ofList (index.toList.drop (index.length - 2))
  let name := String.ofList (op.toList.take 14)
  left ++ index ++ right ++ " " ++ alignRight (toString height) 3 ++ " " ++ alignLeft name 14 ++
    alignRight (formatElapsed milliseconds) 18

end Trace

/-- The console form of an event, if it has one. -/
def Event.line? (milliseconds : Int) : Event → Option String
  | .step _ depth pc height op =>
    some (Trace.consoleLine depth (Int.ofNat pc) height op milliseconds)
  | _ => none

end DocMachine
