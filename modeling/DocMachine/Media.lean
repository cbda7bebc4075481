import DocMachine.Json.Printer
import DocMachine.Json5.Parser
import DocMachine.Json5.Printer
import DocMachine.Hjson.Parser

/-!
# Media types

The written forms of documents, how they are named, which one a path suggests, and what a typed
literal may look like.
-/

namespace DocMachine

/-- A written form of documents. -/
inductive Media where
  | json
  | json5
  | hjson
  deriving DecidableEq

namespace Media

/-- All written forms. -/
def all : List Media := [json, json5, hjson]

/-- The registered name. -/
def name : Media → String
  | json => "application/json"
  | json5 => "application/json5"
  | hjson => "application/hjson"

/-- The form of a registered name. -/
def ofName? (s : String) : Option Media :=
  all.find? fun media => media.name = s

/-- The form that the end of a path suggests. -/
def ofPath (path : String) : Media :=
  if path.endsWith ".json5" then json5
  else if path.endsWith ".hjson" then hjson
  else json

/-- The value that a text denotes. -/
def decode? : Media → String → Option Value
  | json => Json.parse?
  | json5 => Json5.parse?
  | hjson => Hjson.parse?

/-- The text of a value. The line-oriented form is written as indented JSON, which it includes. -/
def encode : Media → Value → String
  | json => Json.compact
  | json5 => Json5.compact
  | hjson => Json.pretty

end Media

/-- A typed literal: strict JSON, or else relaxed JSON. -/
def parseLiteral? (text : String) : Option Value :=
  match Json.parse? text with
  | some v => some v
  | none => Json5.parse? text

end DocMachine
