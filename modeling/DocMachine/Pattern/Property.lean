import DocMachine.Text.Age
import DocMachine.Text.Segment

/-!
# Properties in patterns

A pattern may ask for the characters with a property: by the name of a property that is had or not,
of a general category or of a script, or by the name of a property and a value of it. Names are
compared without case, gaps and an `is` in front.
-/

namespace DocMachine.Pattern

open Text

/-- A question for characters, as a pattern writes it. -/
inductive Query where
  | name (name : String)
  | value (property value : String)

/-- A name for comparison: ASCII only, in lower case, without gaps and without `is` in front. The
name `isc` stays, because a lone `c` is a name of its own. -/
def plainName (name : String) : String :=
  let isGap (c : Char) : Bool := c = ' ' || c = '_' || c = '-'
  let plain (chars : List Char) : List Char :=
    (chars.filter fun c => decide (c.toNat < 128) && !isGap c).map Char.toLower
  match name.toList with
  | i :: s :: rest =>
    if i.toLower = 'i' && s.toLower = 's' then
      if plain rest = ['c'] then "isc" else String.ofList (plain rest)
    else String.ofList (plain (i :: s :: rest))
  | chars => String.ofList (plain chars)

/-- The groups of general categories by their names. -/
def categoryTable : List (List String × List Category) :=
  [
    (["l", "letter"], Category.letters),
    (["lc", "casedletter"], Category.casedLetters),
    (["lu", "uppercaseletter"], [.uppercaseLetter]),
    (["ll", "lowercaseletter"], [.lowercaseLetter]),
    (["lt", "titlecaseletter"], [.titlecaseLetter]),
    (["lm", "modifierletter"], [.modifierLetter]),
    (["lo", "otherletter"], [.otherLetter]),
    (["m", "mark", "combiningmark"], Category.marks),
    (["mn", "nonspacingmark"], [.nonspacingMark]),
    (["mc", "spacingmark"], [.spacingMark]),
    (["me", "enclosingmark"], [.enclosingMark]),
    (["n", "number"], Category.numbers),
    (["nd", "decimalnumber", "digit"], [.decimalNumber]),
    (["nl", "letternumber"], [.letterNumber]),
    (["no", "othernumber"], [.otherNumber]),
    (["p", "punctuation", "punct"], Category.punctuation),
    (["pc", "connectorpunctuation"], [.connectorPunctuation]),
    (["pd", "dashpunctuation"], [.dashPunctuation]),
    (["ps", "openpunctuation"], [.openPunctuation]),
    (["pe", "closepunctuation"], [.closePunctuation]),
    (["pi", "initialpunctuation"], [.initialPunctuation]),
    (["pf", "finalpunctuation"], [.finalPunctuation]),
    (["po", "otherpunctuation"], [.otherPunctuation]),
    (["s", "symbol"], Category.symbols),
    (["sm", "mathsymbol"], [.mathSymbol]),
    (["sc", "currencysymbol"], [.currencySymbol]),
    (["sk", "modifiersymbol"], [.modifierSymbol]),
    (["so", "othersymbol"], [.otherSymbol]),
    (["z", "separator"], Category.separators),
    (["zs", "spaceseparator"], [.spaceSeparator]),
    (["zl", "lineseparator"], [.lineSeparator]),
    (["zp", "paragraphseparator"], [.paragraphSeparator]),
    (["cc", "control", "cntrl"], [.control]),
    (["cf", "format"], [.format]),
    (["co", "privateuse"], [.privateUse])
  ]

/-- The characters of a general category or of a group of them. -/
def category? (name : String) : Option CodeSet :=
  match name with
  | "any" => some CodeSet.all
  | "ascii" => some (CodeSet.range 0 0x7f)
  | "assigned" => some Category.assigned
  | "cn" => some Category.unassigned
  | "unassigned" => some Category.unassigned
  | "c" => some ((Category.codesOf Category.others).union Category.unassigned)
  | "other" => some ((Category.codesOf Category.others).union Category.unassigned)
  | _ =>
    (categoryTable.find? fun entry => entry.1.contains name).map fun entry =>
      Category.codesOf entry.2

/-- The characters with a value of a property. -/
def valueCodes? (property value : String) : Option CodeSet :=
  match property with
  | "gc" => category? value
  | "generalcategory" => category? value
  | "sc" => (Script.named? value).map Script.codes
  | "script" => (Script.named? value).map Script.codes
  | "scx" => (Script.named? value).map Script.extendedCodes
  | "scriptextensions" => (Script.named? value).map Script.extendedCodes
  | "age" => Age.upTo? value
  | "gcb" => ClusterBreak.named? value
  | "graphemeclusterbreak" => ClusterBreak.named? value
  | "sb" => SentenceBreak.named? value
  | "sentencebreak" => SentenceBreak.named? value
  | "wb" => WordBreak.named? value
  | "wordbreak" => WordBreak.named? value
  | _ => none

/-- The characters that a question is for. -/
def Query.codes? : Query → Option CodeSet
  | .name text =>
    let plain := plainName text
    Property.named? plain <|> category? plain <|> (Script.named? plain).map Script.codes
  | .value property text => valueCodes? (plainName property) (plainName text)

end DocMachine.Pattern
