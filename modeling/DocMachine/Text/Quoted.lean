import DocMachine.Text.Property

/-!
# Quoted text

Text as messages quote it: between double quotes, with a backslash before quotes and backslashes,
short escapes for the common controls, and the code point in hexadecimal for every character that
would not show by itself.
-/

namespace DocMachine.Text

/-- Characters that do not show by themselves: controls, format characters, blanks other than the
space, private and unassigned code points, characters that are ignored, and those that extend the
character before them. The two half-width sound marks show, although they extend. -/
def hidden : CodeSet :=
  let blank := (Category.codesOf (Category.separators ++ Category.others)).union
    (Category.unassigned.diff (CodeSet.ofText addedText))
  (CodeSet.unions
    [blank.diff (CodeSet.singleton ' '), Property.graphemeExtend, CodeSet.ofText addedExtendText,
      Property.defaultIgnorableCodePoint]).diff
    (CodeSet.ofText "ff9e-ff9f")

/-- Whether a character does not show by itself. In ASCII only the controls do not. -/
def isHidden (c : Char) : Bool :=
  if c.toNat < 0x80 then c.toNat < 0x20 || c.toNat = 0x7f else hidden.contains c

/-- The lower-case hexadecimal digits of a number. -/
def hexDigits (n : Nat) : String :=
  String.ofList (Nat.toDigits 16 n)

/-- One character as quoted text shows it. -/
def quoteChar (c : Char) : String :=
  if c = '"' then "\\\""
  else if c = '\\' then "\\\\"
  else if c = '\n' then "\\n"
  else if c = '\r' then "\\r"
  else if c = '\t' then "\\t"
  else if c.toNat = 0 then "\\0"
  else if isHidden c then "\\u\x7b" ++ hexDigits c.toNat ++ "\x7d"
  else c.toString

/-- Text between quotes. -/
def quoted (s : String) : String :=
  "\"" ++ String.join (s.toList.map quoteChar) ++ "\""

end DocMachine.Text
