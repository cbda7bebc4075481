/-!
# Blanks

The characters that count as white space when text is trimmed, and the narrower class of space
separators.
-/

namespace DocMachine.Text

/-- White space: the ASCII blanks, next line, and the space, line and paragraph separators. -/
def isBlank (c : Char) : Bool :=
  let n := c.toNat
  (9 ≤ n && n ≤ 13) || n = 0x20 || n = 0x85 || n = 0xa0 || n = 0x1680 ||
    (0x2000 ≤ n && n ≤ 0x200a) || n = 0x2028 || n = 0x2029 || n = 0x202f || n = 0x205f || n = 0x3000

/-- Space separators: the blanks that neither end a line nor are controls. -/
def isSpaceSeparator (c : Char) : Bool :=
  let n := c.toNat
  n = 0x20 || n = 0xa0 || n = 0x1680 || (0x2000 ≤ n && n ≤ 0x200a) || n = 0x202f || n = 0x205f ||
    n = 0x3000

/-- Characters without those of the given class at either end. -/
def trimChars (isTrimmed : Char → Bool) (chars : List Char) : List Char :=
  ((chars.dropWhile isTrimmed).reverse.dropWhile isTrimmed).reverse

/-- Text without blanks at either end. -/
def trim (s : String) : String :=
  String.ofList (trimChars isBlank s.toList)

end DocMachine.Text
