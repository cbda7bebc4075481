/-!
# Labels in ASCII

A label of a domain that holds characters beyond ASCII has a second form that does without them: the
prefix `xn--`, the ASCII characters of the label and a hyphen, and then for each other character,
in ascending order, how far its code point and its place are from those of the one before. The
distances are numbers of variable length to the base 36.
-/

namespace DocMachine.Url

/-- The prefix of labels in ASCII form. -/
def asciiPrefix : List Char := "xn--".toList

/-- The digit of a number. -/
def labelDigit (n : Nat) : Char :=
  if n < 26 then Char.ofNat ('a'.toNat + n) else Char.ofNat ('0'.toNat + (n - 26))

/-- The number of a digit. -/
def labelDigit? (c : Char) : Option Nat :=
  if 'a' ≤ c && c ≤ 'z' then some (c.toNat - 'a'.toNat)
  else if c.isDigit then some (c.toNat - '0'.toNat + 26)
  else none

/-- The least digit at place `k` after which a number goes on. -/
def threshold (bias k : Nat) : Nat :=
  if k ≤ bias then 1 else if bias + 26 ≤ k then 26 else k - bias

/-- The bias after a code point has been placed. -/
def adaptBias (delta points : Nat) (first : Bool) : Nat :=
  let delta := if first then delta / 700 else delta / 2
  reduce 64 (delta + delta / points) 0
where
  /-- Divides until the distance is small. -/
  reduce : Nat → Nat → Nat → Nat
    | 0, delta, k => k + 36 * delta / (delta + 38)
    | fuel + 1, delta, k =>
      if 455 < delta then reduce fuel (delta / 35) (k + 36) else k + 36 * delta / (delta + 38)

/-! ## Writing -/

/-- The digits of a number. -/
def variableDigits (bias : Nat) : Nat → Nat → Nat → List Char
  | 0, _, q => [labelDigit q]
  | fuel + 1, k, q =>
    let t := threshold bias k
    if q < t then [labelDigit q]
    else
      labelDigit (t + (q - t) % (36 - t)) ::
        variableDigits bias fuel (k + 36) ((q - t) / (36 - t))

/-- The progress of writing a label. -/
structure LabelState where
  delta : Nat
  bias : Nat
  handled : Nat
  output : List Char

/-- Writes the places of one code point. -/
def placeCode (label : List Nat) (ascii code : Nat) (state : LabelState) : LabelState :=
  label.foldl
    (fun s c =>
      if c < code then { s with delta := s.delta + 1 }
      else if c = code then
        { delta := 0
          bias := adaptBias s.delta (s.handled + 1) (s.handled = ascii)
          handled := s.handled + 1
          output := s.output ++ variableDigits s.bias 64 36 s.delta }
      else s)
    state

/-- The distinct code points of a label beyond ASCII, in ascending order. -/
def wideCodes (label : List Nat) : List Nat :=
  ((label.filter (128 ≤ ·)).mergeSort).eraseDups

/-- A label without its prefix in ASCII form. -/
def encodeLabel (label : List Nat) : List Char :=
  let plain := (label.filter (· < 128)).map Char.ofNat
  let start := if plain.isEmpty then [] else plain ++ ['-']
  let (state, _) := (wideCodes label).foldl
    (fun (s, previous) code =>
      let advanced := { s with delta := s.delta + (code - previous) * (s.handled + 1) }
      let placed := placeCode label plain.length code advanced
      ({ placed with delta := placed.delta + 1 }, code + 1))
    (({ delta := 0, bias := 72, handled := plain.length, output := start } : LabelState), 128)
  state.output

/-! ## Reading -/

/-- No number in a label reaches two to the power of thirty-two. -/
def numberLimit : Nat := 0x100000000

/-- Reads a number and adds it to `total`. The digit ahead is at place `k` and counts `weight`
times. -/
def readNumber (bias k weight total : Nat) : List Char → Option (Nat × List Char)
  | [] => none
  | c :: rest => do
    let digit ← labelDigit? c
    let total := total + digit * weight
    let t := threshold bias k
    if numberLimit ≤ total then none
    else if digit < t then some (total, rest)
    else if numberLimit ≤ weight * (36 - t) then none
    else readNumber bias (k + 36) (weight * (36 - t)) total rest

/-- Whether a number is the code point of a character. -/
def isCharacter (code : Nat) : Bool :=
  code < 0xd800 || (0xdfff < code && code < 0x110000)

/-- Inserts the characters that the digits ahead describe into the label read so far. The fuel
bounds their count. -/
def insertCodes :
    Nat → (bias code place : Nat) → List Nat → List Char → Option (List Nat)
  | _, _, _, _, label, [] => some label
  | 0, _, _, _, _, _ :: _ => none
  | fuel + 1, bias, code, place, label, digits@(_ :: _) => do
    let (total, rest) ← readNumber bias 36 1 place digits
    let count := label.length + 1
    let code := code + total / count
    let spot := total % count
    if isCharacter code then
      insertCodes fuel (adaptBias (total - place) count (place = 0)) code (spot + 1)
        (label.take spot ++ code :: label.drop spot) rest
    else none

/-- The label that an ASCII form without its prefix denotes. -/
def decodeLabel? (chars : List Char) : Option (List Nat) :=
  let back := chars.reverse
  let digits := (back.takeWhile (· ≠ '-')).reverse
  let plain := (back.drop (digits.length + 1)).reverse
  if plain.isEmpty then insertCodes chars.length 72 128 0 [] chars
  else insertCodes chars.length 72 128 0 (plain.map Char.toNat) digits

end DocMachine.Url
