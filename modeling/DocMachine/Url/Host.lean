import DocMachine.Decimal.Reader
import DocMachine.Text.Percent
import DocMachine.Url.Name

/-!
# Hosts

The host of a URL. Web addresses name a domain, which is brought to lower-case ASCII, or an address;
every other scheme keeps its host as it was written.
-/

namespace DocMachine

/-- Why a text is not a URL. -/
inductive UrlFault where
  | relative
  | emptyHost
  | port
  | ipv4
  | ipv6
  | domainCharacter
  | domain

namespace UrlFault

/-- The fault in words. -/
def message : UrlFault → String
  | relative => "relative URL without a base"
  | emptyHost => "empty host"
  | port => "invalid port number"
  | ipv4 => "invalid IPv4 address"
  | ipv6 => "invalid IPv6 address"
  | domainCharacter => "invalid domain character"
  | domain => "invalid international domain name"

end UrlFault

namespace Url

/-- ASCII without the controls. -/
def isPrintableAscii (c : Char) : Bool :=
  decide (0x20 ≤ c.toNat) && decide (c.toNat < 0x7f)

/-! ## Addresses of four bytes -/

/-- A number in an address: decimal, octal after `0`, hexadecimal after `0x`. -/
def addressNumber? : List Char → Option Nat
  | [] => none
  | '0' :: x :: rest =>
    if x = 'x' || x = 'X' then
      if rest.all fun c => (Text.hexValue? c).isSome then
        some (rest.foldl (fun n c => 16 * n + (Text.hexValue? c).getD 0) 0)
      else none
    else if (x :: rest).all fun c => decide ('0' ≤ c) && decide (c ≤ '7') then
      some ((x :: rest).foldl (fun n c => 8 * n + (c.toNat - '0'.toNat)) 0)
    else none
  | chars => nat? chars

/-- The labels of a domain without the empty one after a final dot. -/
def labelsOf (domain : List Char) : List (List Char) :=
  let labels := splitAt (· = '.') domain
  if 1 < labels.length && labels.getLast? = some [] then labels.dropLast else labels

/-- Whether a domain must be an address because its last label is a number. -/
def endsInNumber (domain : List Char) : Bool :=
  match (labelsOf domain).getLast? with
  | none => false
  | some [] => false
  | some label =>
    label.all Char.isDigit ||
      (match label with
        | '0' :: x :: _ => (x = 'x' || x = 'X') && (addressNumber? label).isSome
        | _ => false)

/-- Four bytes, with dots between them. -/
def addressText (n : Nat) : List Char :=
  joinWith '.' ([n / 0x1000000 % 256, n / 0x10000 % 256, n / 0x100 % 256, n % 256].map fun b =>
    (toString b).toList)

/-- An address of one to four numbers, of which the last fills all remaining bytes. -/
def ipv4? (domain : List Char) : Option (List Char) := do
  let labels := labelsOf domain
  if 4 < labels.length then none
  let numbers ← labels.mapM addressNumber?
  let last ← numbers.getLast?
  let front := numbers.dropLast
  if front.any (255 < ·) then none
  if Nat.pow 256 (5 - numbers.length) ≤ last then none
  let high := front.zipIdx.foldl (fun n (b, i) => n + b * Nat.pow 256 (3 - i)) 0
  return addressText (high + last)

/-! ## Addresses of eight words -/

/-- A word of at most four hexadecimal digits. -/
def word? (chars : List Char) : Option Nat :=
  if chars.isEmpty || 4 < chars.length then none
  else if chars.all fun c => (Text.hexValue? c).isSome then
    some (chars.foldl (fun n c => 16 * n + (Text.hexValue? c).getD 0) 0)
  else none

/-- A byte in decimal without zeros in front. -/
def byte? (chars : List Char) : Option Nat :=
  match chars with
  | '0' :: _ :: _ => none
  | _ => (nat? chars).filter (· ≤ 255)

/-- Words between colons; at the end of an address the last two may be written as four bytes. -/
def words? (atEnd : Bool) (chars : List Char) : Option (List Nat) :=
  if chars.isEmpty then some []
  else
    let parts := splitAt (· = ':') chars
    let last := parts.getLast?.getD []
    if atEnd && last.contains '.' then do
      let front ← parts.dropLast.mapM word?
      match ← (splitAt (· = '.') last).mapM byte? with
      | [a, b, c, d] => some (front ++ [a * 256 + b, c * 256 + d])
      | _ => none
    else parts.mapM word?

/-- The place of the first pair of colons. -/
def splitDouble : List Char → List Char → Option (List Char × List Char)
  | _, [] => none
  | before, ':' :: ':' :: rest => some (before.reverse, rest)
  | before, c :: rest => splitDouble (c :: before) rest

/-- The eight words of an address. A pair of colons stands for all zeros that are missing. -/
def ipv6Words? (chars : List Char) : Option (List Nat) :=
  match splitDouble [] chars with
  | none => (words? true chars).filter fun words => words.length = 8
  | some (before, after) => do
    let front ← words? false before
    let back ← words? true after
    let count := front.length + back.length
    if 8 ≤ count then none
    return front ++ List.replicate (8 - count) 0 ++ back

/-- The first longest run of at least two zeros, as its start and length. -/
def zeroRun (words : List Nat) : Option (Nat × Nat) :=
  let runAt (i : Nat) : Nat := ((words.drop i).takeWhile (· = 0)).length
  (List.range 8).foldl
    (fun best i =>
      let length := runAt i
      if 2 ≤ length && best.all (fun found => found.2 < length) then some (i, length) else best)
    none

/-- The words of an address in hexadecimal, the zeros of its longest run left out. -/
def ipv6Text (words : List Nat) : List Char :=
  let hex (part : List Nat) : List Char := joinWith ':' (part.map (Nat.toDigits 16))
  match zeroRun words with
  | none => hex words
  | some (start, length) =>
    hex (words.take start) ++ "::".toList ++ hex (words.drop (start + length))

/-- A host between brackets. -/
def bracketed (chars : List Char) : Except UrlFault (List Char) :=
  match chars.getLast? with
  | some ']' =>
    match ipv6Words? ((chars.drop 1).dropLast) with
    | some words => .ok ('[' :: (ipv6Text words ++ [']']))
    | none => .error .ipv6
  | _ => .error .ipv6

/-! ## Domains -/

/-- A domain in lower-case ASCII, or the address that it denotes. -/
def domain (chars : List Char) : Except UrlFault (List Char) :=
  match Text.ofUtf8 (Text.percentBytes chars) with
  | .error _ => .error .domain
  | .ok decoded =>
    match asciiName? decoded.toList with
    | none => .error .domain
    | some ascii =>
      if ascii.isEmpty then .error .emptyHost
      else if endsInNumber ascii then
        match ipv4? ascii with
        | some address => .ok address
        | none => .error .ipv4
      else .ok ascii

/-- The host of a web address. -/
def specialHost (chars : List Char) : Except UrlFault (List Char) :=
  match chars with
  | [] => .error .emptyHost
  | '[' :: _ => bracketed chars
  | _ => domain chars

/-- The host of any other URL: kept, but for escapes of what is not printable ASCII. -/
def plainHost (chars : List Char) : Except UrlFault (List Char) :=
  match chars with
  | '[' :: _ => bracketed chars
  | _ =>
    if chars.any fun c => c.toNat = 0 || "\t\n\r #/:<>?@[\\]^|".toList.contains c then
      .error .domainCharacter
    else .ok (Text.percentEncode isPrintableAscii chars)

end Url

end DocMachine
