import DocMachine.Text.Category
import DocMachine.Text.Composed
import DocMachine.Url.Label
import DocMachine.Url.Replacement

/-!
# Names of hosts

The name of a host is a list of labels with dots between them. `asciiName?` brings a name into the
form that is looked up: every character is replaced by what it stands for, the text is composed, and
labels beyond ASCII are written in ASCII form.

A name is refused if it holds a character that no name may hold, if a label starts with a mark, if a
joiner stands where it joins nothing, or if a label mixes directions of writing while some label is
written from right to left. A label that comes in ASCII form must denote a label beyond ASCII that
needs no replacement.
-/

namespace DocMachine.Url

open DocMachine.Text

/-! ## Characters -/

/-- The characters of ASCII that a name may not hold. -/
def isForbiddenInName (c : Char) : Bool :=
  c.toNat ≤ 0x20 || c.toNat = 0x7f || " #%/:<>?@[\\]^|".toList.contains c

/-- Characters that no name may hold, besides blanks, controls and what is not assigned. -/
def refusedText : String :=
  "a8 af b4 b8 2d8-2dd 37a 384-385 1fbd 1fbf-1fc1 1fcd-1fcf 1fdd-1fdf 1fed-1fee 1ffd-1ffe 2017
    2024-2026 203e 2047-2049 2100-2101 2105-2106 2488-249b 2a74 2ff0-2fff 309b-309c 31ef 33c2 33c7
    33d8 fc5e-fc63 fdfa-fdfb fe12-fe13 fe16 fe19 fe30 fe47-fe4c fe52 fe55-fe56 fe5f fe68 fe6a-fe6b
    fe70 fe72 fe74 fe76 fe78 fe7a fe7c fe7e ff03 ff05 ff0f ff1a ff1f-ff20 ff3b-ff3e ff5c ffe3
    fffc-fffd 1f100"

/-- Joins letters that would not join by themselves. -/
def joiner : Nat := 0x200d

/-- Keeps letters from joining. -/
def nonJoiner : Nat := 0x200c

/-- The code points beyond ASCII that a name may not hold. -/
def refused : CodeSet :=
  (CodeSet.unions
    [Category.codesOf (Category.separators ++ Category.others),
      Category.unassigned.diff (CodeSet.ofText addedText), CodeSet.ofText refusedText]).diff
    (CodeSet.ofCodes [nonJoiner, joiner])

/-- Whether a name may hold a code point. -/
def isNameCode (code : Nat) : Bool :=
  if code < 0x80 then !isForbiddenInName (Char.ofNat code) else !refused.holds code

/-- Of the characters that version 17.0 added, the spacing marks. -/
def addedSpacingMarkText : String :=
  "11b61 11b65 11b67"

/-- All marks. -/
def marks : CodeSet :=
  CodeSet.unions
    [Category.codesOf Category.marks, CodeSet.ofText addedExtendText,
      CodeSet.ofText addedSpacingMarkText]

/-- The marks that take no place of their own. -/
def placelessMarks : CodeSet :=
  (Category.codesOf [.nonspacingMark, .enclosingMark]).union (CodeSet.ofText addedExtendText)

/-! ## Directions of writing -/

/-- How a character behaves where the directions of writing meet. -/
inductive Direction where
  | left
  | right
  | arabicNumber
  | number
  | mark
  | neutral
  deriving DecidableEq

/-- The code points that are written from right to left. -/
def rightText : String :=
  "5be 5c0 5c3 5c6 5d0-5ea 5ef-5f4 608 60b 60d 61b 61d-64a 66d-66f 671-674 679-6d5 6e5-6e6 6ee-6ef
    6fa-70d 710 712-72f 74d-7a5 7b1 7c0-7ea 7f4-7f5 7fa 7fe-815 81a 824 828 830-83e 840-858 85e
    860-86a 870-88f 8a0-8c9 fbb2-fbc2 fe73 10800-10805 10808 1080a-10835 10837-10838 1083c
    1083f-10855 10857-1089e 108a7-108af 108e0-108f2 108f4-108f5 108fb-1091b 10920-10939 1093f-10959
    10980-109b7 109bc-109cf 109d2-10a00 10a10-10a13 10a15-10a17 10a19-10a35 10a40-10a48 10a50-10a58
    10a60-10a9f 10ac0-10ae4 10aeb-10af6 10b00-10b35 10b40-10b55 10b58-10b72 10b78-10b91 10b99-10b9c
    10ba9-10baf 10c00-10c48 10cc0-10cf2 10cfa-10d23 10d4a-10d4f 10d6f-10d85 10d8e-10d8f 10e80-10ea9
    10ead 10eb0-10eb1 10ec2-10ec7 10f00-10f27 10f30-10f45 10f51-10f59 10f70-10f81 10f86-10f89
    10fb0-10fcb 10fe0-10ff6 1e800-1e8c4 1e8c7-1e8cf 1e922-1e943 1e94b 1e950-1e959 1e95e-1e95f
    1ec71-1ecb4 1ed01-1ed3d"

/-- The code points that are written from right to left. -/
def rightCodes : CodeSet := CodeSet.ofText rightText

/-- The digits and signs of numbers in Arabic script. -/
def arabicNumberText : String :=
  "660-669 66b-66c 10d30-10d39 10d40-10d49 10e60-10e7e"

/-- The digits and signs of numbers in Arabic script. -/
def arabicNumberCodes : CodeSet := CodeSet.ofText arabicNumberText

/-- The other digits. -/
def numberCodes : CodeSet := CodeSet.ofText "30-39 6f0-6f9 102e1-102fb"

/-- The code points beyond ASCII that are written in either direction. -/
def neutralText : String :=
  "a1-a7 a9 ab-ac ae b0-b1 b6-b7 bb bf d7 f7 2b9-2ba 2c2-2cf 2d2-2d7 2de-2df 2e5-2ed 2ef-2ff 375
    3f6 58a 58d-58f 606-607 609-60a 60c 60e-60f 66a 6de 6e9 7f6-7f9 9f2-9f3 9fb af1 bf3-bfa c78-c7e
    e3f f3a-f3d 1390-1399 1400 169b-169c 17db 17f0-17f9 1800-180a 1940 1944-1945 19de-19ff 2010
    2012-2016 2018-2023 2027 2030-2032 2035 2038-203b 203d 203f-2046 204a-2056 2058-205e 20a0-20a7
    20a9-20c1 2104 2108 2114 2117-2118 211e-211f 2123 2125 2127 2129 212e 213a 2141-2144 214a-214d
    218a-218b 2190-222b 222e 2231-2328 232b-2335 237b-2394 2396-2429 2440-244a 24eb-26ab 26ad-27ff
    2900-2a0b 2a0d-2a73 2a77-2adb 2add-2b73 2b76-2bff 2ce5-2cea 2cf9-2cff 2e00-2e5d 2e80-2e99
    2e9b-2e9e 2ea0-2ef2 3001 3003-3004 3008-3020 3030 3037 303d-303f 30a0 30fb 31c0-31e5 4dc0-4dff
    a490-a4c6 a60d-a60f a673 a67e-a67f a700-a721 a788 a828-a82b a838-a839 a874-a877 ab6a-ab6b
    fbc3-fbd2 fd3e-fd4f fd90-fd91 fdc8-fdcf fdfd-fdff fe45-fe46 10101 10140-1018c 10190-1019c 101a0
    1091f 10b39-10b3f 10d6e 10ed0-10ed8 11052-11065 11660-1166c 11fd5-11ff1 16fe2 1cc00-1ccd5
    1ccfa-1ccfc 1cd00-1ceb3 1ceba-1ced0 1cee0-1cef0 1d1e9-1d1ea 1d200-1d241 1d245 1d300-1d356 1e2ff
    1eef0-1eef1 1f000-1f02b 1f030-1f093 1f0a0-1f0ae 1f0b1-1f0bf 1f0c1-1f0cf 1f0d1-1f0f5 1f10b-1f10f
    1f12f 1f16d-1f16f 1f1ad 1f260-1f265 1f300-1f6d8 1f6dc-1f6ec 1f6f0-1f6fc 1f700-1f7d9 1f7e0-1f7eb
    1f7f0 1f800-1f80b 1f810-1f847 1f850-1f859 1f860-1f887 1f890-1f8ad 1f8b0-1f8bb 1f8c0-1f8c1
    1f8d0-1f8d8 1f900-1fa57 1fa60-1fa6d 1fa70-1fa7c 1fa80-1fa8a 1fa8e-1fac6 1fac8 1facd-1fadc
    1fadf-1faea 1faef-1faf8 1fb00-1fb92 1fb94-1fbef 1fbfa"

/-- The code points that are written in either direction. -/
def neutralCodes : CodeSet :=
  CodeSet.unions
    [CodeSet.ofText neutralText, CodeSet.ofText "21-2f 3a-40 5b-60 7b-7e",
      CodeSet.ofCodes [nonJoiner, joiner]]

/-- The marks that follow the direction of their letter; five are written from left to right. -/
def followingMarks : CodeSet := placelessMarks.diff (CodeSet.ofText "cbf cc6 11a07-11a08 11c3f")

/-- The direction of a code point. -/
def directionOf (code : Nat) : Direction :=
  if rightCodes.holds code then .right
  else if arabicNumberCodes.holds code then .arabicNumber
  else if numberCodes.holds code then .number
  else if followingMarks.holds code then .mark
  else if neutralCodes.holds code then .neutral
  else .left

/-- Whether a label holds anything that is written from right to left. -/
def hasRight (label : List Nat) : Bool :=
  label.any fun code => directionOf code = .right || directionOf code = .arabicNumber

/-- Whether a label keeps to one direction, which its first character sets: nothing of the other
direction follows, and apart from marks it ends in a letter or digit. -/
def keepsDirection (label : List Nat) : Bool :=
  let directions := label.map directionOf
  let last := (directions.reverse.dropWhile (· = .mark)).head?
  match directions.head? with
  | none => true
  | some .right =>
    !directions.contains .left && last.all (· ≠ .neutral) &&
      !(directions.contains .number && directions.contains .arabicNumber)
  | some .left => !hasRight label && last.all (· ≠ .neutral)
  | some _ => false

/-! ## Joiners -/

/-- The letters that join the letter after them. -/
def joinsNextText : String :=
  "620 626 628 62a-62e 633-63f 641-647 649-64a 66e-66f 679-687 69a-6bf 6c1-6c2 6cc 6ce 6d0-6d1
    6fa-6fc 6ff 712-714 71a-71d 71f-727 729 72b 72d-72e 74e-758 75c-76a 76d-770 772 775-777 77a-77f
    7ca-7ea 841-845 848 84a-853 855 860 862-865 868 886 889-88d 88f 8a0-8a9 8af-8b0 8b3-8b8 8ba-8c8
    1807 1820-1878 1887-18a8 18aa a840-a872 10ac0-10ac4 10acd 10ad3-10adc 10ade-10ae0 10aeb-10aee
    10b80 10b82 10b86-10b88 10b8a-10b8b 10b8d 10b90 10bad-10bae 10d00-10d21 10d23 10ec3-10ec4
    10ec6-10ec7 10f30-10f32 10f34-10f44 10f51-10f53 10f70-10f73 10f76-10f81 10fb0 10fb2-10fb3 10fb8
    10fbb-10fbc 10fbe-10fbf 10fc1 10fc4 10fca-10fcb 1e922-1e943"

/-- The letters that join the letter after them. -/
def joinsNext : CodeSet := CodeSet.ofText joinsNextText

/-- The letters that join the letter before them. -/
def joinsPreviousText : String :=
  "620 622-63f 641-64a 66e-66f 671-673 679-6d3 6d5 6ee-6ef 6fa-6fc 6ff 710 712-72f 74d-77f 7ca-7ea
    840-858 860 862-865 867-86a 870-882 886 889-88f 8a0-8ac 8ae-8c8 1807 1820-1878 1887-18a8 18aa
    a840-a871 10ac0-10ac5 10ac7 10ac9-10aca 10ace-10ad6 10ad8-10ae1 10ae4 10aeb-10aef 10b80-10b91
    10ba9-10bae 10d01-10d23 10ec2-10ec4 10ec6-10ec7 10f30-10f44 10f51-10f54 10f70-10f81 10fb0
    10fb2-10fb6 10fb8-10fbf 10fc1-10fc4 10fc9-10fca 1e922-1e943"

/-- The letters that join the letter before them. -/
def joinsPrevious : CodeSet := CodeSet.ofText joinsPreviousText

/-- The marks between letters that join. -/
def transparent : CodeSet := placelessMarks.union (CodeSet.ofText "1e94b")

/-- Whether a mark takes the vowel from the consonant before it. -/
def isVowelKiller (code : Nat) : Bool := combiningClass code = 9

/-- Whether the first code point that is not transparent belongs to a set. -/
def meets (set : CodeSet) (codes : List Nat) : Bool :=
  (codes.find? fun code => !transparent.holds code).any set.holds

/-- Whether each joiner of a label follows a vowel killer, or else keeps letters from joining that
would. `before` is what precedes, the last first. -/
def joinersFit (before : List Nat) : List Nat → Bool
  | [] => true
  | code :: rest =>
    let afterKiller := before.head?.any isVowelKiller
    let fits :=
      if code = joiner then afterKiller
      else if code = nonJoiner then
        afterKiller || (meets joinsNext before && meets joinsPrevious rest)
      else true
    fits && joinersFit (code :: before) rest

/-! ## Labels -/

/-- The most characters of a label beyond ASCII. -/
def labelLimit : Nat := 1000

/-- The most characters of an ASCII form. -/
def asciiFormLimit : Nat := 2000

/-- Whether a label is within ASCII. -/
def isAsciiLabel (label : List Nat) : Bool := label.all (· < 0x80)

/-- Whether a label could come out of replacing and composing. -/
def isSettled (label : List Nat) : Bool :=
  label.all (fun code => isNameCode code && replacement code = [code]) && composed label = label

/-- The label that is meant: the one denoted, if the label is in ASCII form. -/
def meantLabel? (label : List Nat) : Option (List Nat) :=
  if asciiPrefix.map Char.toNat = label.take 4 then do
    let form := label.drop 4
    if isAsciiLabel form && form.length ≤ asciiFormLimit then
      let meant ← decodeLabel? (form.map Char.ofNat)
      if isSettled meant && !isAsciiLabel meant && meant.length ≤ labelLimit then some meant
      else none
    else none
  else some label

/-- Whether a label starts with no mark and its joiners fit. -/
def isWellFormed (label : List Nat) : Bool :=
  !label.head?.any marks.holds && joinersFit [] label

/-- A label in ASCII. -/
def asciiLabel? (label : List Nat) : Option (List Char) :=
  if isAsciiLabel label then some (label.map Char.ofNat)
  else if label.length ≤ labelLimit then some (asciiPrefix ++ encodeLabel label)
  else none

/-! ## Names -/

/-- The parts of a list between the members of a class. -/
def splitAt {α : Type} (isCut : α → Bool) : List α → List (List α)
  | [] => [[]]
  | a :: rest =>
    if isCut a then [] :: splitAt isCut rest
    else
      match splitAt isCut rest with
      | [] => [[a]]
      | part :: parts => (a :: part) :: parts

/-- Parts with `gap` between them. -/
def joinWith (gap : Char) : List (List Char) → List Char
  | [] => []
  | [part] => part
  | part :: rest => part ++ gap :: joinWith gap rest

/-- A name in ASCII, unless it is refused. -/
def asciiName? (name : List Char) : Option (List Char) := do
  let codes := composed ((name.map Char.toNat).flatMap replacement)
  if !codes.all isNameCode then none
  let labels := splitAt (· = '.'.toNat) codes
  let meant ← labels.mapM meantLabel?
  if !meant.all isWellFormed then none
  if meant.any hasRight && !meant.all keepsDirection then none
  return joinWith '.' (← labels.mapM asciiLabel?)

end DocMachine.Url
