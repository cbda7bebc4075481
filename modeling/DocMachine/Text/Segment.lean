import DocMachine.Text.Property
import DocMachine.Text.Script

/-!
# Units of text

How characters behave where text is divided into clusters, words and sentences. Each of the three
divisions gives every character a class; the classes are derived from other properties as the
standard derives them.
-/

namespace DocMachine.Text

/-- The characters of a text table. -/
private def listed (text : String) : CodeSet := CodeSet.ofText text

/-- The characters of a script by its name. -/
private def scriptCodes (name : String) : CodeSet :=
  ((Script.named? name).map Script.codes).getD CodeSet.empty

/-- The class of a name in a table of classes. -/
private def classOf? (table : List (List String × CodeSet)) (name : String) : Option CodeSet :=
  (table.find? fun entry => entry.1.contains name).map Prod.snd

/-! ## Clusters -/

namespace ClusterBreak

/-- Controls. -/
def control : CodeSet := CodeSet.ofText
  "0-9 b-c e-1f 7f-9f ad 61c 180e 200b 200e-200f 2028-202e 2060-206f feff fff0-fffb 13430-1343f
    1bca0-1bca3 1d173-1d17a e0000-e001f e0080-e00ff e01f0-e0fff"

/-- Characters that continue a cluster. -/
def extend : CodeSet :=
  Property.graphemeExtend.union Property.emojiModifier

/-- Leading consonants of syllable blocks. -/
def leading : CodeSet := CodeSet.ofText "1100-115f a960-a97c"

/-- Vowels of syllable blocks. -/
def vowel : CodeSet := CodeSet.ofText "1160-11a7 d7b0-d7c6 16d63 16d67-16d6a"

/-- Trailing consonants of syllable blocks. -/
def trailing : CodeSet := CodeSet.ofText "11a8-11ff d7cb-d7fb"

/-- Syllable blocks without a trailing consonant: every 28th of the blocks. -/
def openBlock : CodeSet :=
  CodeSet.ofCodes ((List.range 399).map fun i => 0xac00 + 28 * i)

/-- Syllable blocks with a trailing consonant. -/
def closedBlock : CodeSet :=
  (CodeSet.range 0xac00 0xd7a3).diff openBlock

/-- Characters that belong to the cluster after them. -/
def prepend : CodeSet := CodeSet.ofText
  "600-605 6dd 70f 890-891 8e2 d4e 110bd 110cd 111c2-111c3 113d1 1193f 11941 11a3a 11a84-11a89
    11d46 11f02"

/-- Marks with a width of their own. -/
def spacingMark : CodeSet :=
  ((Category.spacingMark.codes.diff Property.graphemeExtend).diff
    (CodeSet.ofText
      "102b-102c 1038 1062-1064 1067-106d 1083 1087-108c 108f 109a-109c 1a61 1a63-1a64 aa7b aa7d
        11720-11721")).union
    (CodeSet.ofText "e33 eb3")

/-- The classes by their names in lower case without gaps. -/
def table : List (List String × CodeSet) :=
  [
    (["cr"], listed "d"),
    (["cn", "control"], control),
    (["ex", "extend"], extend),
    (["l"], leading),
    (["lf"], listed "a"),
    (["lv"], openBlock),
    (["lvt"], closedBlock),
    (["pp", "prepend"], prepend),
    (["regionalindicator", "ri"], Property.regionalIndicator),
    (["sm", "spacingmark"], spacingMark),
    (["t"], trailing),
    (["v"], vowel),
    (["zwj"], listed "200d")
  ]

/-- The class of a name. -/
def named? (name : String) : Option CodeSet := classOf? table name

end ClusterBreak

/-! ## Sentences -/

namespace SentenceBreak

/-- Marks and other characters that belong to the one before them. -/
def extend : CodeSet :=
  CodeSet.unions
    [Property.graphemeExtend, Category.spacingMark.codes, listed "200d"]

/-- Lower-case letters. Georgian has none in running text. -/
def lower : CodeSet :=
  (Property.lowercase.diff Property.graphemeExtend).diff (listed "10d0-10fa 10fd-10ff")

/-- Upper-case and title-case letters. -/
def upper : CodeSet :=
  (Property.uppercase.union Category.titlecaseLetter.codes).diff (listed "1c90-1cba 1cbd-1cbf")

/-- Letters of neither case. -/
def otherLetter : CodeSet :=
  (Property.alphabetic.union (listed "5f3")).diff (CodeSet.unions [lower, upper, extend])

/-- Digits and signs of numbers. -/
def numeric : CodeSet :=
  Category.decimalNumber.codes.union
    (listed "600-605 66b-66c 6dd 890-891 8e2 19da 110bd 110cd")

/-- Format characters. -/
def format : CodeSet :=
  Category.format.codes.diff
    (listed "600-605 6dd 890-891 8e2 200c-200d 110bd 110cd e0020-e007f")

/-- Marks that end a sentence without doubt. -/
def terminal : CodeSet :=
  Property.sentenceTerminal.diff (listed "2e 2024 fe52 ff0e")

/-- Brackets and quotation marks. -/
def close : CodeSet :=
  (Category.codesOf
    [.openPunctuation, .closePunctuation, .initialPunctuation, .finalPunctuation]).union
    (listed "22 27 275b-2760 2e00-2e01 2e06-2e08 2e0b 1f676-1f678")

/-- Marks after which a sentence goes on. -/
def continuing : CodeSet := CodeSet.ofText
  "2c-2d 3a-3b 37e 55d 60c-60d 7f8 1802 1808 2013-2014 3001 fe10-fe11 fe13-fe14 fe31-fe32
    fe50-fe51 fe54-fe55 fe58 fe63 ff0c-ff0d ff1a-ff1b ff64"

/-- The classes by their names in lower case without gaps. -/
def table : List (List String × CodeSet) :=
  [
    (["at", "aterm"], listed "2e 2024 fe52 ff0e"),
    (["cr"], listed "d"),
    (["cl", "close"], close),
    (["ex", "extend"], extend),
    (["fo", "format"], format),
    (["lf"], listed "a"),
    (["lo", "lower"], lower),
    (["nu", "numeric"], numeric),
    (["le", "oletter"], otherLetter),
    (["sc", "scontinue"], continuing),
    (["st", "sterm"], terminal),
    (["se", "sep"], listed "85 2028-2029"),
    (["sp"], listed "9 b-c 20 a0 1680 2000-200a 202f 205f 3000"),
    (["up", "upper"], upper)
  ]

/-- The class of a name. -/
def named? (name : String) : Option CodeSet := classOf? table name

end SentenceBreak

/-! ## Words -/

namespace WordBreak

/-- Marks and other characters that belong to the one before them. -/
def extend : CodeSet :=
  CodeSet.unions
    [Property.graphemeExtend, Category.spacingMark.codes, Property.emojiModifier]

/-- Katakana. -/
def katakana : CodeSet := CodeSet.ofText
  "3031-3035 309b-309c 30a0-30fa 30fc-30ff 31f0-31ff 32d0-32fe 3300-3357 ff66-ff9d 1aff0-1aff3
    1aff5-1affb 1affd-1affe 1b000 1b120-1b122 1b155 1b164-1b167"

/-- Letters of Hebrew. -/
def hebrewLetter : CodeSet := CodeSet.ofText
  "5d0-5ea 5ef-5f2 fb1d fb1f-fb28 fb2a-fb36 fb38-fb3c fb3e fb40-fb41 fb43-fb44 fb46-fb4f"

/-- Letters of scripts without gaps between words. -/
def complexContext : CodeSet :=
  CodeSet.unions
    [scriptCodes "thai", scriptCodes "lao",
      listed
        "1000-102a 103f 1050-1055 105a-105d 1061 1065-1066 106e-1070 1075-1081 108e 1780-17b3 17d7
          17dc 1950-196d 1970-1974 1980-19ab 19b0-19c9 1a20-1a54 1aa7 a9e0-a9e4 a9e6-a9ef
          a9fa-a9fe aa60-aa76 aa7a aa7e-aaaf aab1 aab5-aab6 aab9-aabd aac0 aac2 aadb-aadd
          11700-1171a 11740-11746"]

/-- Letters of words. -/
def letter : CodeSet :=
  (Property.alphabetic.diff
    (CodeSet.unions
      [Property.ideographic, katakana, complexContext, scriptCodes "hiragana", extend,
        hebrewLetter])).union
    (listed
      "2c2-2c5 2d2-2d7 2de-2df 2e5-2eb 2ed 2ef-2ff 55a-55c 55e 58a 5f3 70f a708-a716 a720-a721
        a789-a78a ab5b")

/-- Digits and signs of numbers. -/
def numeric : CodeSet :=
  SentenceBreak.numeric.diff (listed "66c")

/-- Format characters. -/
def format : CodeSet :=
  Category.format.codes.diff
    (listed "600-605 6dd 70f 890-891 8e2 200b-200d 110bd 110cd e0020-e007f")

/-- The classes by their names in lower case without gaps. -/
def table : List (List String × CodeSet) :=
  [
    (["aletter", "le"], letter),
    (["cr"], listed "d"),
    (["doublequote", "dq"], listed "22"),
    (["extend"], extend),
    (["ex", "extendnumlet"], listed "5f 202f 203f-2040 2054 fe33-fe34 fe4d-fe4f ff3f"),
    (["fo", "format"], format),
    (["hebrewletter", "hl"], hebrewLetter),
    (["ka", "katakana"], katakana),
    (["lf"], listed "a"),
    (["midletter", "ml"], listed "3a b7 387 55f 5f4 2027 fe13 fe55 ff1a"),
    (["midnum", "mn"], listed "2c 3b 37e 589 60c-60d 66c 7f8 2044 fe50 fe54 ff0c ff1b"),
    (["mb", "midnumlet"], listed "2e 2018-2019 2024 fe52 ff07 ff0e"),
    (["newline", "nl"], listed "b-c 85 2028-2029"),
    (["nu", "numeric"], numeric),
    (["regionalindicator", "ri"], Property.regionalIndicator),
    (["singlequote", "sq"], listed "27"),
    (["wsegspace"], listed "20 1680 2000-2006 2008-200a 205f 3000"),
    (["zwj"], listed "200d")
  ]

/-- The class of a name. -/
def named? (name : String) : Option CodeSet := classOf? table name

end WordBreak

end DocMachine.Text
