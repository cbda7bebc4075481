import DocMachine.Text.Segment

/-!
# Clusters

What a reader takes for one character may be several: a letter with its marks, a syllable block, a
flag, a picture made of pictures, consonants that merge. `clusters` divides text into such units.
-/

namespace DocMachine.Text

/-- How a character behaves at the edges of clusters. A linker is a mark that merges the consonants
on both sides; the mark that keeps letters apart also keeps consonants from merging. -/
inductive ClusterClass where
  | carriageReturn
  | lineFeed
  | control
  | extend
  | linker
  | separator
  | joiner
  | regional
  | prepend
  | spacing
  | leading
  | vowel
  | trailing
  | openBlock
  | closedBlock
  | pictograph
  | consonant
  | other
  deriving DecidableEq

namespace ClusterClass

/-- The marks that merge consonants. -/
def linkers : CodeSet := CodeSet.ofText
  "94d 9cd acd b4d c4d d4d 1039 17d2 1a60 1b44 1bab a9c0 aaf6 10a3f 11133 113d0 1193e 11a47 11a99
    11f42"

/-- The consonants that merge. -/
def consonants : CodeSet := CodeSet.ofText
  "915-939 958-95f 978-97f 995-9a8 9aa-9b0 9b2 9b6-9b9 9dc-9dd 9df 9f0-9f1 a95-aa8 aaa-ab0 ab2-ab3
    ab5-ab9 af9 b15-b28 b2a-b30 b32-b33 b35-b39 b5c-b5d b5f b71 c15-c28 c2a-c39 c58-c5a d15-d3a
    1000-102a 103f 1050-1055 105a-105d 1061 1065-1066 106e-1070 1075-1081 108e 1780-17b3 1a20-1a54
    1b0b-1b0c 1b13-1b33 1b45-1b4c 1b83-1ba0 1bae-1baf 1bbb-1bbd a989-a98b a98f-a9b2 a9e0-a9e4
    a9e7-a9ef a9fa-a9fe aa60-aa6f aa71-aa73 aa7a aa7e-aa7f aae0-aaea abc0-abda 10a00 10a10-10a13
    10a15-10a17 10a19-10a35 11103-11126 11144 11147 11380-11389 1138b 1138e 11390-113b5 11900-11906
    11909 1190c-11913 11915-11916 11918-1192f 11a00 11a0b-11a32 11a50 11a5c-11a83 11f04-11f10
    11f12-11f33"

/-- The sets of the classes. What is in none of them is `other`. -/
def sets : List (CodeSet × ClusterClass) :=
  [(CodeSet.ofText "d", carriageReturn), (CodeSet.ofText "a", lineFeed),
    (ClusterBreak.control, control), (CodeSet.ofText "200c", separator),
    (CodeSet.ofText "200d", joiner), (linkers, linker), (ClusterBreak.extend, extend),
    (Property.regionalIndicator, regional), (ClusterBreak.prepend, prepend),
    (ClusterBreak.spacingMark, spacing), (ClusterBreak.leading, leading),
    (ClusterBreak.vowel, vowel), (ClusterBreak.trailing, trailing),
    (ClusterBreak.openBlock, openBlock), (ClusterBreak.closedBlock, closedBlock),
    (Property.extendedPictographic, pictograph), (consonants, consonant)]

/-- The class of a character. -/
def ofChar (c : Char) : ClusterClass :=
  ((sets.find? fun entry => entry.1.contains c).map Prod.snd).getD other

/-- Whether a character stands alone. -/
def isControl (kind : ClusterClass) : Bool :=
  kind = carriageReturn || kind = lineFeed || kind = control

/-- Whether a character continues any cluster and may stand within a picture. -/
def isExtend (kind : ClusterClass) : Bool :=
  kind = extend || kind = linker || kind = separator

end ClusterClass

open ClusterClass

/-- Whether the consonant after `before` merges with one in it: only marks stand between, and one of
them is a linker. -/
def merges (before : List ClusterClass) : Bool :=
  let marks := before.takeWhile fun kind => kind = extend || kind = linker || kind = joiner
  marks.contains linker && (before.drop marks.length).head? = some consonant

/-- Whether a character goes on with the cluster before it. `before` has the classes of that
cluster, the last first. -/
def goesOn (before : List ClusterClass) (next : ClusterClass) : Bool :=
  match before.head? with
  | none => true
  | some last =>
    if last = carriageReturn && next = lineFeed then true
    else if last.isControl || next.isControl then false
    else if next.isExtend || next = joiner || next = spacing || last = prepend then true
    else
      match last, next with
      | .leading, .leading | .leading, .vowel => true
      | .leading, .openBlock | .leading, .closedBlock => true
      | .openBlock, .vowel | .openBlock, .trailing | .vowel, .vowel | .vowel, .trailing => true
      | .closedBlock, .trailing | .trailing, .trailing => true
      | .regional, .regional => (before.takeWhile (· = regional)).length % 2 = 1
      | .joiner, .pictograph => ((before.drop 1).dropWhile isExtend).head? = some pictograph
      | _, .consonant => merges before
      | _, _ => false

/-- The clusters of a text after the one that is being read, whose characters are given last
first. -/
def clustersFrom (cluster : List Char) : List Char → List (List Char)
  | [] => if cluster.isEmpty then [] else [cluster.reverse]
  | c :: rest =>
    if goesOn (cluster.map ofChar) (ofChar c) then clustersFrom (c :: cluster) rest
    else cluster.reverse :: clustersFrom [c] rest

/-- The clusters of a text. -/
def clusters (text : String) : List (List Char) := clustersFrom [] text.toList

end DocMachine.Text
