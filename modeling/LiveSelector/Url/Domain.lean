import LiveSelector.Text.Punycode
import LiveSelector.Url.DomainMapping

namespace LiveSelector.Url

/-!
Labels of domain names.  A label with characters beyond ASCII is written in ASCII, with `xn--` in
front, and a label that begins so spells one.  It holds only such characters as names may hold, and
no mark in front; a joiner has to stand where it makes a difference.  In a name with letters written
from right to left every label has one direction.
-/

def isAscii (label : List Char) : Bool :=
  label.all (·.toNat < 0x80)

def isMark (c : Char) : Bool :=
  Text.inRanges markRanges c

/-- Whether a mark takes no room of its own. -/
def isNonspacing (c : Char) : Bool :=
  isMark c && !Text.inRanges spacingMarkRanges c

/-- Whether a sign takes the vowel off a consonant. -/
def isVirama (c : Char) : Bool :=
  Text.combiningClass c = 9

/-- Whether letters join across a character. -/
def isJoinedAcross (c : Char) : Bool :=
  isNonspacing c || c.toNat == 0x1E94B

/-- The first character of a text that letters do not join across has a property. -/
def bears (property : Char → Bool) (text : List Char) : Bool :=
  match text.dropWhile isJoinedAcross with
  | c :: _ => property c
  | [] => false

/-- Whether every joiner follows a virama or, where it parts letters, stands between letters that
would join.  The characters before the text are given from the nearest on. -/
def joinersFit (before : List Char) : List Char → Bool
  | [] => true
  | c :: rest =>
    let afterVirama := (before.head?.map isVirama).getD false
    let fits :=
      if c == '\u200D' then afterVirama
      else if c == '\u200C' then
        afterVirama ||
          (bears (Text.inRanges joinsNextRanges) before &&
            bears (Text.inRanges joinsPreviousRanges) rest)
      else true
    fits && joinersFit (c :: before) rest

/-- No label with characters beyond ASCII is longer than this. -/
def labelLimit : Nat := 1000

/-- Whether names may have a label with characters beyond ASCII. -/
def isWideLabel (label : List Char) : Bool :=
  label.length ≤ labelLimit && label.all (fun c => c.toNat < 0x80 || isNameChar c) &&
    !(label.head?.map isMark).getD false && joinersFit [] label

/-- What stands in front of the written form of a label. -/
def writtenMark : List Char := "xn--".toList

/-- Written forms are no longer than this. -/
def writtenLimit : Nat := 2000

/-- The label that a written form stands for.  It could not stand in a name itself, and what it
stands for is in normal form. -/
def readLabel? (code : List Char) : Option (List Char) :=
  if isAscii code && code.length ≤ writtenLimit then
    match Text.Punycode.decode? code with
    | none => none
    | some label =>
      if isAscii label || writtenMark.isPrefixOf label || Text.normalForm label ≠ label ||
        !isWideLabel label then none
      else some label
  else none

/-- The label that a label stands for, if names may have it. -/
def spelledLabel? (label : List Char) : Option (List Char) :=
  if writtenMark.isPrefixOf label then readLabel? (label.drop writtenMark.length)
  else if isAscii label || isWideLabel label then some label
  else none

/-- A label in ASCII. -/
def writtenLabel (label : List Char) : List Char :=
  if isAscii label then label else writtenMark ++ Text.Punycode.encode label

/-- How a character is written in its line. -/
inductive Direction where
  | left
  | right
  | arabicNumber
  | number
  | neutral
  | mark
  deriving DecidableEq

/-- Marks without room of their own that are still read from left to right. -/
def isLeftMark (c : Char) : Bool :=
  [0xCBF, 0xCC6, 0x11A07, 0x11A08, 0x11C3F].contains c.toNat

def direction (c : Char) : Direction :=
  if c.toNat < 0x80 then (if c.isAlpha then .left else if c.isDigit then .number else .neutral)
  else if isMark c then (if isNonspacing c && !isLeftMark c then .mark else .left)
  else if Text.inRanges rightToLeftRanges c then .right
  else if Text.inRanges arabicNumberRanges c then .arabicNumber
  else if Text.inRanges digitRanges c then .number
  else if Text.inRanges neutralRanges c then .neutral
  else .left

/-- Whether a label has one direction: that of its first letter, in which it also ends. -/
def hasOneDirection (label : List Char) : Bool :=
  let directions := label.map direction
  let last := (directions.reverse.dropWhile (· = .mark)).head?
  match directions.head? with
  | none => true
  | some .left =>
    directions.all (fun d => d ≠ .right && d ≠ .arabicNumber) &&
      (last = some .left || last = some .number)
  | some .right =>
    directions.all (· ≠ .left) &&
      (last = some .right || last = some .number || last = some .arabicNumber) &&
      !(directions.any (· = .number) && directions.any (· = .arabicNumber))
  | some _ => false

/-- Whether a label makes its name one that is written from right to left. -/
def turnsName (label : List Char) : Bool :=
  label.any fun c => direction c = .right || direction c = .arabicNumber

/-- Whether the labels of a name stand for labels that go together. -/
def labelsFit (labels : List (List Char)) : Bool :=
  match labels.mapM spelledLabel? with
  | none => false
  | some spelled => if spelled.any turnsName then spelled.all hasOneDirection else true

end LiveSelector.Url
