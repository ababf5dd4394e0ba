import FileCleanup.Text.Alphanumeric
import FileCleanup.Text.Composition
import FileCleanup.Text.Numeral
import FileCleanup.Text.Split
import FileCleanup.Text.Utf8
import FileCleanup.Url.Domain.AsciiForm
import FileCleanup.Url.Domain.Disallowed
import FileCleanup.Url.Domain.Marks
import FileCleanup.Url.Domain.Replaced
import FileCleanup.Url.Punycode

namespace FileCleanup

open Text

/-!
Names of domains: labels between points, of letters from any script.  A name is valid if each of
its characters stands for allowed ones, no label begins with a combining mark, characters that
join others stand where they can, and text that runs from the right is not mixed with text that
runs from the left.
-/

structure Domain where
  labels : List (List Char)
  deriving DecidableEq, Repr

namespace Domain

def text (domain : Domain) : String :=
  String.ofList (['.'].intercalate domain.labels)

def isAscii (c : Char) : Bool :=
  c.toNat < 0x80

/-- Controls, blanks and the marks that parts of an address are told apart by. -/
def isForbidden (c : Char) : Bool :=
  c ≤ ' ' || c = '\x7f' || c ∈ ['#', '%', '/', ':', '<', '>', '?', '@', '[', '\\', ']', '^', '|']

/-- What a character stands for, unless it cannot stand in a name.  One that stands for others
beyond ASCII is kept, since it is allowed where they are, but for the iota below a letter, which is
no mark then; what is forbidden in ASCII is told once the text is composed. -/
def meaning? (c : Char) : Option (List Char) :=
  if isAscii c then some [c.toLower]
  else if isIgnored c then some []
  else if c = '\u0345' then some ['\u03b9']
  else if isDisallowed c || isForbiddenForm c then none
  else some ((asciiForm? c).getD [c])

/-- Whether a character stands for itself. -/
def isPlain (c : Char) : Bool :=
  meaning? c = some [c] && !isReplaced c

/-- A label after `xn--` is written in ASCII and stands for one that is not, in its only form. -/
def label? (written : List Char) : Option (List Char) :=
  match written with
  | 'x' :: 'n' :: '-' :: '-' :: code => do
    let label ← Punycode.decode? code
    if code.getLast? ≠ some '-' ∧ label ≠ [] ∧ label.all isPlain ∧ compose label = label then
      return label
    else none
  | _ => some written

/-! Joiners. -/

def joinsBehind (c : Char) : Bool :=
  inRanges joinsBehindRanges c.toNat

def joinsBefore (c : Char) : Bool :=
  inRanges joinsBeforeRanges c.toNat

/-- Signs that take the vowel from a consonant have a class of their own. -/
def isVirama (c : Char) : Bool :=
  combiningClass c = 9

/-- Whether a joiner may stand between two texts, the first of them given from its end. -/
def joinerFits (joins : Bool) (before after : List Char) : Bool :=
  before.head?.any isVirama ||
    (!joins && (before.dropWhile isMark).head?.any joinsBehind &&
      (after.dropWhile isMark).head?.any joinsBefore)

/-- Whether all joiners and their opposites have a place; `before` is reversed. -/
def joinersFit (before : List Char) : List Char → Bool
  | [] => true
  | c :: rest =>
    (if c = '\u200c' then joinerFits false before rest
      else if c = '\u200d' then joinerFits true before rest
      else true) && joinersFit (c :: before) rest

/-! Directions. -/

inductive Direction
  | left
  | right
  | number
  | arabicNumber
  | mark
  | neutral
  deriving DecidableEq, Repr

def Direction.ofChar (c : Char) : Direction :=
  if isMark c then mark
  else if inRanges arabicNumberRanges c.toNat then arabicNumber
  else if isDigit c || inRanges numberRanges c.toNat then number
  else if inRanges rightRanges c.toNat then right
  else if isAlphanumeric c then left
  else neutral

/-- Whether a label can stand in a name with a label that is written from the right. -/
def Direction.consistent (label : List Direction) : Bool :=
  let last := (label.reverse.dropWhile (· = mark)).head?
  match label.head? with
  | none => true
  | some left =>
    label.all (· ∈ [left, number, mark, neutral]) && last.any (· ∈ [left, number])
  | some right =>
    label.all (· ∈ [right, number, arabicNumber, mark, neutral]) &&
      last.any (· ∈ [right, number, arabicNumber]) &&
      !(number ∈ label && arabicNumber ∈ label)
  | some _ => false

def directionsFit (labels : List (List Char)) : Bool :=
  let directions := labels.map fun label => label.map Direction.ofChar
  if directions.any fun label => label.any (· ∈ [.right, .arabicNumber]) then
    directions.all Direction.consistent
  else true

/-- The name that bytes stand for. -/
def ofBytes? (bytes : List UInt8) : Option Domain := do
  let text ← (Utf8.decode bytes).toOption
  let meanings ← text.mapM meaning?
  let name := compose meanings.flatten
  if name.any isForbidden then none
  let labels ← (splitAt '.' name).mapM label?
  if labels.all (fun label => !label.head?.any isMark && joinersFit [] label) ∧
      directionsFit labels then
    return ⟨labels⟩
  else none

end Domain

end FileCleanup
