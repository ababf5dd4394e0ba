import FileCleanup.Text.Combining
import FileCleanup.Text.Composition.Pairs

namespace FileCleanup.Text

/-!
The composed form of a text: each character with the marks that belong to it as one character as
far as there is one (Unicode, Normalization Form C).
-/

/-! Syllables of Hangul are numbered by their two or three letters. -/

def firstSyllable : Nat := 0xac00
def firstLead : Nat := 0x1100
def firstVowel : Nat := 0x1161
/-- The code point before the letters that end a syllable. -/
def noTail : Nat := 0x11a7

def leadCount : Nat := 19
def vowelCount : Nat := 21
/-- The ends of a syllable, of which one is none. -/
def tailCount : Nat := 28

def isSyllable (code : Nat) : Bool :=
  firstSyllable ≤ code && code < firstSyllable + leadCount * vowelCount * tailCount

/-- The letter that a syllable ends with, and what stands before it. -/
def syllableParts? (code : Nat) : Option (Nat × Nat) :=
  if isSyllable code then
    let index := code - firstSyllable
    if index % tailCount = 0 then
      some (firstLead + index / tailCount / vowelCount, firstVowel + index / tailCount % vowelCount)
    else some (code - index % tailCount, noTail + index % tailCount)
  else none

def syllable? (first second : Nat) : Option Nat :=
  if firstLead ≤ first ∧ first < firstLead + leadCount then
    if firstVowel ≤ second ∧ second < firstVowel + vowelCount then
      some (firstSyllable +
        ((first - firstLead) * vowelCount + (second - firstVowel)) * tailCount)
    else none
  else if isSyllable first ∧ (first - firstSyllable) % tailCount = 0 ∧
      noTail < second ∧ second < noTail + tailCount then
    some (first + (second - noTail))
  else none

/-! Pairs. -/

/-- The two characters that one stands for. -/
def parts? (c : Char) : Option (Char × Char) :=
  ((syllableParts? c.toNat).or
    (compositionPairs.findSome? fun (second, pairs) =>
      pairs.findSome? fun (first, whole) =>
        if whole = c.toNat then some (first, second) else none)).map
    fun (first, second) => (Char.ofNat first, Char.ofNat second)

/-- The character that stands for two. -/
def whole? (first second : Char) : Option Char :=
  ((syllable? first.toNat second.toNat).or
    ((compositionPairs.lookup second.toNat).bind fun pairs => pairs.lookup first.toNat)).map
    Char.ofNat

/-! Texts. -/

/-- At most so many marks are part of one character. -/
def mostMarks : Nat := 3

/-- The base of a character and its marks; `depth` bounds their number. -/
def decomposeChar : Nat → Char → List Char
  | 0, c => [c]
  | depth + 1, c =>
    match parts? c with
    | some (first, second) => decomposeChar depth first ++ [second]
    | none => [c]

def decompose (text : List Char) : List Char :=
  sortMarks (text.flatMap (decomposeChar mostMarks))

/-- Goes on behind a base and the marks that stay apart from it, of which the last comes first.  A
mark cannot pass another one of its class. -/
def composeBehind (base : Char) (apart : List Char) : List Char → List Char
  | [] => base :: apart.reverse
  | c :: rest =>
    let reaches := apart.head?.all fun last => combiningClass last < combiningClass c
    match if reaches then whole? base c else none with
    | some whole => composeBehind whole apart rest
    | none =>
      if combiningClass c = 0 then base :: apart.reverse ++ composeBehind c [] rest
      else composeBehind base (c :: apart) rest

/-- Composes a text whose marks are sorted. -/
def composeSorted : List Char → List Char
  | [] => []
  | c :: rest => if combiningClass c = 0 then composeBehind c [] rest else c :: composeSorted rest

def compose (text : List Char) : List Char :=
  composeSorted (decompose text)

end FileCleanup.Text
