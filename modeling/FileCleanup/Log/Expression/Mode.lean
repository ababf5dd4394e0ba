import FileCleanup.Text.Blank

namespace FileCleanup.Expression

open Text

/-!
How a regular expression is read.  Flags between parentheses change that for the rest of the group
they stand in, or for a group that begins with them.
-/

structure Mode where
  /-- Letters match in either case. -/
  anyCase : Bool
  /-- Characters are matched, and not bytes. -/
  unicode : Bool
  /-- Blanks and comments mean nothing. -/
  spaced : Bool
  deriving DecidableEq, Repr

namespace Mode

def initial : Mode := ⟨false, true, false⟩

/-- Each flag stands once, and after a minus there is one. -/
def areFlags (flags : List Char) : Bool :=
  flags.all (· ∈ "imsUuxR-".toList) && flags.getLast? ≠ some '-' && decide flags.Nodup

/-- What flags say about one of them; those behind a minus are taken away. -/
def setting? (flags : List Char) (flag : Char) : Option Bool :=
  if flag ∈ flags.takeWhile (· ≠ '-') then some true
  else if flag ∈ flags then some false
  else none

def withFlags (mode : Mode) (flags : List Char) : Mode where
  anyCase := (setting? flags 'i').getD mode.anyCase
  unicode := (setting? flags 'u').getD mode.unicode
  spaced := (setting? flags 'x').getD mode.spaced

/-- Passes over blanks, and over comments up to the end of their line. -/
def skipFrom (comment : Bool) : List Char → List Char
  | [] => []
  | c :: rest =>
    if comment then skipFrom (c ≠ '\n') rest
    else if isBlank c then skipFrom false rest
    else if c = '#' then skipFrom true rest
    else c :: rest

/-- Passes over what means nothing. -/
def skip (mode : Mode) (text : List Char) : List Char :=
  if mode.spaced then skipFrom false text else text

/-- The next character but for blanks and the beginning of a comment. -/
def peek? (mode : Mode) (text : List Char) : Option Char :=
  if mode.spaced then
    match dropBlanks text with
    | '#' :: rest => (dropBlanks rest).head?
    | rest => rest.head?
  else text.head?

/-- Whether characters can stand for themselves.  Which characters beyond ASCII are the same letter
is not known, so that only bytes match in either case. -/
def hasLetters (mode : Mode) : Bool :=
  !(mode.unicode && mode.anyCase)

/-- Whether a class can have this member.  A class of bytes holds no part of a character. -/
def hasMember (mode : Mode) (c : Char) : Bool :=
  mode.hasLetters && (mode.unicode || c.toNat < 0x80)

end Mode

/-- The height of a node with these children; no node is made for less than two. -/
def heightOver : List Nat → Nat
  | [] => 0
  | [height] => height
  | heights => heights.foldl max 0 + 1

end FileCleanup.Expression
