import FileCleanup.Log.Expression.Mode
import FileCleanup.Text.Numeral

namespace FileCleanup.Expression

open Text

/-!
What stands behind a backslash in a regular expression.  Properties of characters beyond ASCII are
not known, so classes by property and the bounds of words are there for bytes alone.
-/

inductive Escape
  | char (c : Char)
  /-- One of several bytes. -/
  | set
  /-- A place between characters. -/
  | place
  deriving DecidableEq, Repr

/-- The digits of a number, each with what is passed over behind it. -/
def hexDigits? (mode : Mode) : Nat → List Char → Option (List Char × List Char)
  | 0, text => some ([], text)
  | _ + 1, [] => none
  | count + 1, digit :: rest =>
    if (hexValue? digit).isSome then
      (hexDigits? mode count (mode.skip rest)).map fun (digits, rest) => (digit :: digits, rest)
    else none

/-- The character that a number stands for; a byte on its own has to be one of ASCII. -/
def hexEscape? (mode : Mode) (count : Nat) (text : List Char) : Option (Escape × List Char) := do
  let (digits, rest) ← hexDigits? mode count (mode.skip text)
  let code ← ofDigitsIn? 16 digits
  if code.isValidChar ∧ (mode.unicode ∨ count ≠ 2 ∨ code < 0x80) then
    return (.char (Char.ofNat code), rest)
  else failure

def controlEscapes : List (Char × Char) :=
  [('a', '\x07'), ('f', '\x0c'), ('t', '\t'), ('n', '\n'), ('r', '\r'), ('v', '\x0b')]

/-- Marks stand for themselves, but angle brackets are kept for the bounds of words. -/
def isMark (c : Char) : Bool :=
  c.toNat < 0x80 && !c.isAlphanum && c ≠ '<' && c ≠ '>'

def escape? (mode : Mode) : List Char → Option (Escape × List Char)
  | [] => none
  | 'x' :: rest => hexEscape? mode 2 rest
  | 'u' :: rest => hexEscape? mode 4 rest
  | 'U' :: rest => hexEscape? mode 8 rest
  | c :: rest =>
    if c ∈ ['d', 's', 'w'] then if mode.unicode then none else some (.set, rest)
    else if c ∈ ['b', 'B', '<', '>'] then if mode.unicode then none else some (.place, rest)
    else if c = 'A' ∨ c = 'z' then some (.place, rest)
    else if isMark c then some (.char c, rest)
    else (controlEscapes.lookup c).map fun control => (.char control, rest)

end FileCleanup.Expression
