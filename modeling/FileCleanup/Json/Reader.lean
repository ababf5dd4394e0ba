import FileCleanup.Text.Numeral

namespace FileCleanup.Json

open Text

/-!
Reading JSON from the front of a text, one expected value at a time.  The first fault ends the
reading, and its kind is the whole report.
-/

inductive Fault
  /-- A character that no JSON text has at this place. -/
  | malformed
  /-- The text ends inside a value. -/
  | endedEarly
  /-- A well-formed part that is not what was expected. -/
  | wrong
  deriving DecidableEq, Repr

abbrev Reader := StateT (List Char) (Except Fault)

def isSpace (c : Char) : Bool :=
  c = ' ' || c = '\n' || c = '\t' || c = '\r'

def peek : Reader (Option Char) :=
  return (← get).head?

def advance : Reader Unit :=
  modify (·.drop 1)

def spaces : Reader Unit :=
  modify (·.dropWhile isSpace)

/-- The first character after spaces, which stays in the text. -/
def peekToken : Reader (Option Char) := do
  spaces
  peek

def startOfValue : Reader Char := do
  match ← peekToken with
  | some c => return c
  | none => throw .endedEarly

def token (c : Char) : Reader Unit := do
  match ← peekToken with
  | some found => if found = c then advance else throw .malformed
  | none => throw .endedEarly

def keyword : List Char → Reader Unit
  | [] => return ()
  | c :: rest => do
    match ← peek with
    | some found => if found = c then advance else throw .malformed
    | none => throw .endedEarly
    keyword rest

/-! Strings. -/

def simpleEscape? (c : Char) : Option Char :=
  match c with
  | '"' => some '"'
  | '\\' => some '\\'
  | '/' => some '/'
  | 'b' => some '\x08'
  | 'f' => some '\x0c'
  | 'n' => some '\n'
  | 'r' => some '\r'
  | 't' => some '\t'
  | _ => none

/-- What follows a backslash and a `u`: four hexadecimal digits.  Four bytes have to be left
before they are looked at. -/
def fourHexDigits (text : List Char) : Except Fault (Nat × List Char) :=
  if (String.ofList (text.take 4)).utf8ByteSize < 4 then .error .endedEarly
  else
    match text with
    | a :: b :: c :: d :: rest =>
      match Text.ofDigitsIn? 16 [a, b, c, d] with
      | some value => .ok (value, rest)
      | none => .error .malformed
    | _ => .error .malformed

def isLeading (unit : Nat) : Bool :=
  0xd800 ≤ unit && unit ≤ 0xdbff

def isTrailing (unit : Nat) : Bool :=
  0xdc00 ≤ unit && unit ≤ 0xdfff

def ofPair (leading trailing : Nat) : Char :=
  Char.ofNat (0x10000 + (leading - 0xd800) * 0x400 + (trailing - 0xdc00))

/-- The character of a Unicode escape; one beyond the first plane takes two escapes. -/
def unicodeEscape (text : List Char) : Except Fault (Char × List Char) := do
  let (unit, rest) ← fourHexDigits text
  if isTrailing unit then throw .malformed
  if isLeading unit then
    match rest with
    | [] => throw .endedEarly
    | '\\' :: [] => throw .endedEarly
    | '\\' :: 'u' :: more =>
      let (second, rest) ← fourHexDigits more
      if isTrailing second then return (ofPair unit second, rest) else throw .malformed
    | _ => throw .malformed
  else return (Char.ofNat unit, rest)

/-- The characters up to the closing quote, and what follows it.  `fuel` bounds the number of
written characters. -/
def stringBody : Nat → List Char → Except Fault (List Char × List Char)
  | 0, _ => .error .endedEarly
  | fuel + 1, text =>
    match text with
    | [] => .error .endedEarly
    | '"' :: rest => .ok ([], rest)
    | '\\' :: [] => .error .endedEarly
    | '\\' :: 'u' :: rest => do
      let (c, rest) ← unicodeEscape rest
      let (body, rest) ← stringBody fuel rest
      return (c :: body, rest)
    | '\\' :: escape :: rest =>
      match simpleEscape? escape with
      | some c => do
        let (body, rest) ← stringBody fuel rest
        return (c :: body, rest)
      | none => .error .malformed
    | c :: rest =>
      if c < ' ' then .error .malformed
      else do
        let (body, rest) ← stringBody fuel rest
        return (c :: body, rest)

/-- A string whose opening quote has been read. -/
def restOfString : Reader (List Char) := fun text => stringBody (text.length + 1) text

/-- As `stringBody`, but without a value and without pairing the halves of escaped characters. -/
def skipBody : Nat → List Char → Except Fault (List Char)
  | 0, _ => .error .endedEarly
  | fuel + 1, text =>
    match text with
    | [] => .error .endedEarly
    | '"' :: rest => .ok rest
    | '\\' :: [] => .error .endedEarly
    | '\\' :: 'u' :: rest => do
      let (_, rest) ← fourHexDigits rest
      skipBody fuel rest
    | '\\' :: escape :: rest =>
      if (simpleEscape? escape).isSome then skipBody fuel rest else .error .malformed
    | c :: rest => if c < ' ' then .error .malformed else skipBody fuel rest

def skipRestOfString : Reader Unit := fun text => do
  return ((), ← skipBody (text.length + 1) text)

/-! Numbers. -/

def takeDigits : Reader (List Char) := do
  let text ← get
  let digits := text.takeWhile isDigit
  set (text.drop digits.length)
  return digits

/-- The first number that needs more than 64 bits. -/
def tooLongSignificand : Nat := 18446744073709551616

/-- Appends integer digits to a 64-bit significand; those that do not fit raise the exponent. -/
def integerPart (digits : List Char) : Nat × Int :=
  let step := fun (state : Nat × Int) digit =>
    let longer := 10 * state.1 + digitValue digit
    if state.2 = 0 ∧ longer < tooLongSignificand then (longer, 0) else (state.1, state.2 + 1)
  digits.foldl step (0, 0)

/-- Appends fraction digits until one does not fit; the rest has no weight. -/
def fractionPart (start : Nat × Int) : List Char → Nat × Int
  | [] => start
  | digit :: rest =>
    let longer := 10 * start.1 + digitValue digit
    if longer < tooLongSignificand then fractionPart (longer, start.2 - 1) rest else start

/-- Exponents above this bound are only told apart by their sign. -/
def exponentLimit : Nat := 2147483647

/-- Whether a number is beyond the doubles: its significand and the power of ten are rounded to
doubles and multiplied. -/
def beyondDoubles (significand : Nat) (exponent : Int) : Bool :=
  if significand = 0 ∨ exponent < 0 then false
  else if 308 < exponent then true
  else (Float.ofNat significand * Float.ofScientific 1 false exponent.toNat).isInf

/-- The exponent after an `e`, or none when it is too long to count. -/
def exponentPart : Reader (Bool × Option Nat) := do
  let negative ← match ← peek with
    | some '+' => advance; pure false
    | some '-' => advance; pure true
    | _ => pure false
  match ← peek with
  | none => throw .endedEarly
  | some c => if isDigit c then pure () else throw .malformed
  let value := ofDigits (← takeDigits)
  return (negative, if value ≤ exponentLimit then some value else none)

/-- The rest of a number with a fraction or an exponent.  It is no integer, so reading it can
only show that it is malformed or beyond the doubles. -/
def restOfDecimal (start : Nat × Int) : Reader Unit := do
  let (significand, exponent) ← match ← peek with
    | some '.' =>
      advance
      let digits ← takeDigits
      if digits = [] then
        match ← peek with
        | none => throw .endedEarly
        | some _ => throw .malformed
      pure (fractionPart start digits)
    | _ => pure start
  match ← peek with
  | some 'e' | some 'E' =>
    advance
    match ← exponentPart with
    | (false, none) => if significand ≠ 0 then throw .malformed
    | (true, none) => return ()
    | (false, some value) => if beyondDoubles significand (exponent + value) then throw .malformed
    | (true, some value) => if beyondDoubles significand (exponent - value) then throw .malformed
  | _ => if beyondDoubles significand exponent then throw .malformed

/-- A number whose sign has been read: its value if it is a 64-bit integer, otherwise nothing.
A negative zero is not an integer. -/
def unsignedNumber (negative : Bool) : Reader (Option Int) := do
  let digits ← takeDigits
  match digits with
  | [] =>
    match ← peek with
    | none => throw .endedEarly
    | some _ => throw .malformed
  | '0' :: _ :: _ => throw .malformed
  | _ =>
    let start := integerPart digits
    let fraction := (← peek) = some '.' || (← peek) = some 'e' || (← peek) = some 'E'
    if fraction || start.2 ≠ 0 then
      restOfDecimal start
      return none
    else if negative then
      let value := -(start.1 : Int)
      return if value = 0 then none else IntegerRange.signed64.within? value
    else return some start.1

/-- A number that starts at `first`. -/
def number (first : Char) : Reader (Option Int) := do
  if first = '-' then
    advance
    unsignedNumber true
  else unsignedNumber false

/-! Expected values. -/

/-- Rejects a value of a kind that is not expected, once its start has been read through. -/
def unexpected {α : Type} (first : Char) : Reader α := do
  match first with
  | 'n' => keyword ['n', 'u', 'l', 'l']
  | 't' => keyword ['t', 'r', 'u', 'e']
  | 'f' => keyword ['f', 'a', 'l', 's', 'e']
  | '"' =>
    advance
    let _ ← restOfString
  | '[' | '\x7b' => pure ()
  | _ =>
    if first = '-' || isDigit first then
      let _ ← number first
    else throw .malformed
  throw .wrong

def string : Reader String := do
  let first ← startOfValue
  if first = '"' then
    advance
    return String.ofList (← restOfString)
  else unexpected first

/-- An integer of the given range. -/
def integer (range : IntegerRange) : Reader Int := do
  let first ← startOfValue
  if first = '-' || isDigit first then
    match (← number first).bind range.within? with
    | some value => return value
    | none => throw .wrong
  else unexpected first

def null : Reader Unit := do
  let first ← startOfValue
  if first = 'n' then keyword ['n', 'u', 'l', 'l'] else unexpected first

def nullOr {α : Type} (reader : Reader α) : Reader (Option α) := do
  match ← peekToken with
  | some 'n' =>
    keyword ['n', 'u', 'l', 'l']
    return none
  | _ => return some (← reader)

/-- A string that `decode?` accepts. -/
def decoded {α : Type} (decode? : List Char → Option α) : Reader α := do
  match decode? (← string).toList with
  | some value => return value
  | none => throw .wrong

/-! Values that are skipped. -/

def skipNumber : Reader Unit := do
  if (← peek) = some '-' then advance
  match ← takeDigits with
  | [] => throw .malformed
  | '0' :: _ :: _ => throw .malformed
  | _ => pure ()
  if (← peek) = some '.' then
    advance
    if (← takeDigits) = [] then throw .malformed
  if (← peek) = some 'e' || (← peek) = some 'E' then
    advance
    if (← peek) = some '+' || (← peek) = some '-' then advance
    if (← takeDigits) = [] then throw .malformed

inductive Bracket
  | array
  | object
  deriving DecidableEq, Repr

def Bracket.closing : Bracket → Char
  | .array => ']'
  | .object => '\x7d'

/-- The name of a member that is skipped, and its colon. -/
def skipName : Reader Unit := do
  token '"'
  skipRestOfString
  token ':'

def skipNameIn : Bracket → Reader Unit
  | .array => return ()
  | .object => skipName

/-- After a value: closes brackets until a comma asks for another value inside those that are
left, or none is left. -/
def closeBrackets : List Bracket → Reader (Option (List Bracket))
  | [] => return none
  | bracket :: enclosing => do
    match ← peekToken with
    | none => throw .endedEarly
    | some c =>
      if c = ',' then
        advance
        skipNameIn bracket
        return some (bracket :: enclosing)
      else if c = bracket.closing then
        advance
        closeBrackets enclosing
      else throw .malformed

/-- Opens a bracket: an empty one is closed at once. -/
def openBracket (bracket : Bracket) (enclosing : List Bracket) :
    Reader (Option (List Bracket)) := do
  advance
  match ← peekToken with
  | none => throw .endedEarly
  | some c =>
    if c = bracket.closing then
      advance
      closeBrackets enclosing
    else
      skipNameIn bracket
      return some (bracket :: enclosing)

/-- Reads past one value inside `enclosing` and what closes after it. -/
def skipOne (enclosing : List Bracket) : Reader (Option (List Bracket)) := do
  let first ← startOfValue
  match first with
  | '[' => openBracket .array enclosing
  | '\x7b' => openBracket .object enclosing
  | 'n' =>
    keyword ['n', 'u', 'l', 'l']
    closeBrackets enclosing
  | 't' =>
    keyword ['t', 'r', 'u', 'e']
    closeBrackets enclosing
  | 'f' =>
    keyword ['f', 'a', 'l', 's', 'e']
    closeBrackets enclosing
  | '"' =>
    advance
    skipRestOfString
    closeBrackets enclosing
  | _ =>
    if first = '-' || isDigit first then
      skipNumber
      closeBrackets enclosing
    else throw .malformed

def skipAll : Nat → List Bracket → Reader Unit
  | 0, _ => throw .endedEarly
  | fuel + 1, enclosing => do
    match ← skipOne enclosing with
    | none => return ()
    | some enclosing => skipAll fuel enclosing

/-- Reads past one value of any kind; every round of `skipAll` takes at least one character. -/
def skipValue : Reader Unit := do
  skipAll ((← get).length + 1) []

/-- Reads a whole text: only spaces may follow the value. -/
def readAll {α : Type} (reader : Reader α) (text : String) : Except Fault α := do
  let (value, rest) ← reader.run text.toList
  if rest.all isSpace then return value else throw .malformed

end FileCleanup.Json
