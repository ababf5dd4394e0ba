import FileCleanup.Log.Expression.Class
import FileCleanup.Text.Alphabetic

namespace FileCleanup

open Text

/-!
Regular expressions.  No text is ever matched, so all that is asked of one is whether it is valid.
Repetitions with bounds in braces are left out: an expression for a field ends at a brace.
-/

namespace Expression

/-! Groups. -/

/-- What an opening parenthesis begins. -/
inductive Opening
  | group (name : Option (List Char)) (flags : List Char)
  /-- Flags for what follows, which no group holds. -/
  | flags (flags : List Char)
  deriving DecidableEq, Repr

def isName : List Char → Bool
  | [] => false
  | first :: rest =>
    (first = '_' || isAlphabetic first) &&
      rest.all fun c => isAlphanumeric c || c ∈ ['_', '.', '[', ']']

/-- The rest of a group's name, up to an angle bracket. -/
def named? (text : List Char) : Option (Opening × List Char) :=
  let name := text.takeWhile (· ≠ '>')
  match text.drop name.length with
  | _ :: rest => if isName name then some (.group (some name) [], rest) else none
  | [] => none

/-- What follows an opening parenthesis. -/
def opening? : List Char → Option (Opening × List Char)
  | '?' :: 'P' :: '<' :: rest => named? rest
  | '?' :: '<' :: rest => named? rest
  | '?' :: rest =>
    let flags := rest.takeWhile fun c => c ≠ ':' ∧ c ≠ ')'
    match Mode.areFlags flags, rest.drop flags.length with
    | true, ':' :: rest => some (.group none flags, rest)
    | true, ')' :: rest => if flags = [] then none else some (.flags flags, rest)
    | _, _ => none
  | text => some (.group none [], text)

/-- A group that is being read: the heights of its finished alternatives, and of the parts of the
last one, the last part first.  A part without a height sets flags and cannot be repeated. -/
structure OpenGroup where
  finished : List Nat
  parts : List (Option Nat)

namespace OpenGroup

def empty : OpenGroup := ⟨[], []⟩

def insert (group : OpenGroup) (part : Option Nat) : OpenGroup :=
  { group with parts := part :: group.parts }

def beginAlternative (group : OpenGroup) : OpenGroup :=
  ⟨heightOver (group.parts.map (·.getD 0)) :: group.finished, []⟩

def height (group : OpenGroup) : Nat :=
  heightOver group.beginAlternative.finished

/-- Repeats the last part. -/
def repeat? (group : OpenGroup) : Option OpenGroup :=
  match group.parts with
  | some height :: parts => some { group with parts := some (height + 1) :: parts }
  | _ => none

end OpenGroup

/-! Reading. -/

/-- How far an expression has been read. -/
structure Reading where
  mode : Mode
  /-- The names of groups that are taken. -/
  names : List (List Char)
  group : OpenGroup
  /-- The groups around it, and how they go on to be read. -/
  outer : List (Mode × OpenGroup)

namespace Reading

def initial : Reading := ⟨.initial, [], .empty, []⟩

def insert (reading : Reading) (part : Option Nat) : Reading :=
  { reading with group := reading.group.insert part }

/-- Adds a part that has none itself, if it can stand here. -/
def insertLeaf? (reading : Reading) (fits : Bool) : Option Reading :=
  if fits then some (reading.insert (some 0)) else none

def open? (reading : Reading) : Opening → Option Reading
  | .flags flags => some { reading.insert none with mode := reading.mode.withFlags flags }
  | .group name flags =>
    if name.any (· ∈ reading.names) then none
    else
      some ⟨reading.mode.withFlags flags, name.toList ++ reading.names, .empty,
        (reading.mode, reading.group) :: reading.outer⟩

def close? (reading : Reading) : Option Reading :=
  match reading.outer with
  | [] => none
  | (mode, parent) :: outer =>
    some ⟨mode, reading.names, parent.insert (some (reading.group.height + 1)), outer⟩

/-- Reads what begins with a character. -/
def step? (reading : Reading) (c : Char) (rest : List Char) : Option (Reading × List Char) :=
  if c = '(' then do
    let (opening, rest) ← opening? (reading.mode.skip rest)
    return (← reading.open? opening, rest)
  else if c = ')' then reading.close?.map (·, rest)
  else if c = '|' then some ({ reading with group := reading.group.beginAlternative }, rest)
  else if c ∈ ['*', '+', '?'] then
    reading.group.repeat?.map fun group =>
      ({ reading with group := group }, if rest.head? = some '?' then rest.drop 1 else rest)
  else if c = '[' then
    (class? reading.mode rest).map fun (height, rest) => (reading.insert (some height), rest)
  else if c = '\\' then do
    let (escape, rest) ← escape? reading.mode rest
    let fits := match escape with
      | .char _ => reading.mode.hasLetters
      | _ => true
    return (← reading.insertLeaf? fits, rest)
  else if c = '.' then (reading.insertLeaf? reading.mode.unicode).map (·, rest)
  else if c = '^' ∨ c = '$' then (reading.insertLeaf? true).map (·, rest)
  else (reading.insertLeaf? (reading.mode.hasLetters && c ≠ '\x7b')).map (·, rest)

/-- How deep parts may lie in others. -/
def mostNested : Nat := 250

/-- Whether an expression may end here. -/
def isComplete (reading : Reading) : Bool :=
  reading.outer.isEmpty && reading.group.height ≤ mostNested

/-- Whether the rest completes the expression; `fuel` bounds its length. -/
def accepts : Nat → Reading → List Char → Bool
  | 0, _, _ => false
  | fuel + 1, reading, text =>
    match reading.mode.skip text with
    | [] => reading.isComplete
    | c :: rest =>
      match reading.step? c rest with
      | some (reading, rest) => accepts fuel reading rest
      | none => false

end Reading

def isValid (text : List Char) : Bool :=
  Reading.initial.accepts (text.length + 1) text

end Expression

end FileCleanup
