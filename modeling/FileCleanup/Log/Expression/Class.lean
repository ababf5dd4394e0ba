import FileCleanup.Log.Expression.Escape

namespace FileCleanup.Expression

open Text

/-!
Classes of characters in brackets.  They hold characters, ranges, named classes and other classes,
and may be combined by operators.
-/

/-- A class that is being read: the height of what stands before its last operator, and the heights
of its members since then. -/
structure OpenClass where
  operand : Option Nat
  members : List Nat

namespace OpenClass

def empty : OpenClass := ⟨none, []⟩

def height (opened : OpenClass) : Nat :=
  let last := heightOver opened.members
  match opened.operand with
  | none => last
  | some left => max left last + 1

def insert (opened : OpenClass) (member : Nat) : OpenClass :=
  { opened with members := member :: opened.members }

def beginOperand (opened : OpenClass) : OpenClass :=
  ⟨some opened.height, []⟩

end OpenClass

/-- A member of a class, and which character it is if it is only one. -/
def member? (mode : Mode) : List Char → Option (Option Char × List Char)
  | [] => none
  | '\\' :: rest =>
    match escape? mode rest with
    | some (.char c, rest) => if mode.hasMember c then some (some c, rest) else none
    | some (.set, rest) => some (none, rest)
    | _ => none
  | c :: rest => if mode.hasMember c then some (some c, rest) else none

/-- A member, or a range between two of them. -/
def range? (mode : Mode) (text : List Char) : Option (List Char) := do
  let (first, rest) ← member? mode text
  match mode.skip rest with
  | '-' :: behind =>
    if mode.peek? behind = some ']' ∨ mode.peek? behind = some '-' then return '-' :: behind
    let (last, rest) ← member? mode (mode.skip behind)
    match first, last with
    | some first, some last => if first ≤ last then return rest else failure
    | _, _ => failure
  | rest => return rest

/-- Whether the opposite of a class is meant, and what follows the sign for that. -/
def opposite (mode : Mode) (text : List Char) : Bool × List Char :=
  match mode.skip text with
  | '^' :: rest => (true, rest)
  | rest => (false, rest)

/-- Only characters have opposites, since those of bytes are parts of characters. -/
def hasOpposite (mode : Mode) : Bool :=
  mode.unicode

/-- A class that is a member matches letters in the case of the whole, so its opposite has to match
in one case. -/
def hasInnerOpposite (mode : Mode) : Bool :=
  mode.unicode && mode.hasLetters

def classNames : List String :=
  ["alnum", "alpha", "ascii", "blank", "cntrl", "digit", "graph", "lower", "print", "punct",
    "space", "upper", "word", "xdigit"]

/-- A named class behind a bracket: whether its opposite is meant, and what follows it. -/
def namedClass? : List Char → Option (Bool × List Char)
  | ':' :: rest =>
    let (negated, rest) := match rest with
      | '^' :: rest => (true, rest)
      | _ => (false, rest)
    let name := rest.takeWhile (· ≠ ':')
    match rest.drop name.length with
    | ':' :: ']' :: rest =>
      if String.ofList name ∈ classNames then some (negated, rest) else none
    | _ => none
  | _ => none

/-- The height of a class and what follows it, when `inner` is being read inside of `outer`.
`leading` tells that nothing but hyphens stands before in the inner one, where a hyphen or else a
closing bracket is a member.  `fuel` bounds the length of the text. -/
def classFrom? (mode : Mode) : Nat → Bool → OpenClass → List OpenClass → List Char →
    Option (Nat × List Char)
  | 0, _, _, _, _ => none
  | fuel + 1, leading, inner, outer, text =>
    match mode.skip text with
    | [] => none
    | ']' :: rest =>
      if leading ∧ inner.members = [] then
        if mode.hasMember ']' then classFrom? mode fuel false (inner.insert 0) outer rest else none
      else
        match outer with
        | [] => some (inner.height + 1, rest)
        | parent :: outer =>
          classFrom? mode fuel false (parent.insert (inner.height + 1)) outer rest
    | '[' :: rest =>
      match namedClass? rest with
      | some (negated, rest) =>
        if mode.hasLetters ∧ (negated → hasOpposite mode) then
          classFrom? mode fuel false (inner.insert 0) outer rest
        else none
      | none =>
        let (negated, rest) := opposite mode rest
        if negated ∧ !hasInnerOpposite mode then none
        else classFrom? mode fuel true .empty (inner :: outer) rest
    | c :: rest =>
      if leading ∧ c = '-' then
        if mode.hasMember '-' then classFrom? mode fuel true (inner.insert 0) outer rest else none
      else if c ∈ ['&', '-', '~'] ∧ rest.head? = some c then
        classFrom? mode fuel false inner.beginOperand outer (rest.drop 1)
      else
        match range? mode (c :: rest) with
        | some rest => classFrom? mode fuel false (inner.insert 0) outer rest
        | none => none

/-- The height of a class whose bracket has been opened, and what follows it. -/
def class? (mode : Mode) (text : List Char) : Option (Nat × List Char) :=
  let (negated, rest) := opposite mode text
  if negated ∧ !hasOpposite mode then none
  else classFrom? mode (text.length + 1) true .empty [] rest

end FileCleanup.Expression
