import FileCleanup.Settings.Load
import FileCleanup.Text.Alphanumeric
import FileCleanup.Text.Quoted

namespace FileCleanup.EnvFile

open Text

/-!
Files of variable assignments, one `NAME=value` a line.  A quote left open goes on to the next
line.  The first line that cannot be read ends the file, and what stands before it counts.  A value
with a zero character cannot be handed to a variable, and stops the program.
-/

/-! Lines. -/

/-- Where in a line the reader is. -/
inductive Place
  | plain
  | afterBlank
  | escaped
  | inSingle
  | inSingleEscaped
  | inDouble
  | inDoubleEscaped
  deriving DecidableEq, Repr

def Place.opened (c : Char) : Place :=
  if c = '\\' then .escaped
  else if c = '"' then .inDouble
  else if c = '\x27' then .inSingle
  else .plain

def Place.next (place : Place) (c : Char) : Place :=
  match place with
  | .plain => if isBlank c ∧ c ≠ '\n' ∧ c ≠ '\r' then .afterBlank else .opened c
  | .afterBlank => .opened c
  | .escaped => .plain
  | .inSingle => if c = '\\' then .inSingleEscaped else if c = '\x27' then .plain else .inSingle
  | .inSingleEscaped => .inSingle
  | .inDouble => if c = '\\' then .inDoubleEscaped else if c = '"' then .plain else .inDouble
  | .inDoubleEscaped => .inDouble

/-- How a line ends: in some place, or before a comment that a single blank introduces. -/
inductive Ending
  | at (place : Place)
  | comment (before : List Char)

def ending (place : Place) (before : List Char) : List Char → Ending
  | [] => .at place
  | c :: rest =>
    if place = .afterBlank ∧ c = '#' then .comment before.reverse
    else ending (place.next c) (c :: before) rest

/-- The lines of a text, each with its line feed. -/
def physicalLines (line : List Char) : List Char → List (List Char)
  | [] => if line = [] then [] else [line.reverse]
  | c :: rest =>
    if c = '\n' then (c :: line).reverse :: physicalLines [] rest
    else physicalLines (c :: line) rest

def withoutLineEnd (line : List Char) : List Char :=
  match line.reverse with
  | '\n' :: '\r' :: rest => rest.reverse
  | '\n' :: rest => rest.reverse
  | _ => line

/-- The lines with those joined between which a quote is open; none stands for a text that ends
inside one. -/
def logicalLines (taken : List Char) (place : Place) : List (List Char) → List (Option (List Char))
  | [] => if place = .plain then [] else [none]
  | line :: rest =>
    if (dropBlanks (taken ++ line)).head? = some '#' then some [] :: logicalLines [] .plain rest
    else
      match ending place [] line with
      | .comment before => some (taken ++ before) :: logicalLines [] .plain rest
      | .at .plain => some (withoutLineEnd (taken ++ line)) :: logicalLines [] .plain rest
      | .at place => logicalLines (taken ++ line) place rest

/-! Values. -/

/-- A reference to another variable that is being read. -/
inductive Reference
  /-- A dollar sign and then letters and digits. -/
  | bare (name : List Char)
  /-- A name in braces. -/
  | braced (name : List Char)

inductive Mode
  | open
  | single
  | double
  | escaped (double : Bool)
  | reference (double : Bool) (reference : Reference)
  /-- Only blanks and a comment may follow. -/
  | finished

def Mode.unquoted (double : Bool) : Mode :=
  if double then .double else .open

def unescaped? (c : Char) : Option Char :=
  if c = '\\' ∨ c = '\x27' ∨ c = '"' ∨ c = '$' ∨ c = ' ' then some c
  else if c = 'n' then some '\n'
  else none

/-- What a name stands for: nothing if no variable has it. -/
def resolved (environment : Variables) (name : List Char) : List Char :=
  ((environment (String.ofList name)).getD "").toList

/-- The value written by the rest of a line. -/
def value? (environment : Variables) (mode : Mode) : List Char → Option (List Char)
  | [] =>
    match mode with
    | .open | .finished | .escaped false => some []
    | .reference false (.bare name) => some (resolved environment name)
    | _ => none
  | c :: rest =>
    match mode with
    | .finished =>
      if c = ' ' ∨ c = '\t' then value? environment .finished rest
      else if c = '#' then some []
      else none
    | .escaped double => do
      let c ← unescaped? c
      return c :: (← value? environment (.unquoted double) rest)
    | .single =>
      if c = '\x27' then value? environment .open rest
      else (value? environment .single rest).map (c :: ·)
    | .reference double (.bare name) =>
      if isAlphanumeric c then value? environment (.reference double (.bare (name ++ [c]))) rest
      else if c = '\x7b' ∧ name = [] then value? environment (.reference double (.braced [])) rest
      else if c = '$' then
        (value? environment (.reference double (.bare [])) rest).map
          (resolved environment name ++ ·)
      else (value? environment (.unquoted double) rest).map (resolved environment name ++ c :: ·)
    | .reference double (.braced name) =>
      if c = '\x7d' then
        (value? environment (.unquoted double) rest).map (resolved environment name ++ ·)
      else value? environment (.reference double (.braced (name ++ [c]))) rest
    | .double =>
      if c = '$' then value? environment (.reference true (.bare [])) rest
      else if c = '"' then value? environment .open rest
      else if c = '\\' then value? environment (.escaped true) rest
      else (value? environment .double rest).map (c :: ·)
    | .open =>
      if c = '$' then value? environment (.reference false (.bare [])) rest
      else if c = '\x27' then value? environment .single rest
      else if c = '"' then value? environment .double rest
      else if c = '\\' then value? environment (.escaped false) rest
      else if c = ' ' ∨ c = '\t' then value? environment .finished rest
      else (value? environment .open rest).map (c :: ·)

/-! Assignments. -/

def isNameStart (c : Char) : Bool :=
  c.isAlpha || c = '_'

def isNameChar (c : Char) : Bool :=
  c.isAlphanum || c = '_' || c = '.'

def name? (line : List Char) : Option (List Char × List Char) :=
  if (line.head?.map isNameStart).getD false then
    some (line.takeWhile isNameChar, dropBlanks (line.dropWhile isNameChar))
  else none

inductive Line
  | blank
  | assignment (name : String) (value : List Char)

/-- The name and the text of the value; `export` may stand before the name, or be one. -/
def assignment? (line : List Char) : Option (List Char × List Char) := do
  let (name, rest) ← name? line
  match rest with
  | '=' :: value => return (name, dropBlanks value)
  | _ =>
    if name = "export".toList then
      let (name, rest) ← name? rest
      match rest with
      | '=' :: value => return (name, dropBlanks value)
      | _ => none
    else none

def line? (environment : Variables) (text : List Char) : Option Line :=
  let line := trim text
  if line = [] ∨ line.head? = some '#' then some .blank
  else do
    let (name, text) ← assignment? line
    if text = [] ∨ text.head? = some '#' then return .assignment (String.ofList name) []
    else return .assignment (String.ofList name) (← value? environment .open text)

/-- A variable that cannot be set. -/
structure Fault where
  name : String
  value : String
  deriving DecidableEq, Repr

def Fault.message (fault : Fault) : String :=
  "failed to set environment variable \x60" ++ quotedStrictly fault.name ++ "\x60 to \x60" ++
    quotedStrictly fault.value ++ "\x60: file name contained an unexpected NUL byte"

/-- The variables with one more, unless it is set already. -/
def define (environment : Variables) (name : String) (value : List Char) :
    Except Fault Variables :=
  if (environment name).isSome then .ok environment
  else if '\x00' ∈ value then .error ⟨name, String.ofList value⟩
  else .ok fun other => if other = name then some (String.ofList value) else environment other

def run (environment : Variables) : List (Option (List Char)) → Except Fault Variables
  | [] => .ok environment
  | none :: _ => .ok environment
  | some text :: rest =>
    match line? environment text with
    | none => .ok environment
    | some .blank => run environment rest
    | some (.assignment name value) => do run (← define environment name value) rest

/-- The variables together with those that the text of a file adds. -/
def load (text : String) (environment : Variables) : Except Fault Variables :=
  let chars := text.toList
  let body := if chars.head? = some '\ufeff' then chars.drop 1 else chars
  run environment (logicalLines [] .plain (physicalLines [] body))

end FileCleanup.EnvFile
