import FileCleanup.Log
import FileCleanup.Log.Pattern
import FileCleanup.Text.Alphanumeric
import FileCleanup.Text.Numeral
import FileCleanup.Text.Split
import FileCleanup.Text.Word

namespace FileCleanup

open Text

/-!
Which events are logged.  A filter is a list of directives, each with a target, perhaps a field
that an event has to carry, and the most verbose level that passes there; for an event the most
specific directive decides.
-/

structure LogDirective where
  target : String
  fields : List String
  verbosity : Nat
  deriving DecidableEq, Repr

namespace LogDirective

/-- A level by name or number. -/
def verbosity? (text : List Char) : Option Nat :=
  match (IntegerRange.mk 0 5).read? text with
  | some value => some value.toNat
  | none =>
    [("off", 0), ("error", 1), ("warn", 2), ("info", 3), ("debug", 4), ("trace", 5)].findSome?
      fun (name, value) => if matchesWord name (String.ofList text) then some value else none

/-- The level after an equals sign; none written means all. -/
def levelAfter? (text : List Char) : Option Nat :=
  if text = [] then some 5 else verbosity? text

/-- The level after a closing bracket, of which `bare` shows the shape and `text` the letters. -/
def levelAfterBracket? (bare text : List Char) : Option Nat :=
  match bare with
  | [] => some 5
  | '=' :: _ => levelAfter? (text.drop 1)
  | _ => none

/-- Whether a field can be asked for: by its name, or also by a pattern for its value, which ends at
a second equals sign. -/
def isField (field : List Char) : Bool :=
  match splitAt '=' field with
  | _ :: value :: _ => Pattern.isPattern value
  | _ => field ≠ []

/-- The rest of a directive after an opening bracket: the name of a span, a field in braces, or
both.  Only a field that is named alone, without a value, concerns events outside of spans. -/
def bracketed? (target : String) (bare text : List Char) : Option (Option LogDirective) :=
  let name := bare.takeWhile fun c => c ≠ ']' ∧ c ≠ '\x7b'
  let text := text.drop (name.length + 1)
  match bare.drop name.length with
  | ']' :: rest => (levelAfterBracket? rest text).map fun _ => none
  | '\x7b' :: rest =>
    let length := (rest.takeWhile (· ≠ '\x7d')).length
    let field := text.take length
    match rest.drop length with
    | '\x7d' :: ']' :: rest =>
      if !isField field then none
      else
        (levelAfterBracket? rest (text.drop (length + 2))).map fun level =>
          if name = [] ∧ '=' ∉ field then some ⟨target, [String.ofList field], level⟩ else none
    | _ => none
  | _ => none

def isStart (c : Char) : Bool :=
  isAlphanumeric c || c = '-' || c = ':' || c = '_'

/-- A target, a level, or both with an equals sign between them; the inner none stands for a
directive that concerns spans alone.  Blanks around a directive are passed over when its parts are
told apart, yet each part is cut from the text with its blanks. -/
def ofText? (text : List Char) : Option (Option LogDirective) :=
  let bare := trim text
  let length := (bare.takeWhile fun c => c ≠ '=' ∧ c ≠ '[').length
  let target := String.ofList (text.take length)
  let rest := text.drop (length + 1)
  match bare.head? with
  | none => none
  | some first =>
    if first = '[' then bracketed? "" (bare.drop 1) (text.drop 1)
    else if !isStart first then none
    else
      match bare.drop length with
      | '[' :: span => bracketed? target span rest
      | _ :: _ => (levelAfter? rest).map fun level => some ⟨target, [], level⟩
      | [] =>
        match verbosity? text with
        | some level => some (some ⟨"", [], level⟩)
        | none => some (some ⟨String.ofList text, [], 5⟩)

def Concerns (directive : LogDirective) (event : LogEvent) : Prop :=
  directive.target.toList <+: event.target.toList ∧
    ∀ field ∈ directive.fields, field = "message" ∨ field ∈ event.fields.map Prod.fst

instance (directive : LogDirective) (event : LogEvent) : Decidable (directive.Concerns event) :=
  inferInstanceAs (Decidable (_ ∧ _))

/-- How specific two directives are: by their targets' lengths, then by their fields. -/
def compareRank (left right : LogDirective) : Ordering :=
  (compare left.target.length right.target.length).then
    ((compare left.fields.length right.fields.length).then (compare left.fields right.fields))

/-- The more specific one; of two alike the second. -/
def moreSpecific (left right : LogDirective) : LogDirective :=
  if (left.compareRank right).isGT then left else right

end LogDirective

abbrev LogFilter := List LogDirective

namespace LogFilter

/-- The service itself is logged, up to details. -/
def standard : LogFilter := [⟨"backoffice", [], 4⟩]

/-- Directives between commas; none if one of them cannot be read. -/
def ofText? (text : String) : Option LogFilter :=
  (((splitAt ',' text.toList).filter (· ≠ [])).mapM LogDirective.ofText?).map fun directives =>
    directives.filterMap id

/-- The filter that a variable asks for, if it holds one. -/
def ofVariable (value : Option String) : LogFilter :=
  (value.bind ofText?).getD standard

/-- The directive that decides about an event. -/
def decisive? (filter : LogFilter) (event : LogEvent) : Option LogDirective :=
  match filter.filter fun directive => directive.Concerns event with
  | [] => none
  | first :: rest => some (rest.foldl LogDirective.moreSpecific first)

def passes (filter : LogFilter) (event : LogEvent) : Bool :=
  match filter.decisive? event with
  | none => false
  | some directive => event.level.verbosity ≤ directive.verbosity

end LogFilter

end FileCleanup
