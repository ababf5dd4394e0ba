import FileCleanup.Json.Reader
import FileCleanup.Json.Text
import FileCleanup.Record.Field
import FileCleanup.Time.Stamp

namespace FileCleanup.FileRecord

open Json Text Time

/-!
The JSON form of a record: an object with one member per field, in order.  Reading takes the
members in any order, skips unknown ones, and also takes an array of all values in order.
-/

namespace Field

def Kind.written : (kind : Kind) → kind.Value → List Char
  | .identifier, (value : Uuid) => stringText value.hyphenated
  | .text, (value : String) => stringText value.toList
  | .size, (value : Int64) => (toString value.toInt).toList
  | .attempts, (value : Int32) => (toString value.toInt).toList
  | .instant, (value : Instant) => stringText value.stamp
  | .optionalInstant, (value : Option Instant) =>
    match value with
    | some time => stringText time.stamp
    | none => ['n', 'u', 'l', 'l']

def Kind.reader : (kind : Kind) → Reader kind.Value
  | .identifier => decoded Uuid.ofText?
  | .text => Json.string
  | .size => return Int64.ofInt (← integer .signed64)
  | .attempts => return Int32.ofInt (← integer .signed32)
  | .instant => decoded Instant.ofStamp?
  | .optionalInstant => nullOr (decoded Instant.ofStamp?)

/-- What an object without this member means. -/
def absent? (field : Field) : Option field.Value :=
  match field with
  | .expiresAt | .deletedAt | .claimedAt => some (none : Option Instant)
  | _ => none

end Field

def member (record : FileRecord) (field : Field) : List Char :=
  stringText field.name.toList ++ ':' :: field.kind.written (record.value field)

def toJson (record : FileRecord) : String :=
  String.ofList ('\x7b' :: [','].intercalate (Field.all.map record.member) ++ ['\x7d'])

def toJsonArray (record : FileRecord) : String :=
  String.ofList ('[' :: [','].intercalate
    (Field.all.map fun field => field.kind.written (record.value field)) ++ [']'])

/-- Whether another element follows inside an array. -/
def moreElements (first : Bool) : Reader Bool := do
  match ← peekToken with
  | none => throw .endedEarly
  | some ']' => return false
  | some c =>
    if first then return true
    else if c = ',' then
      advance
      match ← peekToken with
      | none => throw .endedEarly
      | some ']' => throw .malformed
      | some _ => return true
    else throw .malformed

def elements (draft : Draft) (first : Bool) : List Field → Reader Draft
  | [] => return draft
  | field :: rest => do
    if ← moreElements first then
      let value ← field.kind.reader
      elements (draft.set field value) false rest
    else throw .wrong

/-- Whether another member follows inside an object; its name is next then. -/
def moreMembers (first : Bool) : Reader Bool := do
  match ← peekToken with
  | none => throw .endedEarly
  | some '\x7d' => return false
  | some c =>
    if first then
      if c = '"' then return true else throw .malformed
    else if c = ',' then
      advance
      match ← peekToken with
      | none => throw .endedEarly
      | some '"' => return true
      | some _ => throw .malformed
    else throw .malformed

/-- One member: a known field is set, once; an unknown one is skipped. -/
def takeMember (draft : Draft) : Reader Draft := do
  match Field.ofName? (← Json.string) with
  | some field =>
    if (draft field).isSome then throw .wrong
    token ':'
    return draft.set field (← field.kind.reader)
  | none =>
    token ':'
    skipValue
    return draft

/-- The members of an object up to its closing brace; each takes at least one character. -/
def members : Nat → Bool → Draft → Reader Draft
  | 0, _, _ => throw .endedEarly
  | fuel + 1, first, draft => do
    if ← moreMembers first then members fuel false (← takeMember draft) else return draft

def Draft.complete (draft : Draft) : Draft :=
  fun field => (draft field).or field.absent?

def reader : Reader FileRecord := do
  let first ← startOfValue
  match first with
  | '[' =>
    advance
    match (← elements .empty true Field.all).record? with
    | some record =>
      token ']'
      return record
    | none => throw .wrong
  | '\x7b' =>
    advance
    match (← members ((← get).length + 1) true .empty).complete.record? with
    | some record =>
      token '\x7d'
      return record
    | none => throw .wrong
  | _ => unexpected first

def ofJson (text : String) : Except Fault FileRecord :=
  readAll reader text

end FileCleanup.FileRecord
