import FileCleanup.Json.Reader
import FileCleanup.Json.Text
import FileCleanup.Text.Blank
import FileCleanup.Text.Word

namespace FileCleanup

open Json

/-! Which kind of object store keeps the bytes of the files. -/

inductive StorageKind
  | s3
  | directory
  deriving DecidableEq, Repr

namespace StorageKind

def name : StorageKind → String
  | s3 => "s3"
  | directory => "local"

def ofName? (name : String) : Option StorageKind :=
  if name = "s3" then some .s3
  else if name = "local" then some .directory
  else none

/-- Reads a name in either case between blanks. -/
def ofText? (text : String) : Option StorageKind :=
  let word := String.ofList (Text.trim text.toList)
  if Text.matchesWord "s3" word then some .s3
  else if Text.matchesWord "local" word then some .directory
  else none

def toJson (kind : StorageKind) : String :=
  String.ofList (stringText kind.name.toList)

def named (name : String) : Reader StorageKind :=
  match ofName? name with
  | some kind => return kind
  | none => throw .wrong

/-- A name, or an object whose one member has that name and the value null. -/
def reader : Reader StorageKind := do
  match ← peekToken with
  | none => throw .endedEarly
  | some '"' => named (← string)
  | some '\x7b' =>
    advance
    let kind ← named (← string)
    token ':'
    null
    token '\x7d'
    return kind
  | some _ => throw .malformed

def ofJson (text : String) : Except Fault StorageKind :=
  readAll reader text

end StorageKind

end FileCleanup
