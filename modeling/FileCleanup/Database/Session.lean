import FileCleanup.Database.Row
import FileCleanup.Database.Statement
import FileCleanup.Log

namespace FileCleanup

/-!
A conversation with a server over one connection.  What the server answers is given in advance,
one script for each transaction or statement outside one; when the scripts run out it answers
with nothing.
-/

structure ServerFault where
  code : String
  message : String
  deriving DecidableEq, Repr

def ServerFault.error (fault : ServerFault) : DatabaseError :=
  .server fault.code fault.message

structure Script where
  beginFault : Option ServerFault
  /-- How the statement fails, if it does. -/
  fault : Option ServerFault
  rows : List Row
  affected : Nat
  /-- What a count answers; none stands for a null. -/
  count : Option Int
  commitFault : Option ServerFault
  rollbackFault : Option ServerFault

def Script.quiet : Script := ⟨none, none, [], 0, some 0, none, none⟩

/-- What goes out over the connection. -/
inductive Message
  | begin
  | statement (statement : Statement)
  | commit
  | rollback
  deriving DecidableEq, Repr

structure Session where
  /-- Whether the pool still hands out its connection. -/
  isOpen : Bool
  scripts : List Script
  sent : List Message
  events : List LogEvent

namespace Session

def start (scripts : List Script) : Session := ⟨true, scripts, [], []⟩

def send (session : Session) (message : Message) : Session :=
  { session with sent := session.sent ++ [message] }

def tell (session : Session) (event : LogEvent) : Session :=
  { session with events := session.events ++ [event] }

/-- The script of the next transaction or statement. -/
def next (session : Session) : Script × Session :=
  match session.scripts with
  | [] => (.quiet, session)
  | script :: rest => (script, { session with scripts := rest })

def close (session : Session) : Session :=
  { session with isOpen := false }

/-- Sends one statement; the script says whether it fails. -/
def execute (session : Session) (script : Script) (statement : Statement) :
    Except DatabaseError Unit × Session :=
  (match script.fault with
    | none => .ok ()
    | some fault => .error fault.error,
    session.send (.statement statement))

end Session

end FileCleanup
