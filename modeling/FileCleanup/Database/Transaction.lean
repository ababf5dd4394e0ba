import FileCleanup.Database.Session

namespace FileCleanup

/-! Running a body inside a transaction: it is committed if the body succeeds, and rolled back if
not. -/

namespace LogEvent

def rollbackFailed (fault : DatabaseError) : LogEvent :=
  ⟨.warn, "backoffice_db::db::transaction", "Failed to roll back transaction",
    [("error", .text fault.report.message)]⟩

end LogEvent

/-- What is done inside a transaction, against the script that the server follows. -/
abbrev TransactionBody (Value : Type) := Script → Session → Except Report Value × Session

namespace Session

/-- Ends a transaction as the result of its body asks for.  After a failed commit the connection
is rolled back. -/
def finish {Value : Type} (session : Session) (script : Script) (result : Except Report Value) :
    Except Report Value × Session :=
  match result with
  | .ok value =>
    let session := session.send .commit
    match script.commitFault with
    | none => (.ok value, session)
    | some fault =>
      (.error (fault.error.report.within "Failed to commit transaction"), session.send .rollback)
  | .error cause =>
    let session := session.send .rollback
    match script.rollbackFault with
    | none => (.error cause, session)
    | some fault => (.error cause, session.tell (.rollbackFailed fault.error))

def withTransaction {Value : Type} (session : Session) (body : TransactionBody Value) :
    Except Report Value × Session :=
  if session.isOpen then
    let (script, session) := session.next
    let session := session.send .begin
    match script.beginFault with
    | some fault => (.error (fault.error.report.within "Failed to begin transaction"), session)
    | none =>
      let (result, session) := body script session
      session.finish script result
  else
    (.error (DatabaseError.poolClosed.report.within "Failed to begin transaction"), session)

end Session

/-- A body of one statement, whose reply `read` makes sense of. -/
def TransactionBody.ofStatement {Value : Type} (statement : Statement)
    (read : Script → Except DatabaseError Value) : TransactionBody Value :=
  fun script session =>
    let (answer, session) := session.execute script statement
    ((answer.bind fun _ => read script).mapError DatabaseError.report, session)

end FileCleanup
