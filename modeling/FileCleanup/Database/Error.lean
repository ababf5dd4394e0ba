import FileCleanup.Report

namespace FileCleanup

/-! What a database, or the way to it, answers instead of a result. -/

inductive DatabaseError
  | configuration (cause : Report)
  /-- An error that the server reports, by its code. -/
  | server (code message : String)
  | connection (reason : String)
  | protocol (reason : String)
  | rowNotFound
  | columnNotFound (name : String)
  | columnDecode (name reason : String)
  /-- As `columnDecode`, for a column that is known by its place. -/
  | nullColumn (index : Nat) (reason : String)
  | decode (reason : String)
  | poolTimedOut
  | poolClosed
  | workerCrashed
  /-- The connection is in no transaction after one was begun. -/
  | beginFailed
  /-- A transaction was begun in a way that only works outside of one. -/
  | beginNested
  deriving DecidableEq, Repr

namespace DatabaseError

/-- The error's own message and the one behind it. -/
def report : DatabaseError → Report
  | configuration cause => cause.within ("error with configuration: " ++ cause.message)
  | server _ message => ⟨"error returned from database: " ++ message, [message]⟩
  | connection reason => ⟨"error communicating with database: " ++ reason, [reason]⟩
  | protocol reason => ⟨"encountered unexpected or invalid data: " ++ reason, []⟩
  | rowNotFound =>
    ⟨"no rows returned by a query that expected to return at least one row", []⟩
  | columnNotFound name => ⟨"no column found for name: " ++ name, []⟩
  | columnDecode name reason =>
    ⟨"error occurred while decoding column \"" ++ name ++ "\": " ++ reason, [reason]⟩
  | nullColumn index reason =>
    ⟨"error occurred while decoding column " ++ toString index ++ ": " ++ reason, [reason]⟩
  | decode reason => ⟨"error occurred while decoding: " ++ reason, [reason]⟩
  | poolTimedOut => ⟨"pool timed out while waiting for an open connection", []⟩
  | poolClosed => ⟨"attempted to acquire a connection on a closed pool", []⟩
  | workerCrashed => ⟨"attempted to communicate with a crashed background worker", []⟩
  | beginFailed =>
    ⟨"got unexpected connection status after attempting to begin transaction", []⟩
  | beginNested => ⟨"attempted to call begin_with at non-zero transaction depth", []⟩

end DatabaseError

end FileCleanup
