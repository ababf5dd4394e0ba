import FileCleanup.Record.Field
import FileCleanup.Time.Span

namespace FileCleanup

open Time

/-! The statements that the record store is made of, each on one line. -/

inductive Parameter
  | identifier (id : Uuid)
  | integer (value : Int)
  | seconds (span : Span)
  deriving DecidableEq, Repr

structure Statement where
  text : String
  parameters : List Parameter
  deriving DecidableEq, Repr

namespace Statement

def columns : String :=
  ", ".intercalate (FileRecord.Field.all.map (·.name))

def qualifiedColumns : String :=
  ", ".intercalate (FileRecord.Field.all.map fun field => "files." ++ field.name)

/-- A statement written clause by clause. -/
def ofClauses (clauses : List String) (parameters : List Parameter) : Statement :=
  ⟨" ".intercalate clauses, parameters⟩

def get (id : Uuid) : Statement :=
  ofClauses ["SELECT", columns, "FROM files", "WHERE id = $1"] [.identifier id]

def countExpired : Statement :=
  ofClauses ["SELECT COUNT(*)", "FROM files",
    "WHERE expires_at IS NOT NULL", "AND expires_at <= NOW()", "AND deleted_at IS NULL"] []

def releaseStaleClaims (age : Span) : Statement :=
  ofClauses ["UPDATE files", "SET claimed_at = NULL, updated_at = NOW()",
    "WHERE claimed_at IS NOT NULL", "AND deleted_at IS NULL",
    "AND claimed_at < NOW() - make_interval(secs => $1)"] [.seconds age]

/-- Rows that another transaction holds are passed over, so no row is claimed twice. -/
def claimExpired (limit : Int) : Statement :=
  ofClauses ["WITH candidates AS (", "SELECT id", "FROM files",
    "WHERE expires_at IS NOT NULL", "AND expires_at <= NOW()", "AND deleted_at IS NULL",
    "AND claimed_at IS NULL", "ORDER BY expires_at ASC", "LIMIT $1",
    "FOR UPDATE SKIP LOCKED", ")",
    "UPDATE files", "SET claimed_at = NOW(), updated_at = NOW()", "FROM candidates",
    "WHERE files.id = candidates.id", "RETURNING", qualifiedColumns] [.integer limit]

def recordFailedAttempt (id : Uuid) : Statement :=
  ofClauses ["UPDATE files", "SET failed_attempts = failed_attempts + 1, updated_at = NOW()",
    "WHERE id = $1"] [.identifier id]

def softDelete (id : Uuid) : Statement :=
  ofClauses ["UPDATE files", "SET deleted_at = NOW(), claimed_at = NULL, updated_at = NOW()",
    "WHERE id = $1", "AND deleted_at IS NULL"] [.identifier id]

end Statement

end FileCleanup
