import FileCleanup.Database.Error

namespace FileCleanup

/-! The steps that bring a database to the shape the repository needs. -/

structure Migration where
  version : Nat
  description : String
  /-- Whether the script runs outside a transaction. -/
  withoutTransaction : Bool
  script : String
  deriving DecidableEq, Repr

namespace Migration

def createFiles : Migration where
  version := 20240601000000
  description := "create files"
  withoutTransaction := false
  script := "\n".intercalate [
    "-- Stored files and their cleanup lifecycle.",
    "-- expires_at NULL = permanent; deleted_at is the soft-delete marker;",
    "-- claimed_at is the start of the current cleanup lease.",
    "CREATE EXTENSION IF NOT EXISTS pgcrypto;",
    "",
    "CREATE TABLE IF NOT EXISTS files (",
    "    id UUID PRIMARY KEY DEFAULT gen_random_uuid(),",
    "    tenant_id UUID NOT NULL,",
    "    bucket TEXT NOT NULL,",
    "    storage_key TEXT NOT NULL,",
    "    original_filename TEXT NOT NULL,",
    "    content_type TEXT NOT NULL,",
    "    file_size BIGINT NOT NULL DEFAULT 0,",
    "    expires_at TIMESTAMPTZ,",
    "    deleted_at TIMESTAMPTZ,",
    "    claimed_at TIMESTAMPTZ,",
    "    failed_attempts INTEGER NOT NULL DEFAULT 0 CHECK (failed_attempts >= 0),",
    "    created_at TIMESTAMPTZ NOT NULL DEFAULT NOW(),",
    "    updated_at TIMESTAMPTZ NOT NULL DEFAULT NOW()",
    ");",
    "",
    "CREATE INDEX IF NOT EXISTS idx_files_tenant_id ON files (tenant_id);",
    "",
    "-- Claim query: expired, live, unclaimed rows ordered by expiry.",
    "CREATE INDEX IF NOT EXISTS idx_files_expires_at_live",
    "    ON files (expires_at)",
    "    WHERE deleted_at IS NULL AND expires_at IS NOT NULL;",
    "",
    "-- Stale-claim release query.",
    "CREATE INDEX IF NOT EXISTS idx_files_claimed_at",
    "    ON files (claimed_at)",
    "    WHERE claimed_at IS NOT NULL AND deleted_at IS NULL;",
    ""]

/-- All steps, oldest first. -/
def all : List Migration := [createFiles]

/-- A step that a database has already taken, and whether its script is still the same. -/
structure Applied where
  version : Nat
  unchanged : Bool
  deriving DecidableEq, Repr

inductive Problem
  | dirty (version : Nat)
  | missing (version : Nat)
  | changed (version : Nat)
  | failed (version : Nat) (cause : DatabaseError)
  deriving DecidableEq, Repr

def Problem.report : Problem → Report
  | dirty version =>
    .ofMessage ("migration " ++ toString version ++
      " is partially applied; fix and remove row from \x60_sqlx_migrations\x60 table")
  | missing version =>
    .ofMessage ("migration " ++ toString version ++
      " was previously applied but is missing in the resolved migrations")
  | changed version =>
    .ofMessage ("migration " ++ toString version ++
      " was previously applied but has been modified")
  | failed version cause =>
    cause.report.within ("while executing migration " ++ toString version ++ ": " ++
      cause.report.message)

/-- The steps that are left to take; a database that does not fit is refused. -/
def pending (applied : List Applied) (dirty : Option Nat) : Except Problem (List Migration) := do
  if let some version := dirty then throw (.dirty version)
  if let some unknown := applied.find? fun step => all.all (·.version ≠ step.version) then
    throw (.missing unknown.version)
  if let some step := applied.find? fun step => !step.unchanged then
    throw (.changed step.version)
  return all.filter fun migration => applied.all (·.version ≠ migration.version)

end Migration

end FileCleanup
