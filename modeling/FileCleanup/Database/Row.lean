import FileCleanup.Database.Error
import FileCleanup.Record.Field

namespace FileCleanup

open Time

/-! Rows as a server sends them: a column may be absent or null where a record needs a value. -/

inductive Cell (α : Type)
  | absent
  | null
  | value (value : α)
  deriving Repr

namespace FileRecord.Field

/-- What a column of this kind holds when it is not null. -/
def Kind.Stored : Kind → Type
  | identifier => Uuid
  | text => String
  | size => Int64
  | attempts => Int32
  | instant => Instant
  | optionalInstant => Instant

def Kind.ofStored : (kind : Kind) → kind.Stored → kind.Value
  | .identifier, value => value
  | .text, value => value
  | .size, value => value
  | .attempts, value => value
  | .instant, value => value
  | .optionalInstant, (value : Instant) => (some value : Option Instant)

/-- What a null stands for, in the kinds that admit one. -/
def Kind.ofNull? : (kind : Kind) → Option kind.Value
  | .optionalInstant => some (none : Option Instant)
  | _ => none

end FileRecord.Field

abbrev Row := (field : FileRecord.Field) → Cell field.kind.Stored

namespace Row

open FileRecord

def unexpectedNull : String := "unexpected null; try decoding as an \x60Option\x60"

def column (row : Row) (field : Field) : Except DatabaseError field.Value :=
  match row field with
  | .absent => .error (.columnNotFound field.name)
  | .null =>
    match field.kind.ofNull? with
    | some value => .ok value
    | none => .error (.columnDecode field.name unexpectedNull)
  | .value value => .ok (field.kind.ofStored value)

/-- The record in a row; of several columns that cannot be read the first one counts. -/
def decode (row : Row) : Except DatabaseError FileRecord := do
  let id ← row.column .id
  let tenant ← row.column .tenant
  let bucket ← row.column .bucket
  let storageKey ← row.column .storageKey
  let originalFilename ← row.column .originalFilename
  let contentType ← row.column .contentType
  let fileSize ← row.column .fileSize
  let expiresAt ← row.column .expiresAt
  let deletedAt ← row.column .deletedAt
  let claimedAt ← row.column .claimedAt
  let failedAttempts ← row.column .failedAttempts
  let createdAt ← row.column .createdAt
  let updatedAt ← row.column .updatedAt
  return ⟨id, tenant, bucket, storageKey, originalFilename, contentType, fileSize, expiresAt,
    deletedAt, claimedAt, failedAttempts, createdAt, updatedAt⟩

/-- The row that holds a record. -/
def ofRecord (record : FileRecord) : Row
  | .id => .value record.id
  | .tenant => .value record.tenant
  | .bucket => .value record.bucket
  | .storageKey => .value record.storageKey
  | .originalFilename => .value record.originalFilename
  | .contentType => .value record.contentType
  | .fileSize => .value record.fileSize
  | .expiresAt => ofOption record.expiresAt
  | .deletedAt => ofOption record.deletedAt
  | .claimedAt => ofOption record.claimedAt
  | .failedAttempts => .value record.failedAttempts
  | .createdAt => .value record.createdAt
  | .updatedAt => .value record.updatedAt
where
  ofOption : Option Instant → Cell Instant
    | some instant => .value instant
    | none => .null

theorem decode_ofRecord (record : FileRecord) : (ofRecord record).decode = .ok record := by
  cases record with
  | mk id tenant bucket storageKey originalFilename contentType fileSize expiresAt deletedAt
      claimedAt failedAttempts createdAt updatedAt =>
    cases expiresAt <;> cases deletedAt <;> cases claimedAt <;> rfl

end Row

end FileCleanup
