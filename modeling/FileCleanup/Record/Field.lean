import FileCleanup.Record

namespace FileCleanup.FileRecord

open Time

/-! The fields of a record by name, so that forms of a record can be read field by field. -/

inductive Field
  | id
  | tenant
  | bucket
  | storageKey
  | originalFilename
  | contentType
  | fileSize
  | expiresAt
  | deletedAt
  | claimedAt
  | failedAttempts
  | createdAt
  | updatedAt
  deriving DecidableEq, Repr

namespace Field

/-- All fields, in the order in which a record lists them. -/
def all : List Field :=
  [.id, .tenant, .bucket, .storageKey, .originalFilename, .contentType, .fileSize, .expiresAt,
    .deletedAt, .claimedAt, .failedAttempts, .createdAt, .updatedAt]

theorem mem_all (field : Field) : field ∈ all := by
  cases field <;> decide

def name : Field → String
  | id => "id"
  | tenant => "tenant_id"
  | bucket => "bucket"
  | storageKey => "storage_key"
  | originalFilename => "original_filename"
  | contentType => "content_type"
  | fileSize => "file_size"
  | expiresAt => "expires_at"
  | deletedAt => "deleted_at"
  | claimedAt => "claimed_at"
  | failedAttempts => "failed_attempts"
  | createdAt => "created_at"
  | updatedAt => "updated_at"

def ofName? (name : String) : Option Field :=
  all.find? (·.name = name)

inductive Kind
  | identifier
  | text
  | size
  | attempts
  | instant
  | optionalInstant
  deriving DecidableEq, Repr

def kind : Field → Kind
  | id | tenant => .identifier
  | bucket | storageKey | originalFilename | contentType => .text
  | fileSize => .size
  | expiresAt | deletedAt | claimedAt => .optionalInstant
  | failedAttempts => .attempts
  | createdAt | updatedAt => .instant

def Kind.Value : Kind → Type
  | identifier => Uuid
  | text => String
  | size => Int64
  | attempts => Int32
  | instant => Instant
  | optionalInstant => Option Instant

abbrev Value (field : Field) : Type := field.kind.Value

end Field

def value (record : FileRecord) : (field : Field) → field.Value
  | .id => record.id
  | .tenant => record.tenant
  | .bucket => record.bucket
  | .storageKey => record.storageKey
  | .originalFilename => record.originalFilename
  | .contentType => record.contentType
  | .fileSize => record.fileSize
  | .expiresAt => record.expiresAt
  | .deletedAt => record.deletedAt
  | .claimedAt => record.claimedAt
  | .failedAttempts => record.failedAttempts
  | .createdAt => record.createdAt
  | .updatedAt => record.updatedAt

/-- A record some of whose fields are known. -/
def Draft : Type := (field : Field) → Option field.Value

namespace Draft

def empty : Draft := fun _ => none

def set (draft : Draft) (field : Field) (value : field.Value) : Draft :=
  fun other => if same : field = other then some (same ▸ value) else draft other

/-- The record, once every field is known. -/
def record? (draft : Draft) : Option FileRecord := do
  return {
    id := ← draft .id
    tenant := ← draft .tenant
    bucket := ← draft .bucket
    storageKey := ← draft .storageKey
    originalFilename := ← draft .originalFilename
    contentType := ← draft .contentType
    fileSize := ← draft .fileSize
    expiresAt := ← draft .expiresAt
    deletedAt := ← draft .deletedAt
    claimedAt := ← draft .claimedAt
    failedAttempts := ← draft .failedAttempts
    createdAt := ← draft .createdAt
    updatedAt := ← draft .updatedAt }

end Draft

theorem record?_value (record : FileRecord) :
    Draft.record? (fun field => some (record.value field)) = some record := rfl

end FileCleanup.FileRecord
