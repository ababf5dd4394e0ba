import FileCleanup.Time.Instant
import FileCleanup.Uuid

namespace FileCleanup

open Time

/-! Records of stored files.  A record without an expiry is permanent. -/

structure FileRecord where
  id : Uuid
  tenant : Uuid
  bucket : String
  /-- The key of the object inside its bucket. -/
  storageKey : String
  originalFilename : String
  contentType : String
  fileSize : Int64
  expiresAt : Option Instant
  deletedAt : Option Instant
  /-- When the current cleanup lease began. -/
  claimedAt : Option Instant
  failedAttempts : Int32
  createdAt : Instant
  updatedAt : Instant
  deriving DecidableEq, Repr

namespace FileRecord

/-- The bucket and the key of the object that the record stands for. -/
def address (record : FileRecord) : String × String :=
  (record.bucket, record.storageKey)

/-- Not soft-deleted. -/
def Live (record : FileRecord) : Prop :=
  record.deletedAt = none

instance (record : FileRecord) : Decidable record.Live :=
  inferInstanceAs (Decidable (_ = _))

def Expired (now : Instant) (record : FileRecord) : Prop :=
  match record.expiresAt with
  | some expiry => expiry ≤ now
  | none => False

instance (now : Instant) (record : FileRecord) : Decidable (record.Expired now) :=
  match record with
  | { expiresAt := some expiry, .. } => inferInstanceAs (Decidable (expiry ≤ now))
  | { expiresAt := none, .. } => inferInstanceAs (Decidable False)

/-- Live, under no lease, and expired. -/
def Claimable (now : Instant) (record : FileRecord) : Prop :=
  record.Live ∧ record.claimedAt = none ∧ record.Expired now

instance (now : Instant) (record : FileRecord) : Decidable (record.Claimable now) :=
  inferInstanceAs (Decidable (_ ∧ _ ∧ _))

def ClaimedBefore (cutoff : Instant) (record : FileRecord) : Prop :=
  match record.claimedAt with
  | some claim => claim < cutoff
  | none => False

instance (cutoff : Instant) (record : FileRecord) : Decidable (record.ClaimedBefore cutoff) :=
  match record with
  | { claimedAt := some claim, .. } => inferInstanceAs (Decidable (claim < cutoff))
  | { claimedAt := none, .. } => inferInstanceAs (Decidable False)

/-- Live and under a lease that began before the cutoff. -/
def Stale (cutoff : Instant) (record : FileRecord) : Prop :=
  record.Live ∧ record.ClaimedBefore cutoff

instance (cutoff : Instant) (record : FileRecord) : Decidable (record.Stale cutoff) :=
  inferInstanceAs (Decidable (_ ∧ _))

/-- Live and under a lease. -/
def Leased (record : FileRecord) : Prop :=
  record.Live ∧ record.claimedAt ≠ none

instance (record : FileRecord) : Decidable record.Leased :=
  inferInstanceAs (Decidable (_ ∧ _))

/-- Whether the lease is older than `age`; none if that depends on an instant outside the
calendar's range. -/
def hasStaleClaim? (record : FileRecord) (now : Instant) (age : Span) : Option Bool :=
  if record.Leased then (now.minus? age).map fun cutoff => decide (record.Stale cutoff)
  else some false

/-! The four changes that a record's life consists of. -/

def released (now : Instant) (record : FileRecord) : FileRecord :=
  { record with claimedAt := none, updatedAt := now }

def claimed (now : Instant) (record : FileRecord) : FileRecord :=
  { record with claimedAt := some now, updatedAt := now }

def withFailedAttempt (now : Instant) (record : FileRecord) : FileRecord :=
  { record with failedAttempts := record.failedAttempts + 1, updatedAt := now }

/-- A second deletion changes nothing. -/
def softDeleted (now : Instant) (record : FileRecord) : FileRecord :=
  if record.Live then
    { record with deletedAt := some now, claimedAt := none, updatedAt := now }
  else record

@[simp] theorem id_claimed (now : Instant) (record : FileRecord) :
    (record.claimed now).id = record.id := rfl

@[simp] theorem id_withFailedAttempt (now : Instant) (record : FileRecord) :
    (record.withFailedAttempt now).id = record.id := rfl

@[simp] theorem id_softDeleted (now : Instant) (record : FileRecord) :
    (record.softDeleted now).id = record.id := by
  unfold softDeleted
  split <;> rfl

/-- What follows the last slash of a key. -/
def nameOfKey (key : String) : String :=
  String.ofList (key.toList.reverse.takeWhile (· ≠ '/')).reverse

/-- A record of a file that expired `expiredFor` ago and was created one day earlier; none if
either lies outside the calendar's range. -/
def expired? (id tenant : Uuid) (bucket key : String) (expiredFor : Span) (now : Instant) :
    Option FileRecord := do
  let expiry ← now.minus? expiredFor
  let creation ← expiry.minus? (Span.ofDays 1)
  return {
    id, tenant, bucket
    storageKey := key
    originalFilename := nameOfKey key
    contentType := "application/octet-stream"
    fileSize := 1024
    expiresAt := some expiry
    deletedAt := none
    claimedAt := none
    failedAttempts := 0
    createdAt := creation
    updatedAt := now }

end FileRecord

end FileCleanup
