import FileCleanup.Storage.Kind
import FileCleanup.Time.Span

namespace FileCleanup

/-! What a service process is told by its environment. -/

inductive LogFormat
  | text
  | json
  deriving DecidableEq, Repr

structure DatabaseSettings where
  url : String
  maxConnections : Nat
  timeoutSeconds : Nat
  deriving DecidableEq, Repr

structure StorageSettings where
  kind : StorageKind
  s3Region : Option String
  /-- The address of a service that speaks the S3 protocol elsewhere. -/
  s3Endpoint : Option String
  awsRegion : Option String
  localPath : Option String
  deriving DecidableEq, Repr

structure CleanupSettings where
  enabled : Bool
  /-- Seconds between two scheduled batches. -/
  intervalSeconds : Nat
  /-- The most files that one batch claims. -/
  batchSize : Int
  /-- Seconds after which an unfinished claim is released. -/
  staleClaimSeconds : Nat
  deriving DecidableEq, Repr

structure Settings where
  environment : String
  database : DatabaseSettings
  logFormat : LogFormat
  storage : StorageSettings
  cleanup : CleanupSettings
  deriving DecidableEq, Repr

inductive SettingsProblem
  | databaseUrlMissing
  | unknownStorage (text : String)
  | databaseUrlInvalid
  | regionMissing
  | localPathMissing
  | notPositive (name : String)
  | tooLarge (name : String) (greatest : Nat)
  deriving DecidableEq, Repr

def SettingsProblem.message : SettingsProblem → String
  | databaseUrlMissing => "DATABASE_URL must be set"
  | unknownStorage text => "Invalid storage backend: " ++ text
  | databaseUrlInvalid => "DATABASE_URL must be a valid PostgreSQL connection string"
  | regionMissing => "STORAGE_BACKEND=s3 requires S3_REGION or AWS_REGION to be set"
  | localPathMissing => "STORAGE_BACKEND=local requires LOCAL_STORAGE_PATH to be set"
  | notPositive name => name ++ " must be greater than 0"
  | tooLarge name greatest => name ++ " must be at most " ++ toString greatest

namespace CleanupSettings

def standard : CleanupSettings := ⟨true, 300, 50, 300⟩

/-- One day. -/
def greatestInterval : Nat := 86400

/-- One week. -/
def greatestStaleClaim : Nat := 604800

def interval (settings : CleanupSettings) : Time.Span :=
  .ofSeconds settings.intervalSeconds

def staleClaimAge (settings : CleanupSettings) : Time.Span :=
  .ofSeconds settings.staleClaimSeconds

def validate (settings : CleanupSettings) : Except SettingsProblem Unit := do
  if settings.intervalSeconds = 0 then
    throw (.notPositive "FILE_CLEANUP_INTERVAL_SECS")
  if settings.batchSize ≤ 0 then
    throw (.notPositive "FILE_CLEANUP_BATCH_SIZE")
  if settings.staleClaimSeconds = 0 then
    throw (.notPositive "FILE_CLEANUP_STALE_CLAIM_SECS")
  if greatestInterval < settings.intervalSeconds then
    throw (.tooLarge "FILE_CLEANUP_INTERVAL_SECS" greatestInterval)
  if greatestStaleClaim < settings.staleClaimSeconds then
    throw (.tooLarge "FILE_CLEANUP_STALE_CLAIM_SECS" greatestStaleClaim)

/-- The settings that a service accepts. -/
def Valid (settings : CleanupSettings) : Prop :=
  0 < settings.intervalSeconds ∧ settings.intervalSeconds ≤ greatestInterval ∧
    0 < settings.batchSize ∧
    0 < settings.staleClaimSeconds ∧ settings.staleClaimSeconds ≤ greatestStaleClaim

instance (settings : CleanupSettings) : Decidable settings.Valid :=
  inferInstanceAs (Decidable (_ ∧ _ ∧ _ ∧ _ ∧ _))

theorem validate_eq_ok_iff {settings : CleanupSettings} :
    settings.validate = .ok () ↔ settings.Valid := by
  constructor
  · intro accepted
    simp only [validate] at accepted
    split at accepted
    · cases accepted
    split at accepted
    · cases accepted
    split at accepted
    · cases accepted
    split at accepted
    · cases accepted
    split at accepted
    · cases accepted
    exact ⟨by omega, by omega, by omega, by omega, by omega⟩
  · rintro ⟨interval, intervalBound, batch, stale, staleBound⟩
    simp [validate, show settings.intervalSeconds ≠ 0 by omega,
      show ¬settings.batchSize ≤ 0 by omega,
      show settings.staleClaimSeconds ≠ 0 by omega,
      Nat.not_lt.mpr intervalBound, Nat.not_lt.mpr staleBound]
    rfl

theorem inRange_staleClaimAge {settings : CleanupSettings}
    (accepted : settings.validate = .ok ()) :
    settings.staleClaimAge.InRange := by
  obtain ⟨_, _, _, _, bounded⟩ := validate_eq_ok_iff.mp accepted
  simp only [greatestStaleClaim] at bounded
  simp only [Time.Span.InRange, staleClaimAge, Time.Span.ofSeconds, Time.Span.longest,
    Time.Span.ofMillis]
  omega

end CleanupSettings

namespace StorageSettings

def validate (settings : StorageSettings) : Except SettingsProblem Unit :=
  match settings.kind with
  | .s3 =>
    if settings.s3Region.isNone ∧ settings.awsRegion.isNone then throw .regionMissing
    else return ()
  | .directory => if settings.localPath.isNone then throw .localPathMissing else return ()

end StorageSettings

def DatabaseSettings.validate (settings : DatabaseSettings) : Except SettingsProblem Unit :=
  if "postgres://".toList.isPrefixOf settings.url.toList ∨
      "postgresql://".toList.isPrefixOf settings.url.toList then return ()
  else throw .databaseUrlInvalid

namespace Settings

def validate (settings : Settings) : Except SettingsProblem Unit := do
  settings.database.validate
  settings.storage.validate
  settings.cleanup.validate

def isProduction (settings : Settings) : Bool :=
  Text.matchesWord "production" settings.environment || Text.matchesWord "prod" settings.environment

end Settings

end FileCleanup
