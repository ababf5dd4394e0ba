import FileCleanup.Settings
import FileCleanup.Text.Numeral

namespace FileCleanup

open Text

/-! Reading settings from variables.  A number that cannot be read counts as absent. -/

/-- The values of variables by name. -/
abbrev Variables := String → Option String

namespace Variables

/-- A number between blanks, if it is written in full and lies in the range. -/
def integer? (environment : Variables) (range : IntegerRange) (name : String) : Option Int :=
  (environment name).bind fun value => range.read? (trim value.toList)

def natural (environment : Variables) (range : IntegerRange) (name : String) (standard : Nat) :
    Nat :=
  match environment.integer? range name with
  | some value => value.toNat
  | none => standard

end Variables

def LogFormat.ofText (text : String) : LogFormat :=
  if matchesWord "json" text then .json else .text

def CleanupSettings.load (environment : Variables) : CleanupSettings where
  enabled :=
    match environment "FILE_CLEANUP_ENABLED" with
    | some value => !matchesWord "false" value
    | none => standard.enabled
  intervalSeconds :=
    environment.natural .unsigned64 "FILE_CLEANUP_INTERVAL_SECS" standard.intervalSeconds
  batchSize :=
    (environment.integer? .signed64 "FILE_CLEANUP_BATCH_SIZE").getD standard.batchSize
  staleClaimSeconds :=
    environment.natural .unsigned64 "FILE_CLEANUP_STALE_CLAIM_SECS" standard.staleClaimSeconds

def StorageKind.load (environment : Variables) : Except SettingsProblem StorageKind :=
  match environment "STORAGE_BACKEND" with
  | none => .ok .s3
  | some text =>
    match ofText? text with
    | some kind => .ok kind
    | none => .error (.unknownStorage text)

def Settings.load (environment : Variables) : Except SettingsProblem Settings := do
  let url ← match environment "DATABASE_URL" with
    | some url => pure url
    | none => throw .databaseUrlMissing
  let kind ← StorageKind.load environment
  return {
    environment :=
      ((environment "ENVIRONMENT").or (environment "APP_ENV")).getD "development"
    database := {
      url
      maxConnections := environment.natural .unsigned32 "DB_MAX_CONNECTIONS" 20
      timeoutSeconds := environment.natural .unsigned64 "DB_TIMEOUT_SECONDS" 30 }
    logFormat :=
      match environment "LOG_FORMAT" with
      | some text => .ofText text
      | none => .text
    storage := {
      kind
      s3Region := environment "S3_REGION"
      s3Endpoint := environment "S3_ENDPOINT"
      awsRegion := environment "AWS_REGION"
      localPath := environment "LOCAL_STORAGE_PATH" }
    cleanup := .load environment }

end FileCleanup
