import FileCleanup.Proofs.Settings.Region
import FileCleanup.Proofs.Text.Numeral
import Mathlib.Logic.Function.Basic

namespace FileCleanup

open Text

/-! Settings that are numbers: which texts they take, and what they are when
the text is something else. -/

namespace Settings

/-- What is loaded once the database and the store of objects are known. -/
def assembled (environment : Variables) (url : String) (kind : StorageKind) :
    Settings where
  environment := ((environment "ENVIRONMENT").or (environment "APP_ENV")).getD "development"
  database := {
    url
    maxConnections := environment.natural .unsigned32 "DB_MAX_CONNECTIONS" 20
    timeoutSeconds := environment.natural .unsigned64 "DB_TIMEOUT_SECONDS" 30 }
  logFormat :=
    match environment "LOG_FORMAT" with
    | some text => .ofText text
    | none => .text
  storage := {
    kind
    s3Region := environment "S3_REGION"
    s3Endpoint := environment "S3_ENDPOINT"
    awsRegion := environment "AWS_REGION"
    localPath := environment "LOCAL_STORAGE_PATH" }
  cleanup := .load environment

theorem load_eq_ok_iff {environment : Variables} {settings : Settings} :
    load environment = .ok settings ↔
      ∃ url kind, environment "DATABASE_URL" = some url ∧
        StorageKind.load environment = .ok kind ∧
        settings = assembled environment url kind := by
  unfold load
  cases named : environment "DATABASE_URL" with
  | none =>
      constructor
      · rintro ⟨⟩
      · rintro ⟨_, _, ⟨⟩, _⟩
  | some url =>
      cases chosen : StorageKind.load environment with
      | error problem =>
          constructor
          · rintro ⟨⟩
          · rintro ⟨_, _, _, ⟨⟩, _⟩
      | ok kind =>
          constructor
          · rintro ⟨⟩
            exact ⟨url, kind, rfl, rfl, rfl⟩
          · rintro ⟨_, _, ⟨⟩, ⟨⟩, rfl⟩
            rfl

end Settings

namespace Variables

variable {environment : Variables} {range : IntegerRange} {name : String}

theorem integer?_eq_some_iff {number : Int} :
    environment.integer? range name = some number ↔
      ∃ text, environment name = some text ∧ Shows range text.toList number := by
  rw [integer?, Option.bind_eq_some_iff]
  simp only [read?_trim_eq_some_iff]

theorem natural_eq (positive : 0 ≤ range.least) (standard : Nat) :
    (environment.natural range name standard : Int) =
      (environment.integer? range name).getD standard := by
  unfold natural
  cases read : environment.integer? range name with
  | none => rfl
  | some number =>
      obtain ⟨_, _, _, _, _, _, _, _, _, holds⟩ := integer?_eq_some_iff.mp read
      exact Int.toNat_of_nonneg (positive.trans holds.1)

end Variables

/-- The settings that are numbers. -/
inductive NumericSetting
  | maxConnections
  | timeoutSeconds
  | intervalSeconds
  | batchSize
  | staleClaimSeconds
  deriving DecidableEq

namespace NumericSetting

def name : NumericSetting → String
  | maxConnections => "DB_MAX_CONNECTIONS"
  | timeoutSeconds => "DB_TIMEOUT_SECONDS"
  | intervalSeconds => "FILE_CLEANUP_INTERVAL_SECS"
  | batchSize => "FILE_CLEANUP_BATCH_SIZE"
  | staleClaimSeconds => "FILE_CLEANUP_STALE_CLAIM_SECS"

def range : NumericSetting → IntegerRange
  | maxConnections => .unsigned32
  | timeoutSeconds | intervalSeconds | staleClaimSeconds => .unsigned64
  | batchSize => .signed64

def standard : NumericSetting → Int
  | maxConnections => 20
  | timeoutSeconds => 30
  | intervalSeconds => 300
  | batchSize => 50
  | staleClaimSeconds => 300

def value (settings : Settings) : NumericSetting → Int
  | maxConnections => settings.database.maxConnections
  | timeoutSeconds => settings.database.timeoutSeconds
  | intervalSeconds => settings.cleanup.intervalSeconds
  | batchSize => settings.cleanup.batchSize
  | staleClaimSeconds => settings.cleanup.staleClaimSeconds

/-- Settings with another number in one place. -/
def put (number : Int) (settings : Settings) : NumericSetting → Settings
  | maxConnections => { settings with database.maxConnections := number.toNat }
  | timeoutSeconds => { settings with database.timeoutSeconds := number.toNat }
  | intervalSeconds => { settings with cleanup.intervalSeconds := number.toNat }
  | batchSize => { settings with cleanup.batchSize := number }
  | staleClaimSeconds => { settings with cleanup.staleClaimSeconds := number.toNat }

variable {environment : Variables} {settings : Settings}

theorem value_assembled (environment : Variables) (url : String) (kind : StorageKind)
    (setting : NumericSetting) :
    setting.value (.assembled environment url kind) =
      (environment.integer? setting.range setting.name).getD setting.standard := by
  cases setting with
  | batchSize => rfl
  | maxConnections | timeoutSeconds | intervalSeconds | staleClaimSeconds =>
      exact Variables.natural_eq (by decide) _

/-- A variable for a number has a say in that number only. -/
theorem assembled_update (environment : Variables) (url : String) (kind : StorageKind)
    (setting : NumericSetting) (text? : Option String) :
    let changed := Settings.assembled (Function.update environment setting.name text?) url kind
    changed = setting.put (setting.value changed) (.assembled environment url kind) := by
  cases setting <;> rfl

theorem load_update (loads : Settings.load environment = .ok settings)
    (setting : NumericSetting) (text? : Option String) :
    ∃ changed,
      Settings.load (Function.update environment setting.name text?) = .ok changed ∧
        changed = setting.put (setting.value changed) settings := by
  obtain ⟨url, kind, named, chosen, rfl⟩ := Settings.load_eq_ok_iff.mp loads
  refine ⟨_, Settings.load_eq_ok_iff.mpr ⟨url, kind, ?_, ?_, rfl⟩,
    assembled_update environment url kind setting text?⟩
  · cases setting <;> exact named
  · cases setting <;> exact chosen

/-- A setting is the numeral in its range that its variable has between
blanks; with any other text, or none, it is the standard one.  Whatever the
text, the rest is loaded as before. -/
theorem numeric_settings_exact (loads : Settings.load environment = .ok settings)
    (setting : NumericSetting) :
    (∀ text number, environment setting.name = some text →
      Shows setting.range text.toList number → setting.value settings = number) ∧
    ((∀ text number, environment setting.name = some text →
      ¬Shows setting.range text.toList number) →
      setting.value settings = setting.standard) ∧
    ∀ text? : Option String, ∃ changed,
      Settings.load (Function.update environment setting.name text?) = .ok changed ∧
        changed = setting.put (setting.value changed) settings := by
  refine ⟨?_, ?_, load_update loads setting⟩
  · intro text number named shows
    obtain ⟨url, kind, _, _, rfl⟩ := Settings.load_eq_ok_iff.mp loads
    have read := Variables.integer?_eq_some_iff.mpr ⟨text, named, shows⟩
    rw [value_assembled, read]
    rfl
  · intro silent
    obtain ⟨url, kind, _, _, rfl⟩ := Settings.load_eq_ok_iff.mp loads
    have unread : environment.integer? setting.range setting.name = none := by
      refine Option.eq_none_iff_forall_ne_some.mpr fun number read => ?_
      obtain ⟨text, named, shows⟩ := Variables.integer?_eq_some_iff.mp read
      exact silent text number named shows
    rw [value_assembled, unread]
    rfl

/-- A padded number with a sign and zeros, one that is too large by one, and a
negative one. -/
def Sample.numbers : Variables
  | "DATABASE_URL" => some Settings.Sample.url
  | "DB_MAX_CONNECTIONS" => some "\u3000+007\t"
  | "DB_TIMEOUT_SECONDS" => some "18446744073709551616"
  | "FILE_CLEANUP_BATCH_SIZE" => some "-9223372036854775808"
  | _ => none

theorem numeric_settings_exact_sample :
    ∃ settings, Settings.load Sample.numbers = .ok settings ∧
      settings.database.maxConnections = 7 ∧
      settings.database.timeoutSeconds = 30 ∧
      settings.cleanup.batchSize = -9223372036854775808 := by
  have loads : Settings.load Sample.numbers = .ok _ := rfl
  have connections := (numeric_settings_exact loads .maxConnections).1 _ 7 rfl
    (read?_trim_eq_some_iff.mp (by decide))
  have batch := (numeric_settings_exact loads .batchSize).1 _ (-9223372036854775808) rfl
    (read?_trim_eq_some_iff.mp (by decide))
  have timeout := (numeric_settings_exact loads .timeoutSeconds).2.1 (by
    rintro text number ⟨⟩ shows
    have unread : IntegerRange.unsigned64.read?
        (trim "18446744073709551616".toList) = none := by decide
    cases unread.symm.trans (read?_trim_eq_some_iff.mpr shows))
  exact ⟨_, loads, Int.ofNat.inj connections, Int.ofNat.inj timeout, batch⟩

end NumericSetting

end FileCleanup
