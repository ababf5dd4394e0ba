import FileCleanup.Proofs.Settings.Numbers

namespace FileCleanup

open Text

/-! Blanks around the values of variables: numbers and the kind of storage are
read in spite of them; the format of the log and the switch of the worker are
not, and go back to what they are by default. -/

theorem Text.toLower_of_isBlank {c : Char} (blank : isBlank c) : c.toLower = c := by
  unfold Char.toLower
  split
  · rename_i upper
    have least : 65 ≤ c.toNat := upper.1
    have greatest : c.toNat ≤ 90 := upper.2
    rw [isBlank_of_apart least greatest (by decide)] at blank
    cases blank
  · rfl

/-- A word without blanks is never found in a text with one. -/
theorem Text.matchesWord_of_blank {word text : String} {c : Char}
    (solid : word.toList.all (!isBlank ·))
    (member : c ∈ text.toList) (blank : isBlank c) : matchesWord word text = false := by
  rw [matchesWord, beq_eq_false_iff_ne]
  intro same
  have inside : c ∈ word.toList := by
    rw [← same, ← toLower_of_isBlank blank]
    exact List.mem_map_of_mem member
  have other := List.all_eq_true.mp solid c inside
  rw [blank] at other
  cases other

/-- Blanks to put before and after the values of variables. -/
structure Padding where
  before : String → List Char
  after : String → List Char
  leading : ∀ name, Blank (before name)
  closing : ∀ name, Blank (after name)

namespace Padding

variable (padding : Padding) {name : String}

def around (name text : String) : String :=
  String.ofList (padding.before name ++ text.toList ++ padding.after name)

def Touches (name : String) : Prop :=
  padding.before name ++ padding.after name ≠ []

instance : Decidable (padding.Touches name) :=
  inferInstanceAs (Decidable (_ ≠ _))

theorem trim_around (name text : String) :
    trim (padding.around name text).toList = trim text.toList := by
  rw [around, String.toList_ofList]
  exact trim_append _ (padding.leading name) (padding.closing name)

theorem around_of_not_touches (untouched : ¬padding.Touches name) (text : String) :
    padding.around name text = text := by
  obtain ⟨before, after⟩ := List.append_eq_nil_iff.mp (not_not.mp untouched)
  rw [around, before, after, List.nil_append, List.append_nil, String.ofList_toList]

theorem matchesWord_around {word : String}
    (solid : word.toList.all (!isBlank ·))
    (touched : padding.Touches name) (text : String) :
    matchesWord word (padding.around name text) = false := by
  obtain ⟨c, member⟩ := List.exists_mem_of_ne_nil _ touched
  rcases List.mem_append.mp member with first | last
  · exact matchesWord_of_blank solid
      (by simp [around, first]) (padding.leading name c first)
  · exact matchesWord_of_blank solid
      (by simp [around, last]) (padding.closing name c last)

end Padding

namespace Variables

/-- The variables that hold numbers or words. -/
def plain : List String :=
  ["STORAGE_BACKEND", "LOG_FORMAT", "DB_MAX_CONNECTIONS", "DB_TIMEOUT_SECONDS",
    "FILE_CLEANUP_ENABLED", "FILE_CLEANUP_INTERVAL_SECS", "FILE_CLEANUP_BATCH_SIZE",
    "FILE_CLEANUP_STALE_CLAIM_SECS"]

def padded (environment : Variables) (padding : Padding) : Variables := fun name =>
  if name ∈ plain then (environment name).map (padding.around name) else environment name

variable {environment : Variables} {padding : Padding} {name : String}

theorem padded_plain (member : name ∈ plain) :
    environment.padded padding name = (environment name).map (padding.around name) :=
  if_pos member

theorem integer?_padded (member : name ∈ plain) (range : IntegerRange) :
    (environment.padded padding).integer? range name = environment.integer? range name := by
  rw [integer?, integer?, padded_plain member]
  cases environment name with
  | none => rfl
  | some text =>
      rw [Option.map_some, Option.bind_some, Option.bind_some, padding.trim_around]

theorem natural_padded (member : name ∈ plain) (range : IntegerRange) (standard : Nat) :
    (environment.padded padding).natural range name standard =
      environment.natural range name standard := by
  rw [natural, natural, integer?_padded member]

end Variables

theorem StorageKind.ofText?_around (padding : Padding) (name text : String) :
    ofText? (padding.around name text) = ofText? text := by
  unfold ofText?
  rw [padding.trim_around]

theorem StorageKind.load_padded {environment : Variables} {kind : StorageKind}
    (loads : StorageKind.load environment = .ok kind) (padding : Padding) :
    StorageKind.load (environment.padded padding) = .ok kind := by
  unfold load at loads ⊢
  rw [Variables.padded_plain (by decide)]
  cases named : environment "STORAGE_BACKEND" with
  | none =>
      rw [named] at loads
      exact loads
  | some text =>
      rw [named] at loads
      rw [Option.map_some]
      dsimp only at loads ⊢
      rw [ofText?_around]
      cases read : ofText? text with
      | none =>
          rw [read] at loads
          cases loads
      | some other =>
          rw [read] at loads
          exact loads

namespace Settings

variable {environment : Variables} {settings : Settings}

theorem logFormat_padded (padding : Padding) (url : String) (kind : StorageKind) :
    (assembled (environment.padded padding) url kind).logFormat =
      if padding.Touches "LOG_FORMAT" then .text
      else (assembled environment url kind).logFormat := by
  unfold assembled
  dsimp only
  rw [Variables.padded_plain (by decide)]
  cases environment "LOG_FORMAT" with
  | none => exact (ite_self _).symm
  | some text =>
      rw [Option.map_some]
      dsimp only
      split
      · rename_i touched
        rw [LogFormat.ofText, padding.matchesWord_around (by decide) touched,
          if_neg Bool.false_ne_true]
      · rename_i untouched
        rw [padding.around_of_not_touches untouched]

theorem enabled_padded (padding : Padding) :
    (CleanupSettings.load (environment.padded padding)).enabled =
      if padding.Touches "FILE_CLEANUP_ENABLED" then true
      else (CleanupSettings.load environment).enabled := by
  unfold CleanupSettings.load
  dsimp only
  rw [Variables.padded_plain (by decide)]
  cases environment "FILE_CLEANUP_ENABLED" with
  | none => exact (ite_self _).symm
  | some text =>
      rw [Option.map_some]
      dsimp only
      split
      · rename_i touched
        rw [padding.matchesWord_around (by decide) touched, Bool.not_false]
      · rename_i untouched
        rw [padding.around_of_not_touches untouched]

/-- Where blanks are put, the settings are those of the plain texts, but that
the log is text and the worker is on once there are any at these two. -/
def padded (settings : Settings) (padding : Padding) : Settings :=
  { settings with
    logFormat := if padding.Touches "LOG_FORMAT" then .text else settings.logFormat
    cleanup.enabled :=
      if padding.Touches "FILE_CLEANUP_ENABLED" then true else settings.cleanup.enabled }

theorem assembled_padded (padding : Padding) (url : String) (kind : StorageKind) :
    assembled (environment.padded padding) url kind =
      (assembled environment url kind).padded padding := by
  have database : (assembled (environment.padded padding) url kind).database =
      (assembled environment url kind).database := by
    unfold assembled
    rw [Variables.natural_padded (by decide), Variables.natural_padded (by decide)]
  have cleanup : CleanupSettings.load (environment.padded padding) =
      { CleanupSettings.load environment with
        enabled := if padding.Touches "FILE_CLEANUP_ENABLED" then true
          else (CleanupSettings.load environment).enabled } := by
    rw [← enabled_padded]
    unfold CleanupSettings.load
    rw [Variables.natural_padded (by decide), Variables.natural_padded (by decide),
      Variables.integer?_padded (by decide)]
  unfold padded
  rw [← logFormat_padded, ← database]
  exact congrArg
    (fun cleanup => { assembled (environment.padded padding) url kind with cleanup }) cleanup

theorem padded_eq_self_iff (padding : Padding) :
    settings.padded padding = settings ↔
      (padding.Touches "LOG_FORMAT" → settings.logFormat = .text) ∧
        (padding.Touches "FILE_CLEANUP_ENABLED" → settings.cleanup.enabled = true) := by
  have parts : settings.padded padding = settings ↔
      (settings.padded padding).logFormat = settings.logFormat ∧
        (settings.padded padding).cleanup.enabled = settings.cleanup.enabled := by
    constructor
    · intro same
      exact ⟨congrArg logFormat same, congrArg (·.cleanup.enabled) same⟩
    · rintro ⟨format, enabled⟩
      unfold padded at format enabled ⊢
      dsimp only at format enabled
      rw [format, enabled]
  rw [parts]
  unfold padded
  dsimp only
  rw [ite_eq_right_iff, ite_eq_right_iff]
  simp only [eq_comm]

/-- Settings whose variables have blanks put around them are loaded too, and
are the same unless the blanks stand at a log format that is not text or at
the switch of a worker that is off. -/
theorem padding_absorbed (loads : load environment = .ok settings) (padding : Padding) :
    load (environment.padded padding) = .ok (settings.padded padding) ∧
      (settings.padded padding = settings ↔
        (padding.Touches "LOG_FORMAT" → settings.logFormat = .text) ∧
          (padding.Touches "FILE_CLEANUP_ENABLED" → settings.cleanup.enabled = true)) := by
  obtain ⟨url, kind, named, chosen, rfl⟩ := load_eq_ok_iff.mp loads
  refine ⟨load_eq_ok_iff.mpr ⟨url, kind, named, ?_, ?_⟩, padded_eq_self_iff padding⟩
  · exact StorageKind.load_padded chosen padding
  · exact (assembled_padded padding url kind).symm

/-- A worker that is off, and a log that is written as JSON. -/
def Sample.switchedOff : Variables
  | "DATABASE_URL" => some Sample.url
  | "STORAGE_BACKEND" => some "Local"
  | "LOG_FORMAT" => some "json"
  | "FILE_CLEANUP_ENABLED" => some "false"
  | "FILE_CLEANUP_BATCH_SIZE" => some "7"
  | _ => none

/-- Blanks of several kinds around every text but those of the given variables. -/
def Sample.blanksBut (spared : List String) : Padding where
  before name := if name ∈ spared then [] else ['\t', '\u3000']
  after name := if name ∈ spared then [] else [' ']
  leading name := by split <;> decide
  closing name := by split <;> decide

theorem padding_absorbed_sample :
    ∃ settings, load Sample.switchedOff = .ok settings ∧
      load (Sample.switchedOff.padded
        (Sample.blanksBut ["LOG_FORMAT", "FILE_CLEANUP_ENABLED"])) = .ok settings ∧
      settings.storage.kind = .directory ∧ settings.cleanup.batchSize = 7 ∧
      settings.cleanup.enabled = false := by
  have loads : load Sample.switchedOff = .ok _ := rfl
  have absorbed := padding_absorbed loads
    (Sample.blanksBut ["LOG_FORMAT", "FILE_CLEANUP_ENABLED"])
  have same := absorbed.2.mpr
    ⟨fun touched => absurd touched (by decide), fun touched => absurd touched (by decide)⟩
  exact ⟨_, loads, same ▸ absorbed.1, rfl, rfl, rfl⟩

/-- Blanks around the switch of a worker that is off turn it on, and blanks
around the format of a log in JSON make it text. -/
theorem padded_switch_ignored :
    ∃ settings changed, load Sample.switchedOff = .ok settings ∧
      load (Sample.switchedOff.padded (Sample.blanksBut [])) = .ok changed ∧
      settings.cleanup.enabled = false ∧ changed.cleanup.enabled = true ∧
      settings.logFormat = .json ∧ changed.logFormat = .text :=
  ⟨_, _, rfl, rfl, rfl, rfl, rfl, rfl⟩

end Settings

end FileCleanup
