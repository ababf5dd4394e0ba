import FileCleanup.Settings.Load
import FileCleanup.Storage.Create

namespace FileCleanup

/-! What becomes of settings for S3 that are accepted, by the region that they
name: a region that is set is enough for the settings, and one that is not
blank is needed for the store. -/

namespace Settings

/-- What the variables say about the store of objects is taken as it is. -/
theorem storage_of_load {environment : Variables} {settings : Settings}
    (loads : Settings.load environment = .ok settings) :
    settings.storage = {
      kind := settings.storage.kind
      s3Region := environment "S3_REGION"
      s3Endpoint := environment "S3_ENDPOINT"
      awsRegion := environment "AWS_REGION"
      localPath := environment "LOCAL_STORAGE_PATH" } := by
  unfold Settings.load at loads
  cases url : environment "DATABASE_URL" with
  | none =>
      rw [url] at loads
      cases loads
  | some url' =>
      rw [url] at loads
      cases kind : StorageKind.load environment with
      | error problem =>
          rw [kind] at loads
          cases loads
      | ok kind =>
          rw [kind] at loads
          cases loads
          rfl

theorem storage_of_validate {settings : Settings}
    (accepted : settings.validate = .ok ()) :
    settings.storage.validate = .ok () := by
  unfold validate at accepted
  cases database : settings.database.validate with
  | error problem =>
      rw [database] at accepted
      cases accepted
  | ok =>
      rw [database] at accepted
      cases storage : settings.storage.validate with
      | error problem =>
          rw [storage] at accepted
          cases accepted
      | ok => rfl

end Settings

theorem StorageSettings.region_of_validate {settings : StorageSettings}
    (kind : settings.kind = .s3) (accepted : settings.validate = .ok ()) :
    ∃ region, settings.s3Region.or settings.awsRegion = some region := by
  rw [validate, kind] at accepted
  cases own : settings.s3Region with
  | some region => exact ⟨region, rfl⟩
  | none =>
      cases shared : settings.awsRegion with
      | some region => exact ⟨region, rfl⟩
      | none =>
          simp only [own, shared] at accepted
          cases accepted

theorem OpenStorage.openS3_eq (region : String) (endpoint : Option String) :
    openS3 region endpoint =
      if Text.isAllBlank region then
        .error (.configuration "S3 region is empty")
      else .ok (.s3 region endpoint) := by
  unfold openS3 Buckets.checkRegion
  split <;> rfl

/-- Accepted settings for S3 name a region, and open a store with it unless it
is blank.  A region of S3's own hides the shared one even then. -/
theorem opens_unless_blank {environment : Variables} {settings : Settings}
    (loads : Settings.load environment = .ok settings)
    (kind : settings.storage.kind = .s3)
    (accepted : settings.validate = .ok ()) (tree : FileTree) (here : Place) :
    ∃ region,
      (environment "S3_REGION").or (environment "AWS_REGION") = some region ∧
      OpenStorage.create settings.storage tree here =
        if Text.isAllBlank region then
          .error (.configuration "S3 region is empty")
        else .ok (.s3 region (environment "S3_ENDPOINT")) := by
  obtain ⟨region, named⟩ :=
    StorageSettings.region_of_validate kind (Settings.storage_of_validate accepted)
  have read := Settings.storage_of_load loads
  have endpoint : settings.storage.s3Endpoint = environment "S3_ENDPOINT" := by
    rw [read]
  have regions : settings.storage.s3Region.or settings.storage.awsRegion =
      (environment "S3_REGION").or (environment "AWS_REGION") := by
    rw [read]
  refine ⟨region, regions.symm.trans named, ?_⟩
  rw [← endpoint, ← OpenStorage.openS3_eq, OpenStorage.create, kind]
  simp only [named]

namespace Settings.Sample

def url : String := "postgres://localhost/backoffice"

def sharedRegion : Variables
  | "DATABASE_URL" => some url
  | "AWS_REGION" => some "eu-west-1"
  | _ => none

/-- A blank region before a good one. -/
def blankRegion : Variables
  | "S3_REGION" => some " "
  | name => sharedRegion name

end Settings.Sample

theorem opens_unless_blank_sample :
    ∃ settings, Settings.load Settings.Sample.sharedRegion = .ok settings ∧
      ∀ (tree : FileTree) (here : Place),
        OpenStorage.create settings.storage tree here =
          .ok (.s3 "eu-west-1" none) := by
  have loads : Settings.load Settings.Sample.sharedRegion = .ok _ := rfl
  refine ⟨_, loads, fun tree here => ?_⟩
  obtain ⟨region, named, opens⟩ :=
    opens_unless_blank loads rfl rfl tree here
  cases named
  exact opens

/-- Settings whose region is blank are accepted, and open no store. -/
theorem blank_region_accepted :
    ∃ settings, Settings.load Settings.Sample.blankRegion = .ok settings ∧
      settings.storage.kind = .s3 ∧ settings.validate = .ok () ∧
      ∀ (tree : FileTree) (here : Place),
        OpenStorage.create settings.storage tree here =
          .error (.configuration "S3 region is empty") :=
  ⟨_, rfl, rfl, rfl, fun _ _ => rfl⟩

end FileCleanup
