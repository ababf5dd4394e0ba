import FileCleanup.Storage.Error
import FileCleanup.Text.Quoted
import FileCleanup.Text.Split

namespace FileCleanup

open Text

/-!
Addresses of objects: a bucket and a key inside it.  A bucket is one name; a key is a relative
path that never goes up.
-/

namespace Address

inductive Fault
  | emptyKey
  | straying (key : String)
  | bucketName (bucket : String)
  deriving DecidableEq, Repr

def Fault.reason : Fault → String
  | emptyKey => "Storage key is empty"
  | straying key => "Storage key contains invalid characters: " ++ key
  | bucketName bucket => "Invalid bucket name: " ++ quoted bucket

def Fault.error (fault : Fault) : StorageError :=
  .invalidKey fault.reason

def checkKey (key : String) : Except Fault Unit :=
  if key = "" then .error .emptyKey
  else if key.toList.head? = some '/' ∨ ".." ∈ split '/' key then .error (.straying key)
  else .ok ()

def checkBucket (bucket : String) : Except Fault Unit :=
  if bucket = "" ∨ '/' ∈ bucket.toList ∨ bucket = "." ∨ bucket = ".." then
    .error (.bucketName bucket)
  else .ok ()

def ValidKey (key : String) : Prop :=
  key ≠ "" ∧ key.toList.head? ≠ some '/' ∧ ".." ∉ split '/' key

def ValidBucket (bucket : String) : Prop :=
  bucket ≠ "" ∧ '/' ∉ bucket.toList ∧ bucket ≠ "." ∧ bucket ≠ ".."

instance (key : String) : Decidable (ValidKey key) :=
  inferInstanceAs (Decidable (_ ∧ _ ∧ _))

instance (bucket : String) : Decidable (ValidBucket bucket) :=
  inferInstanceAs (Decidable (_ ∧ _ ∧ _ ∧ _))

theorem checkKey_eq_ok_iff {key : String} : checkKey key = .ok () ↔ ValidKey key := by
  unfold checkKey ValidKey
  by_cases empty : key = ""
  · simp [empty]
  · by_cases strays : key.toList.head? = some '/' ∨ ".." ∈ split '/' key
    · simp only [if_neg empty, if_pos strays]
      constructor
      · intro impossible
        cases impossible
      · rintro ⟨_, head, segments⟩
        exact absurd strays (not_or.mpr ⟨head, segments⟩)
    · simp only [if_neg empty, if_neg strays, true_iff]
      exact ⟨empty, not_or.mp strays⟩

theorem checkBucket_eq_ok_iff {bucket : String} :
    checkBucket bucket = .ok () ↔ ValidBucket bucket := by
  unfold checkBucket ValidBucket
  split
  · rename_i bad
    constructor
    · intro impossible
      cases impossible
    · rintro ⟨empty, slash, dot, dots⟩
      simp_all
  · rename_i good
    simp only [not_or] at good
    simpa using good

end Address

end FileCleanup
