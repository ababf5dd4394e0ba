import FileCleanup.Database.Repository
import FileCleanup.Proofs.Batch.Protocol
import FileCleanup.Proofs.Batch.WorkedOff
import FileCleanup.Proofs.Store.ClaimOrder
import Mathlib.Data.List.Perm.Basic

namespace FileCleanup

open Time Simulation

/-! Backends that answer a batch as a record store and an object store in memory
would.  All of them lead it through the same calls. -/

variable {State : Type}

theorem FileRecord.DueBefore.expiresNoLater {left right : FileRecord}
    (before : left.DueBefore right) : left.expiresNoLater right := by
  obtain ⟨leftExpiry, rightExpiry, leftExpires, rightExpires, ordered⟩ := before
  simp only [FileRecord.expiresNoLater, leftExpires, rightExpires,
    decide_eq_true_eq]
  rcases ordered with earlier | ⟨rfl, _⟩
  · exact Int.le_of_lt earlier
  · exact Int.le_refl _

theorem Call.deletes_or_stored (call : Call) :
    (∃ bucket key, call = .deleteObject bucket key) ∨
      ∀ bucket key, call ≠ .deleteObject bucket key := by
  cases call with
  | deleteObject bucket key => exact .inl ⟨bucket, key, rfl⟩
  | _ => exact .inr (by simp)

/-- What is left of the objects after a call. -/
def MemoryStorage.afterCall (storage : MemoryStorage) : Call → MemoryStorage
  | .deleteObject bucket key => (storage.delete bucket key).2
  | _ => storage

theorem MemoryStorage.afterCall_of_ne (storage : MemoryStorage) {call : Call}
    (others : ∀ bucket key, call ≠ .deleteObject bucket key) :
    storage.afterCall call = storage := by
  unfold afterCall
  split
  · exact absurd rfl (others _ _)
  · rfl

theorem MemoryStorage.without_perm {left right : List FileRecord}
    (storage : MemoryStorage) (same : left.Perm right) :
    storage.without left = storage.without right := by
  unfold without
  simp only [(same.map FileRecord.address).mem_iff]

/-- Whether an answer is one that these stores could give at `now`.  Files that
expire together may be handed out in any order, and a release that the store
refuses may be answered in any way. -/
def Call.Fits (now : Instant) (store : RecordStore) (storage : MemoryStorage) :
    (call : Call) → call.Answer → Prop
  | .releaseStaleClaims age, answer => ∀ count after,
    store.releaseStaleClaims .none now age = .ok (count, after) →
      answer = .ok count
  | .claimExpired limit, answer => ∃ files, answer = .ok files ∧
    files.Perm ((store.candidates now limit).map (·.claimed now)) ∧
    files.Pairwise fun first second => first.expiresNoLater second
  | .deleteObject bucket key, answer => answer = (storage.delete bucket key).1
  | .recordFailedAttempt id, answer => (store.get? id).isSome → answer = .ok ()
  | .softDelete _, answer => answer = .ok ()

/-- Everything that a batch says to its stores, with their answers. -/
def batchExchanges (settings : CleanupSettings) (backend : Backend State)
    (state : State) : List Exchange :=
  (runBatch settings backend.recording (state, [])).2.2

theorem exists_talk (settings : CleanupSettings) (backend : Backend State)
    (state : State) :
    ∃ outcome after, runBatch settings backend state = (outcome, after) ∧
      Phase.Converses settings backend .releasing state
        (batchExchanges settings backend state) (.finished outcome) after := by
  obtain ⟨_, middle, releases⟩ :=
    Phase.converses_releasing settings backend state
  obtain ⟨_, _, outcome, after, claims, _⟩ :=
    Phase.converses_claiming settings backend middle
  have talk := releases.trans claims
  refine ⟨outcome, after, talk.run_eq, ?_⟩
  rw [batchExchanges, runBatch, talk.run_recording]
  exact talk

/-- What is said about a claimed file where only deletes can fail. -/
def FileRecord.handling (failingKeys : List String) (file : FileRecord) :
    Handling :=
  if file.storageKey ∈ failingKeys then
    .postponed file
      (.deleteFailed ("simulated failure for " ++ file.storageKey)) (.ok ())
  else .finalized file (.ok ())

/-- All that is said in a batch that claims `files`: the object of each is
deleted, and its record then soft-deleted or, where the delete fails, charged
with a failed attempt. -/
def handledExchanges (settings : CleanupSettings) (failingKeys : List String)
    (released : Except Report Nat) (files : List FileRecord) : List Exchange :=
  ⟨.releaseStaleClaims settings.staleClaimAge, released⟩ ::
    ⟨.claimExpired settings.batchSize, .ok files⟩ ::
      files.flatMap fun file => (file.handling failingKeys).exchanges

def handledResult (failingKeys : List String) (files : List FileRecord)
    (result : BatchResult) : BatchResult :=
  (files.map (·.handling failingKeys)).foldl Handling.counted result

instance : RightCommutative Handling.counted where
  right_comm result first second := by
    simp only [Handling.counted]
    split <;> split <;> rfl

theorem handledResult_perm {left right : List FileRecord}
    (failingKeys : List String) (same : left.Perm right)
    (result : BatchResult) :
    handledResult failingKeys left result =
      handledResult failingKeys right result :=
  (same.map _).foldl_eq result

namespace RecordStore

variable {store : RecordStore}

theorem isSome_get?_iff {id : Uuid} :
    (store.get? id).isSome ↔ ∃ record ∈ store.records, record.id = id := by
  simp [get?, List.find?_isSome]

/-- No call adds or removes a record. -/
theorem isSome_get?_afterCall (faults : StoreFaults) (now : Instant)
    (call : Call) (id : Uuid) :
    ((store.afterCall faults now call).get? id).isSome ↔
      (store.get? id).isSome := by
  have changes := store.changes_afterCall faults now call
  rw [isSome_get?_iff, isSome_get?_iff]
  constructor
  · rintro ⟨later, member, rfl⟩
    obtain ⟨record, stored, change⟩ := changes.exists_before member
    exact ⟨record, stored, change.sameFile.id.symm⟩
  · rintro ⟨record, member, rfl⟩
    obtain ⟨later, stored, change⟩ := changes.exists_after member
    exact ⟨later, stored, change.sameFile.id⟩

theorem pairwise_candidates (store : RecordStore) (now : Instant)
    (limit : Int) :
    (store.candidates now limit).Pairwise FileRecord.DueBefore := by
  obtain ⟨order, claims, takes⟩ := store.exists_claimOrder now
  rw [takes]
  exact claims.sorted.sublist (List.take_sublist ..)

end RecordStore

/-- A state of the backend that acts like two stores does so for the calls that
are to come: it answers the first of them as the stores would, and after that
acts like what this leaves of them. -/
structure Backend.StandsIn (backend : Backend State) (now : Instant)
    (acts : RecordStore → MemoryStorage → List Call → State → Prop) :
    Prop where
  tell : ∀ event {store storage calls state}, acts store storage calls state →
    acts store storage calls (backend.tell event state)
  fits : ∀ {call store storage calls state},
    acts store storage (call :: calls) state →
      call.Fits now store storage (backend.answer call state).1
  onward : ∀ {call store storage calls state},
    acts store storage (call :: calls) state →
      acts (store.afterCall .none now call) (storage.afterCall call) calls
        (backend.answer call state).2

namespace Backend.StandsIn

open Phase

variable {settings : CleanupSettings} {backend : Backend State} {now : Instant}
  {acts : RecordStore → MemoryStorage → List Call → State → Prop}
  {store : RecordStore} {storage : MemoryStorage} {calls : List Call}
  {state after : State} {exchanges : List Exchange}
  {outcome : Except CleanupError BatchResult}
  (standsIn : backend.StandsIn now acts)
include standsIn

theorem tellAll (events : List LogEvent)
    (alike : acts store storage calls state) :
    acts store storage calls (backend.tellAll events state) := by
  induction events generalizing state with
  | nil => exact alike
  | cons event events induction => exact induction (standsIn.tell event alike)

theorem exchange {phase : Phase} {request : Request}
    (asks : phase.due settings = .inr request)
    (talk : Converses settings backend phase state exchanges
      (.finished outcome) after)
    (alike : acts store storage (exchanges.map Exchange.call) state) :
    ∃ answer others middle,
      exchanges = ⟨request.call, answer⟩ :: others ∧
      request.call.Fits now store storage answer ∧
      Converses settings backend (request.resume answer).1 middle others
        (.finished outcome) after ∧
      acts (store.afterCall .none now request.call)
        (storage.afterCall request.call) (others.map Exchange.call) middle := by
  obtain ⟨others, rfl, rest⟩ := talk.exists_exchange asks
  have told := standsIn.tellAll request.announced alike
  exact ⟨_, others, _, rfl, standsIn.fits told, rest,
    standsIn.tellAll _ (standsIn.onward told)⟩

/-- A file is handled as the stores would have it, and no other is lost. -/
theorem deleting {file : FileRecord} {rest : List FileRecord}
    {result : BatchResult} (known : (store.get? file.id).isSome)
    (talk : Converses settings backend (.deleting file rest result) state
      exchanges (.finished outcome) after)
    (alike : acts store storage (exchanges.map Exchange.call) state) :
    ∃ others middle later,
      exchanges =
        (file.handling storage.failingKeys).exchanges ++ others ∧
      Converses settings backend
        (next (Handling.counted result (file.handling storage.failingKeys))
          rest)
        middle others (.finished outcome) after ∧
      acts later (storage.without [file]) (others.map Exchange.call) middle ∧
      ∀ id, (later.get? id).isSome ↔ (store.get? id).isSome := by
  obtain ⟨_, _, deleted, rfl, rfl, updates, alikeDeleted⟩ :=
    standsIn.exchange rfl talk alike
  simp only [MemoryStorage.afterCall, MemoryStorage.delete_address]
    at alikeDeleted
  -- Which update comes next depends on whether the delete fails.
  unfold FileRecord.handling
  by_cases failing : file.storageKey ∈ storage.failingKeys
  · simp only [MemoryStorage.delete, if_pos failing] at updates
    obtain ⟨answer, others, middle, rfl, fits, onward, alikeAfter⟩ :=
      standsIn.exchange rfl updates alikeDeleted
    cases fits known
    rw [if_pos failing]
    refine ⟨others, middle, _, ?_, onward, alikeAfter, ?_⟩
    · simp [Handling.exchanges, MemoryStorage.delete, failing]
    · exact store.isSome_get?_afterCall _ _ _
  · simp only [MemoryStorage.delete, if_neg failing] at updates
    obtain ⟨answer, others, middle, rfl, rfl, onward, alikeAfter⟩ :=
      standsIn.exchange rfl updates alikeDeleted
    rw [if_neg failing]
    refine ⟨others, middle, _, ?_, onward, alikeAfter, ?_⟩
    · simp [Handling.exchanges, MemoryStorage.delete, failing]
    · exact store.isSome_get?_afterCall _ _ _

theorem handles_next {files : List FileRecord} {result : BatchResult}
    (known : ∀ file ∈ files, (store.get? file.id).isSome)
    (talk : Converses settings backend (next result files) state exchanges
      (.finished outcome) after)
    (alike : acts store storage (exchanges.map Exchange.call) state) :
    exchanges = files.flatMap
        (fun file => (file.handling storage.failingKeys).exchanges) ∧
      outcome = .ok (handledResult storage.failingKeys files result) ∧
      ∃ later, acts later (storage.without files) [] after := by
  induction files generalizing store storage state exchanges result with
  | nil =>
      cases talk with
      | silence =>
          have same : storage.without [] = storage := by
            simp [MemoryStorage.without]
          rw [same]
          exact ⟨rfl, rfl, store, alike⟩
      | exchange asks => cases asks
  | cons file rest induction =>
      obtain ⟨others, middle, later, rfl, onward, alikeAfter, stays⟩ :=
        standsIn.deleting (known file List.mem_cons_self) talk alike
      -- The records of the other files are still there.
      obtain ⟨rfl, rfl, last, ends⟩ := induction
        (fun other member =>
          (stays other.id).mpr (known other (List.mem_cons_of_mem _ member)))
        onward alikeAfter
      rw [MemoryStorage.without_cons] at ends
      exact ⟨rfl, rfl, last, ends⟩

/-- A batch goes as it would with the stores, but for the order of files that
expire together. -/
theorem runBatch_eq (settings : CleanupSettings)
    (alike : acts store storage
      ((batchExchanges settings backend state).map Exchange.call) state) :
    ∃ released files after later,
      (∀ count middle, store.releaseStaleClaims .none now
          settings.staleClaimAge = .ok (count, middle) →
        released = .ok count) ∧
      files.Perm (((store.afterCall .none now
        (.releaseStaleClaims settings.staleClaimAge)).candidates now
          settings.batchSize).map (·.claimed now)) ∧
      files.Pairwise (fun first second => first.expiresNoLater second) ∧
      batchExchanges settings backend state =
        handledExchanges settings storage.failingKeys released files ∧
      runBatch settings backend state =
        (.ok (handledResult storage.failingKeys files .none), after) ∧
      acts later (storage.without files) [] after := by
  obtain ⟨outcome, after, runs, talk⟩ :=
    exists_talk settings backend state
  rw [runs]
  obtain ⟨released, claims, middle, said, counts, goesOn, alikeReleased⟩ :=
    standsIn.exchange rfl talk alike
  -- The batch claims whatever the release is answered.
  have claiming : Converses settings backend .claiming middle claims
      (.finished outcome) after := by
    cases released <;> exact goesOn
  obtain ⟨_, others, claimed, rfl, ⟨files, rfl, chosen, ordered⟩, works,
    alikeClaimed⟩ := standsIn.exchange rfl claiming alikeReleased
  have known : ∀ file ∈ files,
      (((store.afterCall .none now
        (.releaseStaleClaims settings.staleClaimAge)).afterCall .none now
          (.claimExpired settings.batchSize)).get? file.id).isSome := by
    intro file member
    obtain ⟨record, candidate, rfl⟩ :=
      List.mem_map.mp (chosen.mem_iff.mp member)
    rw [RecordStore.isSome_get?_afterCall]
    exact RecordStore.isSome_get?_iff.mpr
      ⟨record, (RecordStore.mem_candidates candidate).1, rfl⟩
  obtain ⟨rfl, rfl, later, ends⟩ :=
    standsIn.handles_next known works alikeClaimed
  exact ⟨released, files, after, later, counts, chosen, ordered, said, rfl,
    ends⟩

end Backend.StandsIn

namespace Simulation.World

/-- A world with these stores, where nothing fails but deletes. -/
structure Acts (now : Instant) (store : RecordStore) (storage : MemoryStorage)
    (world : World) : Prop where
  store : world.store = store
  faults : world.faults = .none
  objects : world.objects = .memory storage
  undelayed : storage.delay = 0
  now : world.now = now

theorem standsIn (now : Instant) :
    backend.StandsIn now fun store storage _ => Acts now store storage where
  tell _ _ _ _ _ acts :=
    ⟨acts.store, acts.faults, acts.objects, acts.undelayed, acts.now⟩
  fits {call store storage calls world} acts := by
    obtain ⟨rfl, sound, objects, _, rfl⟩ := acts
    cases call with
    | releaseStaleClaims age =>
        intro count after releases
        simp [backend, answer, releaseStaleClaims, sound, releases,
          storeAnswer, reported, Except.mapError]
    | claimExpired limit =>
        refine ⟨_, ?_, .refl _, ?_⟩
        · exact (answer_claimExpired limit world).trans (by rw [sound]; rfl)
        · exact List.pairwise_map.mpr
            ((world.store.pairwise_candidates world.now limit).imp
              FileRecord.DueBefore.expiresNoLater)
    | deleteObject bucket key =>
        exact congrArg Prod.fst (deleteObject_delayed objects bucket key)
    | recordFailedAttempt id =>
        intro known
        have found : (world.store.get? id).isNone = false := by simpa using known
        simp [backend, answer, recordFailedAttempt, sound,
          RecordStore.recordFailedAttempt, StoreFaults.none, storeAnswer,
          reported, found, Except.map, Except.mapError]
    | softDelete id =>
        simp [Call.Fits, backend, answer, softDelete, sound,
          RecordStore.softDelete, StoreFaults.none, storeAnswer, reported,
          Except.map, Except.mapError]
  onward {call store storage calls world} acts := by
    obtain ⟨rfl, sound, objects, undelayed, rfl⟩ := acts
    have stored := store_answer call world
    rw [sound] at stored
    obtain ⟨bucket, key, rfl⟩ | others := call.deletes_or_stored
    · have delayless := (storage.delay_delete bucket key).trans undelayed
      have deleted := deleteObject_delayed objects bucket key
      rw [undelayed, Nat.add_zero] at deleted
      change Acts _ _ _ (world.deleteObject bucket key).2
      rw [deleted]
      exact ⟨rfl, sound, rfl, delayless, rfl⟩
    · have beside := beside_answer world others
      rw [storage.afterCall_of_ne others]
      exact ⟨stored, beside.faults.trans sound, beside.objects.trans objects,
        undelayed, beside.now⟩

end Simulation.World

end FileCleanup
