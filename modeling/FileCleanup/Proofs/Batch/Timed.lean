import FileCleanup.Proofs.Batch.Protocol
import FileCleanup.Proofs.Store.Claims

namespace FileCleanup

open Time Simulation

/-! Batches with the instants of their calls, as far as their claims and
beyond. -/

namespace Simulation.World

/-- Writes down every call with its instant and its answer. -/
def timed : Backend (World × List (Instant × Exchange)) where
  answer call state :=
    let (answer, after) := World.answer call state.1
    (answer, after, state.2 ++ [(state.1.now, ⟨call, answer⟩)])
  tell event state := (state.1.tell event, state.2)

theorem extends_timed : timed.Extends backend :=
  ⟨fun _ _ _ => ⟨_, rfl⟩, fun _ _ _ => rfl⟩

theorem perform_timed (request : Phase.Request) (world : World)
    (log : List (Instant × Exchange)) :
    request.perform timed (world, log) =
      ((request.perform backend world).1, (request.perform backend world).2,
        log ++ [(world.now,
          ⟨request.call, request.answered backend world⟩)]) := by
  have told := (beside_tellAll request.announced world).now
  simp only [Phase.Request.perform, extends_timed.tellAll]
  rw [← told]
  rfl

/-- A batch comes from one phase to another, and on the way it says `said`. -/
def Comes (settings : CleanupSettings) (phase : Phase) (world : World)
    (said : List (Instant × Exchange)) (next : Phase) (after : World) : Prop :=
  ∀ log, Phase.run settings timed phase (world, log) =
    Phase.run settings timed next (after, log ++ said)

section Comes

variable (settings : CleanupSettings) {world : World}

theorem Comes.trans {settings : CleanupSettings} {first second third : Phase}
    {start middle after : World} {earlier later : List (Instant × Exchange)}
    (left : Comes settings first start earlier second middle)
    (right : Comes settings second middle later third after) :
    Comes settings first start (earlier ++ later) third after := by
  intro log
  rw [left, right, List.append_assoc]

theorem comes_refl (phase : Phase) (world : World) :
    Comes settings phase world [] phase world := by
  intro log
  rw [List.append_nil]

theorem comes_request {phase : Phase} {request : Phase.Request}
    (asks : phase.due settings = .inr request) (world : World) :
    Comes settings phase world
      [(world.now, ⟨request.call, request.answered backend world⟩)]
      (request.perform backend world).1 (request.perform backend world).2 := by
  intro log
  rw [Phase.run_of_request asks, perform_timed]

theorem comes_of_converses {phase last : Phase} {after : World}
    {exchanges : List Exchange}
    (talk : Phase.Converses settings backend phase world exchanges last
      after) :
    ∃ said, said.map Prod.snd = exchanges ∧
      Comes settings phase world said last after := by
  induction talk with
  | silence phase world => exact ⟨[], rfl, comes_refl settings phase world⟩
  | exchange asks _ induction =>
      obtain ⟨said, same, comes⟩ := induction
      refine ⟨_ :: said, ?_, (comes_request settings asks _).trans comes⟩
      rw [List.map_cons, same]

theorem comes_stored (phase : Phase) {request : Phase.Request}
    (asks : phase.due settings = .inr request)
    (stored : ∀ bucket key, request.call ≠ .deleteObject bucket key)
    (world : World) :
    ∃ after,
      Comes settings phase world
        [(world.now, ⟨request.call, request.answered backend world⟩)]
        (request.resume (request.answered backend world)).1 after ∧
      Beside world after ∧
      after.store =
        world.store.afterCall world.faults world.now request.call :=
  ⟨_, comes_request settings asks world, beside_perform request world stored,
    store_perform request world⟩

theorem comes_releasing (world : World) :
    ∃ answer released,
      Comes settings .releasing world
        [(world.now, ⟨.releaseStaleClaims settings.staleClaimAge, answer⟩)]
        .claiming released ∧
      Beside world released ∧
      released.store = world.store.afterCall world.faults world.now
        (.releaseStaleClaims settings.staleClaimAge) := by
  obtain ⟨released, comes, beside, store⟩ :=
    comes_stored settings .releasing rfl (by simp) world
  generalize Phase.Request.answered _ backend world = answer at comes
  cases answer with
  | ok count => exact ⟨.ok count, released, comes, beside, store⟩
  | error cause => exact ⟨.error cause, released, comes, beside, store⟩

/-- What the claim of a batch is answered. -/
def claimed (settings : CleanupSettings) (world : World) :
    Except Report (List FileRecord) :=
  (answer (.claimExpired settings.batchSize)
    (answer (.releaseStaleClaims settings.staleClaimAge) world).2).1

/-- The records after the release that a batch begins with. -/
def releasedStore (settings : CleanupSettings) (world : World) : RecordStore :=
  world.store.afterCall world.faults world.now
    (.releaseStaleClaims settings.staleClaimAge)

theorem answer_claim_of_released {released : World}
    (beside : Beside world released)
    (store : released.store = world.releasedStore settings) :
    (answer (.claimExpired settings.batchSize) released).1 =
      if world.faults.claim then
        .error (.ofMessage StoreProblem.claimFailed.message)
      else
        .ok (((world.releasedStore settings).candidates world.now
          settings.batchSize).map (·.claimed world.now)) := by
  rw [answer_claimExpired, beside.faults, beside.now, store]

theorem claimed_eq (world : World) :
    world.claimed settings =
      if world.faults.claim then
        .error (.ofMessage StoreProblem.claimFailed.message)
      else
        .ok (((world.releasedStore settings).candidates world.now
          settings.batchSize).map (·.claimed world.now)) :=
  answer_claim_of_released settings (beside_answer world (by simp))
    (store_answer _ world)

/-- No lease is stale. -/
def Fresh (settings : CleanupSettings) (world : World) : Prop :=
  ∀ record ∈ world.store.records,
    record.hasStaleClaim? world.now settings.staleClaimAge ≠ some true

/-- Where nothing is there to release, a batch claims from the front of what can
be claimed. -/
theorem claimed_of_fresh {order : List FileRecord}
    (sound : world.faults.claim = false) (fresh : Fresh settings world)
    (claims : ClaimOrder world.now world.store.records order) :
    world.claimed settings =
      .ok ((order.take settings.batchSize.toNat).map
        (·.claimed world.now)) := by
  have released : world.releasedStore settings = world.store :=
    RecordStore.afterCall_release_fresh fresh
  rw [claimed_eq, sound, released, claims.candidates]
  rfl

/-- A batch comes to the files that it has claimed. -/
theorem comes_claimed {files : List FileRecord}
    (claims : world.claimed settings = .ok files) :
    ∃ released after,
      Comes settings .releasing world
        [(world.now, ⟨.releaseStaleClaims settings.staleClaimAge, released⟩),
          (world.now, ⟨.claimExpired settings.batchSize, .ok files⟩)]
        (Phase.next .none files) after ∧
      Beside world after ∧
      after.store = (world.releasedStore settings).afterCall world.faults
        world.now (.claimExpired settings.batchSize) := by
  obtain ⟨released, middle, releases, besideRelease, storeRelease⟩ :=
    comes_releasing settings world
  have answers := answer_claim_of_released settings besideRelease storeRelease
  rw [← claimed_eq, claims] at answers
  obtain ⟨after, claiming, beside, store⟩ :=
    comes_stored settings .claiming rfl (by simp) middle
  generalize said : Phase.Request.answered _ backend middle = answer at claiming
  cases said.symm.trans answers
  rw [besideRelease.now] at claiming
  refine ⟨released, after, releases.trans claiming,
    besideRelease.trans beside, ?_⟩
  rw [store, storeRelease, besideRelease.faults, besideRelease.now]
  rfl

theorem eq_of_claimed {files : List FileRecord}
    (claims : world.claimed settings = .ok files) {left right : FileRecord}
    (leftMember : left ∈ files) (rightMember : right ∈ files)
    (same : left.id = right.id) : left = right := by
  rw [claimed_eq] at claims
  split at claims
  · cases claims
  · cases claims
    obtain ⟨one, oneMember, rfl⟩ := List.mem_map.mp leftMember
    obtain ⟨other, otherMember, rfl⟩ := List.mem_map.mp rightMember
    rw [RecordStore.eq_of_mem_of_id_eq
      (RecordStore.mem_candidates oneMember).1
      (RecordStore.mem_candidates otherMember).1 same]

end Comes

/-- A batch claims `files`, and `said` is all that it says after that. -/
def Claims (settings : CleanupSettings) (world : World)
    (files : List FileRecord) (said : List (Instant × Exchange))
    (after : World) : Prop :=
  ∃ released outcome, runBatch settings backend world = (outcome, after) ∧
    runBatch settings timed (world, []) = (outcome, after,
      (world.now, ⟨.releaseStaleClaims settings.staleClaimAge, released⟩) ::
        (world.now, ⟨.claimExpired settings.batchSize, .ok files⟩) :: said)

theorem Comes.runs {settings : CleanupSettings} {world after : World}
    {said : List (Instant × Exchange)}
    {outcome : Except CleanupError BatchResult}
    (comes : Comes settings .releasing world said (.finished outcome) after) :
    runBatch settings backend world = (outcome, after) := by
  have runs := comes []
  rw [Phase.run_finished] at runs
  exact Phase.run_of_extends extends_timed runs

theorem Comes.claims {settings : CleanupSettings} {world after : World}
    {released : (Call.releaseStaleClaims settings.staleClaimAge).Answer}
    {files : List FileRecord} {said : List (Instant × Exchange)}
    {outcome : Except CleanupError BatchResult}
    (comes : Comes settings .releasing world
      ([(world.now, ⟨.releaseStaleClaims settings.staleClaimAge, released⟩),
        (world.now, ⟨.claimExpired settings.batchSize, .ok files⟩)] ++ said)
      (.finished outcome) after) :
    Claims settings world files said after := by
  refine ⟨released, outcome, comes.runs, ?_⟩
  rw [runBatch, comes [], Phase.run_finished]
  rfl

end Simulation.World

end FileCleanup
