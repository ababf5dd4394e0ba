import FileCleanup.Proofs.Store.Claims
import FileCleanup.Proofs.Time.Elapsed
import FileCleanup.Simulation.Scenario

namespace FileCleanup

open Time Simulation

/-! Settings that are accepted keep every part of a service out of trouble. -/

/-- A loop sets its ticker when it starts, and has nothing to do before the
first tick. -/
theorem Simulation.Loop.ticker_run {loop : Loop}
    (starting : loop.activity = .starting)
    (positive : 0 < loop.settings.intervalSeconds * 1000) (ticket : Nat)
    (world : World) :
    (loop.run ticket world).1.ticker =
      Ticker.start world.clock (loop.settings.intervalSeconds * 1000) := by
  have ahead := Ticker.lt_firstDue world.clock positive
  unfold run
  rw [starting]
  dsimp only [between]
  split
  · rfl
  · split
    · rename_i due
      exact absurd ahead (Nat.not_lt.mpr due)
    · rfl

namespace CleanupSettings

/-- All that is done with the settings of a service goes well. -/
structure Workable (settings : CleanupSettings) : Prop where
  service : ∀ (scenario : Scenario) (name : String), ∃ after,
    scenario.perform (.service name settings) =
        (.service settings.batchSize, after) ∧
      after.serviceNamed name = settings
  /-- The first tick of a loop is one interval away, unless the clock has less
  than thirty years left. -/
  ticks : ∀ (loop : Loop) (ticket : Nat) (world : World),
    loop.settings = settings → loop.activity = .starting →
    world.clock + Ticker.farFuture ≤ Ticker.latest →
    let ticker := (loop.run ticket world).1.ticker
    Span.ofMillis ticker.period = settings.interval ∧ ticker.period ≠ 0 ∧
      ticker.due = world.clock + ticker.period ∧
      ticker.due ≠ world.clock + Ticker.farFuture
  limit : settings.batchSize.toNat ≠ 0 ∧
    (settings.batchSize.toNat : Int) = settings.batchSize
  claims : ∀ (store : RecordStore) (faults : StoreFaults) (now : Instant)
    (files : List FileRecord) (after : RecordStore),
    store.claimExpired faults now settings.batchSize = .ok (files, after) →
    (∃ record ∈ store.records, record.Claimable now) → files ≠ []
  /-- The calendar reaches back seven days and more. -/
  releases : ∀ (store : RecordStore) (faults : StoreFaults) (now : Instant),
    firstSecond + 7 * 86400 ≤ now.second →
    (∀ record : FileRecord,
      record.hasStaleClaim? now settings.staleClaimAge ≠ none) ∧
    ∀ problem,
      store.releaseStaleClaims faults now settings.staleClaimAge =
        .error problem →
      faults.release = true ∧ problem = .releaseFailed

namespace Valid

variable {settings : CleanupSettings} (valid : settings.Valid)
include valid

theorem ticker_eq {loop : Loop} {world : World} (same : loop.settings = settings)
    (starting : loop.activity = .starting)
    (room : world.clock + Ticker.farFuture ≤ Ticker.latest) (ticket : Nat) :
    (loop.run ticket world).1.ticker =
      ⟨settings.intervalSeconds * 1000,
        world.clock + settings.intervalSeconds * 1000⟩ := by
  obtain ⟨positive, bound, _⟩ := valid
  subst same
  simp only [greatestInterval] at bound
  have near : loop.settings.intervalSeconds * 1000 ≤ Ticker.farFuture := by
    simp only [Ticker.farFuture]
    omega
  rw [Loop.ticker_run starting (by omega), Ticker.start,
    Ticker.firstDue_eq room near]

theorem limit_of_batchSize :
    settings.batchSize.toNat ≠ 0 ∧
      (settings.batchSize.toNat : Int) = settings.batchSize := by
  obtain ⟨_, _, positive, _⟩ := valid
  omega

theorem files_ne_nil {store after : RecordStore} {faults : StoreFaults}
    {now : Instant} {files : List FileRecord}
    (claims : store.claimExpired faults now settings.batchSize =
      .ok (files, after))
    (waits : ∃ record ∈ store.records, record.Claimable now) : files ≠ [] := by
  have sound : faults.claim = false := by
    by_contra faulty
    rw [RecordStore.claimExpired, if_pos (by simpa using faulty)] at claims
    cases claims
  obtain ⟨order, inOrder, _⟩ := store.exists_claimOrder now
  have taken := RecordStore.claims_take sound inOrder settings.batchSize
  rw [RecordStore.claimExpired_eq sound inOrder] at claims
  obtain ⟨rfl, rfl⟩ := Prod.mk.inj (Except.ok.inj claims)
  obtain ⟨record, member, claimable⟩ := waits
  have some : 0 < store.records.countP fun record => record.Claimable now :=
    List.countP_pos_iff.mpr ⟨record, member, decide_eq_true claimable⟩
  have length := taken.length
  have size := valid.limit_of_batchSize.1
  rw [← List.length_pos_iff, length]
  omega

theorem exists_cutoff {now : Instant}
    (room : firstSecond + 7 * 86400 ≤ now.second) :
    ∃ cutoff, now.minus? settings.staleClaimAge = some cutoff := by
  obtain ⟨_, _, _, positive, bound⟩ := valid
  simp only [greatestStaleClaim] at bound
  exact Instant.exists_minus? (by omega) (by omega)

theorem releaseFailed_of_error {store : RecordStore} {faults : StoreFaults}
    {now : Instant} (room : firstSecond + 7 * 86400 ≤ now.second)
    {problem : StoreProblem}
    (fails : store.releaseStaleClaims faults now settings.staleClaimAge =
      .error problem) :
    faults.release = true ∧ problem = .releaseFailed := by
  have inRange := inRange_staleClaimAge (validate_eq_ok_iff.mpr valid)
  obtain ⟨cutoff, led⟩ := valid.exists_cutoff room
  rw [RecordStore.releaseStaleClaims] at fails
  by_cases faulty : faults.release = true
  · rw [if_pos faulty] at fails
    cases fails
    exact ⟨faulty, rfl⟩
  · rw [if_neg faulty, if_neg (not_not_intro inRange), led] at fails
    split at fails <;> cases fails

theorem workable : settings.Workable where
  service scenario name := by
    have accepted := validate_eq_ok_iff.mpr valid
    exact ⟨_, by simp only [Scenario.perform, accepted]; rfl,
      by simp [Scenario.serviceNamed]⟩
  ticks loop ticket world same starting room := by
    have ⟨positive, bound, _⟩ := valid
    simp only [greatestInterval] at bound
    rw [valid.ticker_eq same starting room]
    refine ⟨?_, by dsimp only; omega, rfl, ?_⟩
    · simp only [Span.ofMillis, interval, Span.ofSeconds, Span.mk.injEq]
      omega
    · simp only [Ticker.farFuture]
      omega
  limit := valid.limit_of_batchSize
  claims _ _ _ _ _ claimed waits := valid.files_ne_nil claimed waits
  releases store faults now room := by
    obtain ⟨cutoff, led⟩ := valid.exists_cutoff room
    refine ⟨fun record => ?_, fun problem => valid.releaseFailed_of_error room⟩
    rw [FileRecord.hasStaleClaim?, led]
    split <;> exact Option.some_ne_none _

end Valid

/-- Settings that are accepted can be worked with all the way down, and no
service is made with any others. -/
theorem accepted_workable (settings : CleanupSettings) :
    (settings.validate = .ok () → settings.Workable) ∧
      ∀ problem, settings.validate = .error problem →
        ∀ (scenario : Scenario) (name : String),
          scenario.perform (.service name settings) =
            (.settingsProblem problem, scenario) := by
  constructor
  · intro accepted
    exact (validate_eq_ok_iff.mp accepted).workable
  · intro problem rejected scenario name
    simp only [Scenario.perform, rejected]

/-- The longest interval and the longest age. -/
def Sample.slowest : CleanupSettings :=
  ⟨true, greatestInterval, 1, greatestStaleClaim⟩

theorem accepted_workable_sample :
    Sample.slowest.validate = .ok () ∧
      (∀ problem,
        Simulation.Sample.pair.store.releaseStaleClaims .none .base
          Sample.slowest.staleClaimAge ≠ .error problem) ∧
      ({ Sample.slowest with batchSize := 0 }.validate =
          .error (.notPositive "FILE_CLEANUP_BATCH_SIZE") ∧
        ((Scenario.start (.memory (.empty .s3))).perform
          (.service "main" { Sample.slowest with batchSize := 0 })).1 =
            .settingsProblem (.notPositive "FILE_CLEANUP_BATCH_SIZE")) := by
  have workable := (accepted_workable Sample.slowest).1 rfl
  have rejects := (accepted_workable
    { Sample.slowest with batchSize := 0 }).2 _ rfl
  refine ⟨rfl, ?_, rfl, congrArg Prod.fst (rejects _ _)⟩
  intro problem fails
  have failed := (workable.releases _ _ _ (by decide)).2 problem fails
  cases failed.1

end CleanupSettings

end FileCleanup
