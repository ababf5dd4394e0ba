import FileCleanup.Proofs.Batch.Clearing
import FileCleanup.Proofs.Interleaving.SoftDeletion

namespace FileCleanup.Simulation

open Time

/-! A batch can be abandoned between any two of its calls: what it has claimed
is then either done with, or under a lease that a later batch finds stale. -/

namespace Flight

/-- The batch has not claimed anything yet. -/
def Early (flight : Flight) : Prop :=
  flight.stage = .between .releasing ∨ flight.stage = .between .claiming

theorem Onward.releasing {world after : World} {before later : Stage}
    (onward : Onward world after before later)
    (early : later = .between .releasing ∨ later = .between .claiming) :
    before = .between .releasing := by
  have takesUp (counted : BatchResult) (files : List FileRecord) :
      ¬(Stage.between (Phase.next counted files) = .between .releasing ∨
        Stage.between (Phase.next counted files) = .between .claiming) := by
    cases files <;> rintro (same | same) <;> cases same
  cases onward with
  | released => rfl
  | claimed => exact absurd early (takesUp _ _)
  | gaveUp => exact absurd early (takesUp _ _)
  | finalized => exact absurd early (takesUp _ _)
  | _ => rcases early with same | same <;> cases same

end Flight

namespace Interleaving

variable {start state : Interleaving} {moves : List Move} {move : Move}
  {flight : Flight} {instant : Instant}

/-- A move beside a single batch makes no call, or is the batch's next step. -/
theorem flights_step_single (single : state.flights = [flight])
    (alone : ∀ settings, move ≠ .launch settings)
    (own : ∀ call, move ≠ .call call) :
    (state.step move).flights = [flight] ∧ state.call? move = none ∨
      ∃ later, (state.step move).flights = [later] ∧
        flight.step state.world = (later, (state.step move).world) := by
  cases move with
  | launch settings => exact absurd rfl (alone settings)
  | call call => exact absurd rfl (own call)
  | proceed index =>
      cases index with
      | zero =>
          refine .inr ⟨(flight.step state.world).1, ?_⟩
          simp [step, single]
      | succ index =>
          refine .inl ?_
          simp [step, call?, single]
  | _ => exact .inl ⟨single, rfl⟩

/-- What has become of a record that a batch claimed at `instant`. -/
inductive Settles (world : World) (instant : Instant) : FileRecord → Prop
  | leased {record : FileRecord} (live : record.Live)
      (claimed : record.claimedAt = some instant) : Settles world instant record
  | finished {record : FileRecord} (deleted : ¬record.Live)
      (unclaimed : record.claimedAt = none)
      (gone : world.objects.holds record.bucket record.storageKey = false) :
      Settles world instant record

/-- The run of a single batch so far. -/
structure Single (start : Interleaving) (moves : List Move) (flight : Flight) :
    Prop where
  flights : (start.run moves).flights = [flight]
  early : flight.Early → ∀ instant record,
    ¬start.ClaimedDuring moves instant record
  settles : ∀ instant record, start.ClaimedDuring moves instant record →
    ∃ current ∈ (start.run moves).world.store.records,
      current.SameFile record ∧
        Settles (start.run moves).world instant current

namespace Single

theorem ofBatch (settings : CleanupSettings) (world : World) :
    Single (ofBatch settings world) [] (.launched settings) where
  flights := rfl
  early _ _ _ := not_claimedDuring_nil
  settles _ _ claimed := absurd claimed not_claimedDuring_nil

theorem call?_eq (single : Single start moves flight)
    (own : ∀ call, move ≠ .call call) {call : Call}
    (calls : (start.run moves).call? move = some call) :
    flight.call? = some call := by
  obtain ⟨caller, member, asks⟩ := exists_flight_of_call? calls (own call)
  rw [single.flights] at member
  rwa [← List.mem_singleton.mp member]

theorem settles_step (single : Single start moves flight)
    (memory : (start.run moves).world.InMemory)
    (sound : (start.run moves).Sound) (own : ∀ call, move ≠ .call call)
    {record current later : FileRecord}
    (claimed : start.ClaimedDuring moves instant record)
    (member : current ∈ (start.run moves).world.store.records)
    (settles : Settles (start.run moves).world instant current)
    (changed : Changed (start.run moves) move current later) :
    Settles ((start.run moves).step move).world instant later := by
  have same := changed.sameFile
  have late : ¬flight.Early :=
    fun early => single.early early instant record claimed
  cases settles with
  | leased live leased =>
      cases changed with
      | kept => exact .leased live leased
      | changed calls change =>
          have asks := single.call?_eq own calls
          cases change with
          | kept => exact .leased live leased
          | released =>
              exact absurd (.inl (Flight.releasing_of_call? asks)) late
          | claimed =>
              exact absurd (.inr (Flight.claiming_of_call? asks)) late
          | counted => exact .leased live leased
          | deleted =>
              have softDeleted := FileRecord.softDeleted_of_live live
                (start.run moves).world.now
              have dead : ¬(current.softDeleted
                  (start.run moves).world.now).Live := by
                rw [softDeleted]
                nofun
              refine .finished dead (by rw [softDeleted]) ?_
              rw [same.bucket, same.storageKey]
              exact absent_step memory move
                (sound.absent_of_softDeleted (fun _ => own _) member
                  (.changed calls (.deleted live)) live dead)
  | finished dead unclaimed gone =>
      have absent := absent_step memory move gone
      cases changed with
      | kept => exact .finished dead unclaimed absent
      | changed calls change =>
          cases change with
          | kept => exact .finished dead unclaimed absent
          | released _ stale => exact absurd stale.1 dead
          | claimed _ claimable => exact absurd claimable.1 dead
          | counted => exact .finished dead unclaimed absent
          | deleted live => exact absurd live dead

theorem step (single : Single start moves flight)
    (memory : (start.run moves).world.InMemory)
    (sound : (start.run moves).Sound)
    (alone : ∀ settings, move ≠ .launch settings)
    (own : ∀ call, move ≠ .call call) :
    ∃ later, Single start (moves ++ [move]) later := by
  have settles : ∀ instant record,
      start.ClaimedDuring (moves ++ [move]) instant record →
        ∃ current ∈ (start.run (moves ++ [move])).world.store.records,
          current.SameFile record ∧
            Settles (start.run (moves ++ [move])).world instant current := by
    intro instant record claimed
    rw [run_concat]
    rcases claimedDuring_concat.mp claimed with before | ⟨rfl, claims⟩
    · obtain ⟨current, member, same, settles⟩ :=
        single.settles instant record before
      obtain ⟨later, laterMember, changed⟩ := exists_after move member
      exact ⟨later, laterMember, changed.sameFile.trans same,
        single.settles_step memory sound own before member settles changed⟩
    · obtain ⟨claimable, stored, _⟩ := claims.claimed
      exact ⟨_, stored, FileRecord.sameFile_claimed _ _,
        .leased claimable.1 rfl⟩
  -- Only a batch that is about to claim can claim.
  have claiming : ∀ record, (start.run moves).Claims move record →
      flight.stage = .between .claiming := by
    intro record claims
    obtain ⟨_, _, limit, calls⟩ := claims.claimed
    exact Flight.claiming_of_call? (single.call?_eq own calls)
  rcases flights_step_single single.flights alone own with
    ⟨flights, silent⟩ | ⟨later, flights, steps⟩
  · refine ⟨flight, by rw [run_concat, flights], ?_, settles⟩
    intro early instant record claimed
    rcases claimedDuring_concat.mp claimed with before | ⟨_, claims⟩
    · exact single.early early instant record before
    · obtain ⟨_, _, limit, calls⟩ := claims.claimed
      rw [silent] at calls
      cases calls
  · refine ⟨later, by rw [run_concat, flights], ?_, settles⟩
    intro early instant record claimed
    have onward := Flight.onward memory flight
    rw [steps] at onward
    have releasing := onward.releasing early
    rcases claimedDuring_concat.mp claimed with before | ⟨_, claims⟩
    · exact single.early (.inl releasing) instant record before
    · have stage := claiming record claims
      rw [releasing] at stage
      cases stage

theorem run (settings : CleanupSettings) {world : World}
    (memory : world.InMemory) (unaided : Unaided moves) :
    ∃ flight, Single (Interleaving.ofBatch settings world) moves flight := by
  induction moves using List.reverseRecOn with
  | nil => exact ⟨_, ofBatch settings world⟩
  | append_singleton moves move induction =>
      obtain ⟨flight, single⟩ := induction unaided.of_append
      have last : move ∈ moves ++ [move] :=
        List.mem_append_right _ List.mem_cons_self
      refine single.step (inMemory_run memory moves)
        ((Sound.ofBatch settings world).run memory moves) ?_
        (ne_call_of_mem unaided.calls last)
      rintro other rfl
      exact unaided.launches other last

end Single

/-- A file is done with after a batch: its record is marked deleted and under
no lease, with no more failed attempts than before, and its object is gone. -/
def DoneWith (before after : World) (file : FileRecord) : Prop :=
  ∃ record ∈ before.store.records, ∃ done ∈ after.store.records,
    record.SameFile file ∧ done.SameFile file ∧
      ¬done.Live ∧ done.claimedAt = none ∧
      done.failedAttempts = record.failedAttempts ∧
      after.objects.holds file.bucket file.storageKey = false

theorem DoneWith.of_sameFile {before after : World} {file other : FileRecord}
    (done : DoneWith before after file) (same : file.SameFile other) :
    DoneWith before after other := by
  obtain ⟨record, member, cleaned, cleanedMember, recordFile, cleanedFile, dead,
    unclaimed, attempts, gone⟩ := done
  rw [same.bucket, same.storageKey] at gone
  exact ⟨record, member, cleaned, cleanedMember, recordFile.trans same,
    cleanedFile.trans same, dead, unclaimed, attempts, gone⟩

theorem doneWith_of_due {before after : World} {storage : MemoryStorage}
    {due : List FileRecord} {record : FileRecord}
    (unfailing : storage.failingKeys = [])
    (records : after.store.records =
      before.store.records.map (·.cleared before.now))
    (remaining : after.objects = .memory (storage.without due))
    (covered : record.Due before.now → record.address ∈ due.map (·.address))
    (member : record ∈ before.store.records) (isDue : record.Due before.now) :
    DoneWith before after record := by
  have cleared := FileRecord.cleared_of_due isDue
  refine ⟨record, member, record.cleared before.now, ?_, .refl _, ?_, ?_, ?_, ?_,
    ?_⟩
  · rw [records]
    exact List.mem_map_of_mem member
  · rw [cleared]
    exact ⟨rfl, rfl, rfl, rfl⟩
  · rw [cleared]
    nofun
  · rw [cleared]
  · rw [cleared]
  · rw [remaining]
    exact World.not_holds_without unfailing (covered isDue)

theorem lease_le_now {settings : CleanupSettings} {now claim : Instant}
    {record : FileRecord} (live : record.Live)
    (lease : record.claimedAt = some claim)
    (stale : record.Leased →
      record.hasStaleClaim? now settings.staleClaimAge = some true) :
    claim ≤ now := by
  have leased : record.Leased := ⟨live, by rw [lease]; nofun⟩
  obtain ⟨cutoff, led, _, before⟩ :=
    FileRecord.stale_of_hasStaleClaim? leased (stale leased)
  rw [FileRecord.ClaimedBefore, lease] at before
  have forward : 0 ≤ settings.staleClaimAge.nanos := by
    simp only [CleanupSettings.staleClaimAge, Span.ofSeconds]
    omega
  exact Int.le_trans (Int.le_of_lt before) (Instant.minus?_le forward led)

theorem runBatch_recovers {abandoned settings : CleanupSettings}
    {start world : World} {moves : List Move} {storage : MemoryStorage}
    (memory : start.InMemory) (unaided : Unaided moves)
    (left : ((ofBatch abandoned start).run moves).world = world)
    (objects : world.objects = .memory storage) (undelayed : storage.delay = 0)
    (unfailing : storage.failingKeys = []) (sound : world.faults = .none)
    (accepted : settings.validate = .ok ())
    (stale : ∀ record ∈ world.store.records, record.Leased →
      record.hasStaleClaim? world.now settings.staleClaimAge = some true)
    (room : (world.store.records.countP fun record => record.Due world.now) ≤
      settings.batchSize) :
    let after := (runBatch settings World.backend world).2
    (∀ instant record,
      (ofBatch abandoned start).ClaimedDuring moves instant record →
        DoneWith world after record) ∧
    (∀ record ∈ world.store.records, record.Due world.now →
      DoneWith world after record) ∧
    ∀ next, (runBatch next World.backend after).1 = .ok .none := by
  obtain ⟨due, after, runs, now, faults, records, remaining, covered⟩ :=
    World.runBatch_clears accepted objects undelayed unfailing sound stale room
  rw [runs]
  have clears : ∀ record ∈ world.store.records, record.Due world.now →
      DoneWith world after record :=
    fun record member => doneWith_of_due unfailing records remaining
      (covered record member) member
  refine ⟨?_, clears, fun next => World.runBatch_idle ?_ ?_ ?_ next⟩
  · intro instant record claimed
    obtain ⟨flight, single⟩ := Single.run abandoned memory unaided
    obtain ⟨current, member, same, settles⟩ :=
      single.settles instant record claimed
    rw [left] at member settles
    cases settles with
    | leased live lease =>
        have expired : current.Expired instant :=
          same.expired claimed.claimable.2.2
        have passed := lease_le_now live lease (stale current member)
        exact (clears current member ⟨live, expired.mono passed⟩).of_sameFile same
    | finished dead unclaimed gone =>
        refine DoneWith.of_sameFile ?_ same
        refine ⟨current, member, current, ?_, .refl _, .refl _, dead, unclaimed,
          rfl, ?_⟩
        · rw [records, ← FileRecord.cleared_of_not_live world.now dead]
          exact List.mem_map_of_mem member
        · rw [remaining]
          rw [objects] at gone
          exact World.absent_without gone
  · rw [faults]
    rfl
  · rw [records]
    intro record member
    obtain ⟨before, _, rfl⟩ := List.mem_map.mp member
    exact FileRecord.not_leased_cleared world.now before
  · rw [records, now]
    intro record member
    obtain ⟨before, _, rfl⟩ := List.mem_map.mp member
    exact FileRecord.not_due_cleared world.now before

/-- A batch is cut off after its claim; ten minutes later another one finishes
the work. -/
theorem runBatch_recovers_sample :
    let world := ((ofBatch .standard Sample.world).run
      [.proceed 0, .proceed 0, .passTime .base 600000]).world
    let after := (runBatch .standard World.backend world).2
    DoneWith world after (Sample.expired.claimed .base) ∧
      (runBatch .standard World.backend after).1 = .ok .none := by
  have records : ((ofBatch .standard Sample.world).run
      [.proceed 0, .proceed 0, .passTime .base 600000]).world.store.records =
      [Sample.expired.claimed .base, Sample.permanent] := by
    decide +kernel
  have recovers := @runBatch_recovers .standard .standard Sample.world _
    [.proceed 0, .proceed 0, .passTime .base 600000]
    Sample.storage ⟨Sample.storage, rfl⟩ ⟨by simp, by simp⟩ rfl rfl rfl rfl rfl rfl
    (by rw [records]; decide) (by rw [records]; decide)
  exact ⟨recovers.2.1 _ (by simp [records]) (by decide), recovers.2.2 _⟩

end Interleaving

end FileCleanup.Simulation
