import FileCleanup.Proofs.Interleaving.Run

namespace FileCleanup.Simulation

open Time

namespace Interleaving

/-! However many batches share a world, they only touch what is expired. -/

variable {state : Interleaving} {moves : List Move} {move : Move}
  {record : FileRecord}

/-- A record that no batch works on. -/
structure Idle (state : Interleaving) (record : FileRecord) : Prop where
  stored : record ∈ state.world.store.records
  unclaimed : record.claimedAt = none
  apart : ∀ flight ∈ state.flights, ∀ file ∈ flight.stage.files,
    file.id ≠ record.id

namespace Idle

theorem changed_eq (idle : state.Idle record)
    (own : ∀ call, move ≠ .call call)
    (spared : ¬record.Due state.world.now)
    {later : FileRecord} (changed : Changed state move record later) :
    later = record := by
  cases changed with
  | kept => rfl
  | changed calls change =>
      obtain ⟨flight, member, asks⟩ := exists_flight_of_call? calls (own _)
      cases change with
      | kept => rfl
      | released _ stale => exact absurd idle.unclaimed stale.leased.2
      | claimed limit claimable =>
          exact absurd claimable.due spared
      | counted =>
          obtain ⟨file, inHand, same⟩ :=
            Flight.mem_files_of_call? (.inl asks)
          exact absurd same.symm (idle.apart flight member file inHand)
      | deleted =>
          obtain ⟨file, inHand, same⟩ :=
            Flight.mem_files_of_call? (.inr asks)
          exact absurd same.symm (idle.apart flight member file inHand)

theorem step (idle : state.Idle record) (memory : state.world.InMemory)
    (own : ∀ call, move ≠ .call call)
    (spared : ¬record.Due state.world.now) :
    (state.step move).Idle record where
  stored := by
    obtain ⟨later, member, changed⟩ := exists_after move idle.stored
    rwa [idle.changed_eq own spared changed] at member
  unclaimed := idle.unclaimed
  apart := by
    intro flight member file inHand
    rcases mem_files_step memory member inHand with
      ⟨before, beforeMember, old⟩ | ⟨_, taken, claimable, claims, rfl⟩
    · exact idle.apart before beforeMember file old
    · intro same
      have self : taken = record :=
        RecordStore.eq_of_mem_of_id_eq claims.1 idle.stored same
      exact spared (self ▸ claimable.due)

theorem run (idle : state.Idle record) (memory : state.world.InMemory)
    (own : ∀ call, .call call ∉ moves) (forward : state.Forward moves)
    (spared : ¬record.Due (state.run moves).world.now) :
    (state.run moves).Idle record := by
  induction moves generalizing state with
  | nil => exact idle
  | cons move moves induction =>
      have sparedNow : ¬record.Due state.world.now :=
        fun due => spared ⟨due.1, due.2.mono forward.now_le⟩
      have ownMove : ∀ call, move ≠ .call call :=
        ne_call_of_mem own List.mem_cons_self
      exact induction (idle.step memory ownMove sparedNow)
        (inMemory_step memory move)
        (fun call member => own call (List.mem_cons_of_mem _ member))
        forward.2 spared

end Idle

theorem deletes_run (memory : state.world.InMemory)
    (idle : state.flights = []) (own : ∀ call, .call call ∉ moves) :
    ∃ addresses : List (String × String),
      (state.run moves).world.journal.deletes.toList =
          state.world.journal.deletes.toList ++ addresses ∧
        ∀ address ∈ addresses, ∃ instant record,
          state.ClaimedDuring moves instant record ∧
            record.address = address := by
  induction moves using List.reverseRecOn with
  | nil => exact ⟨[], (List.append_nil _).symm, nofun⟩
  | append_singleton moves move induction =>
      obtain ⟨addresses, deletes, claimed⟩ := induction fun call member =>
        own call (List.mem_append_left _ member)
      have grown : ∀ address ∈ addresses, ∃ instant record,
          state.ClaimedDuring (moves ++ [move]) instant record ∧
            record.address = address := by
        intro address member
        obtain ⟨instant, record, during, same⟩ := claimed address member
        exact ⟨instant, record, claimedDuring_concat.mpr (.inl during), same⟩
      have ownMove : ∀ call, move ≠ .call call :=
        ne_call_of_mem own (List.mem_append_right _ List.mem_cons_self)
      rw [run_concat]
      rcases deletes_step (inMemory_run memory moves) ownMove with
        same | ⟨flight, member, file, inHand, pushed⟩
      · exact ⟨addresses, by rw [same, deletes], grown⟩
      · obtain ⟨instant, record, during, rfl⟩ :=
          mem_files_run memory idle moves member inHand
        refine ⟨addresses ++ [record.address], ?_, ?_⟩
        · rw [pushed, Array.toList_push, deletes, List.append_assoc]
          rfl
        · intro address listed
          rcases List.mem_append.mp listed with old | new
          · exact grown address old
          · rw [List.mem_singleton.mp new]
            exact ⟨instant, record, claimedDuring_concat.mpr (.inl during), rfl⟩

/-- An object stays until a record of it is claimed. -/
theorem holds_run (memory : state.world.InMemory) (idle : state.flights = [])
    (own : ∀ call, .call call ∉ moves) {bucket key : String}
    (unclaimed : ∀ instant record, state.ClaimedDuring moves instant record →
      record.address ≠ (bucket, key))
    (held : state.world.objects.holds bucket key) :
    (state.run moves).world.objects.holds bucket key := by
  induction moves using List.reverseRecOn with
  | nil => exact held
  | append_singleton moves move induction =>
      have unclaimedBefore : ∀ instant record,
          state.ClaimedDuring moves instant record →
            record.address ≠ (bucket, key) :=
        fun instant record during =>
          unclaimed instant record (claimedDuring_concat.mpr (.inl during))
      have heldBefore := induction
        (fun call member => own call (List.mem_append_left _ member))
        unclaimedBefore
      have ownMove : ∀ call, move ≠ .call call :=
        ne_call_of_mem own (List.mem_append_right _ List.mem_cons_self)
      rw [run_concat]
      refine holds_step (inMemory_run memory moves) ownMove ?_ heldBefore
      intro flight member file inHand
      obtain ⟨instant, record, during, rfl⟩ :=
        mem_files_run memory idle moves member inHand
      exact unclaimedBefore instant record during

theorem run_spares_unexpired {start : World} {moves : List Move}
    (memory : start.InMemory) (own : ∀ call, .call call ∉ moves)
    (forward : (ofWorld start).Forward moves) :
    let final := ((ofWorld start).run moves).world
    (∃ addresses, final.journal.deletes.toList =
        start.journal.deletes.toList ++ addresses ∧
      ∀ address ∈ addresses, ∃ instant record,
        (ofWorld start).ClaimedDuring moves instant record ∧
          record.Live ∧ record.Expired instant ∧ record.address = address) ∧
    (∀ record ∈ start.store.records, record.claimedAt = none →
      (record.expiresAt = none ∨
        (∃ expiry, record.expiresAt = some expiry ∧ final.now < expiry) ∨
        ¬record.Live) →
      final.store.get? record.id = some record) ∧
    ∀ bucket key, start.objects.holds bucket key →
      final.objects.holds bucket key ∨
        ∃ instant record,
          (ofWorld start).ClaimedDuring moves instant record ∧
            record.address = (bucket, key) := by
  intro final
  have startMemory : (ofWorld start).world.InMemory := memory
  refine ⟨?_, ?_, ?_⟩
  · obtain ⟨addresses, deletes, claimed⟩ := deletes_run startMemory rfl own
    refine ⟨addresses, deletes, ?_⟩
    intro address member
    obtain ⟨instant, record, during, same⟩ := claimed address member
    have claimable := during.claimable
    exact ⟨instant, record, during, claimable.1, claimable.2.2, same⟩
  · intro record member unclaimed unexpired
    have idle : (ofWorld start).Idle record :=
      ⟨member, unclaimed, fun _ underWay => by cases underWay⟩
    refine RecordStore.get?_of_mem (idle.run memory own forward ?_).stored
    rintro ⟨live, expired⟩
    rcases unexpired with permanent | ⟨expiry, expires, ahead⟩ | deleted
    · rw [FileRecord.Expired, permanent] at expired
      exact expired
    · rw [FileRecord.Expired, expires] at expired
      exact Int.not_lt.mpr expired ahead
    · exact deleted live
  · intro bucket key held
    by_cases claimed : ∃ instant record,
        (ofWorld start).ClaimedDuring moves instant record ∧
          record.address = (bucket, key)
    · exact .inr claimed
    · refine .inl (holds_run startMemory rfl own ?_ held)
      intro instant record during same
      exact claimed ⟨instant, record, during, same⟩

/-- Two batches that take turns leave a permanent file alone. -/
theorem run_spares_permanent_sample :
    ((ofWorld Sample.world).run
      [.launch .standard, .launch .standard, .proceed 0, .proceed 1, .proceed 0,
        .proceed 1, .proceed 0, .passTime .base 600000]).world.store.get?
      Sample.permanent.id = some Sample.permanent := by
  have spared := @run_spares_unexpired Sample.world
    [.launch .standard, .launch .standard, .proceed 0, .proceed 1,
      .proceed 0, .proceed 1, .proceed 0, .passTime .base 600000]
    ⟨Sample.storage, rfl⟩ (by simp) (by decide +kernel)
  exact spared.2.1 Sample.permanent (by simp [Sample.world]) rfl (.inl rfl)

end Interleaving

end FileCleanup.Simulation
