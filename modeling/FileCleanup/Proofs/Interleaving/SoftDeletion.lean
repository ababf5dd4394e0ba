import FileCleanup.Proofs.Interleaving.Run

namespace FileCleanup.Simulation.Interleaving

open Time

/-! Whatever else goes on, a batch marks a record deleted only after the object
of the record has gone for good. -/

variable {state : Interleaving} {move : Move} {bucket key : String}

theorem absent_step (memory : state.world.InMemory) (move : Move)
    (absent : state.world.objects.holds bucket key = false) :
    (state.step move).world.objects.holds bucket key = false := by
  apply Bool.eq_false_iff.mpr
  intro held
  rw [holds_of_holds_step memory held] at absent
  cases absent

theorem absent_run (memory : state.world.InMemory) (moves : List Move)
    (absent : state.world.objects.holds bucket key = false) :
    (state.run moves).world.objects.holds bucket key = false := by
  apply Bool.eq_false_iff.mpr
  intro held
  rw [holds_of_holds_run memory moves held] at absent
  cases absent

/-- The batches know what they work on, and finalize only what is deleted. -/
structure Sound (state : Interleaving) : Prop where
  agrees : ∀ flight ∈ state.flights, ∀ file ∈ flight.stage.files,
    ∃ record ∈ state.world.store.records, record.SameFile file
  gone : ∀ flight ∈ state.flights, ∀ file rest result,
    flight.stage = .between (.finalizing file rest result) →
      state.world.objects.holds file.bucket file.storageKey = false

namespace Sound

theorem ofWorld (start : World) : (ofWorld start).Sound where
  agrees flight member := by cases member
  gone flight member := by cases member

theorem ofBatch (settings : CleanupSettings) (world : World) :
    (ofBatch settings world).Sound where
  agrees flight member file inHand := by
    rw [List.mem_singleton.mp member] at inHand
    cases inHand
  gone flight member file rest result finalizing := by
    rw [List.mem_singleton.mp member] at finalizing
    cases finalizing

theorem step (sound : state.Sound) (memory : state.world.InMemory)
    (move : Move) : (state.step move).Sound where
  agrees := by
    intro flight member file inHand
    rcases mem_files_step memory member inHand with
      ⟨before, beforeMember, old⟩ | ⟨stored, _⟩
    · obtain ⟨record, recordMember, same⟩ :=
        sound.agrees before beforeMember file old
      obtain ⟨later, laterMember, changed⟩ := exists_after move recordMember
      exact ⟨later, laterMember, changed.sameFile.trans same⟩
    · exact ⟨file, stored, .refl file⟩
  gone := by
    intro flight member file rest result finalizing
    rcases mem_flights_step member with
      old | ⟨settings, _, rfl⟩ | ⟨before, _, steps⟩
    · exact absent_step memory move
        (sound.gone flight old file rest result finalizing)
    · cases finalizing
    · have onward := Flight.onward memory before
      rw [steps] at onward
      exact onward.gone finalizing

theorem run (sound : state.Sound) (memory : state.world.InMemory)
    (moves : List Move) : (state.run moves).Sound := by
  induction moves generalizing state with
  | nil => exact sound
  | cons move moves induction =>
      exact induction (sound.step memory move) (inMemory_step memory move)

theorem absent_of_softDeleted (sound : state.Sound)
    (own : ∀ id, move ≠ .call (.softDelete id)) {before after : FileRecord}
    (member : before ∈ state.world.store.records)
    (changed : Changed state move before after)
    (live : before.Live) (deleted : ¬after.Live) :
    state.world.objects.holds before.bucket before.storageKey = false := by
  cases changed with
  | kept => exact absurd live deleted
  | changed calls change =>
      cases change with
      | kept => exact absurd live deleted
      | released => exact absurd live deleted
      | claimed => exact absurd live deleted
      | counted => exact absurd live deleted
      | deleted =>
          obtain ⟨flight, flightMember, asks⟩ :=
            exists_flight_of_call? calls (own _)
          obtain ⟨file, rest, result, finalizing, same⟩ :=
            Flight.finalizing_of_call? asks
          have inHand : file ∈ flight.stage.files := by
            rw [finalizing]
            exact List.mem_cons_self
          obtain ⟨record, recordMember, agrees⟩ :=
            sound.agrees flight flightMember file inHand
          have self : record = before :=
            RecordStore.eq_of_mem_of_id_eq recordMember member
              (agrees.id.trans same.symm)
          subst self
          rw [agrees.bucket, agrees.storageKey]
          exact sound.gone flight flightMember file rest result finalizing

end Sound

theorem absent_since_softDeleted {start : World} {earlier : List Move}
    {move : Move} {before after : FileRecord} (memory : start.InMemory)
    (own : ∀ id, move ≠ .call (.softDelete id))
    (member : before ∈ ((ofWorld start).run earlier).world.store.records)
    (laterMember :
      after ∈ ((ofWorld start).run (earlier ++ [move])).world.store.records)
    (same : after.id = before.id) (live : before.Live)
    (deleted : ¬after.Live) (later : List Move) :
    ((ofWorld start).run (earlier ++ move :: later)).world.objects.holds
      after.bucket after.storageKey = false := by
  let state := (ofWorld start).run earlier
  have startMemory : (ofWorld start).world.InMemory := memory
  have stateMemory : state.world.InMemory := inMemory_run startMemory earlier
  have sound : state.Sound := (Sound.ofWorld start).run memory earlier
  rw [run_concat] at laterMember
  obtain ⟨record, recordMember, changed⟩ := exists_before laterMember
  have self : record = before :=
    RecordStore.eq_of_mem_of_id_eq recordMember member
      (changed.sameFile.id.symm.trans same)
  subst self
  rw [run_append, changed.sameFile.bucket, changed.sameFile.storageKey]
  exact absent_run stateMemory (move :: later)
    (sound.absent_of_softDeleted own member changed live deleted)

theorem absent_since_softDeleted_sample :
    ((ofWorld Sample.world).run
      ([.launch .standard, .proceed 0, .proceed 0, .proceed 0, .proceed 0] ++
        .proceed 0 :: [.proceed 0])).world.objects.holds "uploads" "a.txt" =
      false := by
  have before : ((ofWorld Sample.world).run
      [.launch .standard, .proceed 0, .proceed 0, .proceed 0,
        .proceed 0]).world.store.records =
      [Sample.expired.claimed .base, Sample.permanent] := by
    decide +kernel
  have after : ((ofWorld Sample.world).run
      ([.launch .standard, .proceed 0, .proceed 0, .proceed 0, .proceed 0] ++
        [.proceed 0])).world.store.records =
      [Sample.expired.softDeleted .base, Sample.permanent] := by
    decide +kernel
  exact @absent_since_softDeleted _ _ _ (Sample.expired.claimed .base)
    (Sample.expired.softDeleted .base) ⟨Sample.storage, rfl⟩ (by simp)
    (before ▸ List.mem_cons_self) (after ▸ List.mem_cons_self) rfl rfl
    (by decide) [.proceed 0]

end FileCleanup.Simulation.Interleaving
