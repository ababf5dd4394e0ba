import FileCleanup.Proofs.Interleaving.Flight

namespace FileCleanup.Simulation

open Time

/-! One move of an interleaving: what it can do to a record, to an object and
to the batches that are under way. -/

namespace World

variable {world : World} {bucket key : String}

/-- Objects do not come back, whoever calls. -/
theorem holds_of_holds_answer (memory : world.InMemory) (call : Call)
    (held : (answer call world).2.objects.holds bucket key) :
    world.objects.holds bucket key := by
  cases call with
  | deleteObject otherBucket otherKey =>
      let begun := world.beginDelete otherBucket otherKey
      let ended := { begun with clock := begun.clock + begun.objects.delay }
      have same : ended.objects = world.objects := objects_beginDelete ..
      have endedMemory : ended.InMemory := memory.of_objects_eq same
      rw [← same]
      exact holds_of_holds_finishDelete endedMemory held
  | _ =>
      rw [(beside_answer world (by simp)).objects] at held
      exact held

theorem inMemory_answer (memory : world.InMemory) (call : Call) :
    (answer call world).2.InMemory := by
  cases call with
  | deleteObject bucket key =>
      let begun := world.beginDelete bucket key
      let ended := { begun with clock := begun.clock + begun.objects.delay }
      have endedMemory : ended.InMemory :=
        memory.of_objects_eq (objects_beginDelete ..)
      exact endedMemory.finishDelete
  | _ => exact memory.of_objects_eq (beside_answer world (by simp)).objects

end World

namespace Interleaving

variable {state : Interleaving} {move : Move}

/-- The call that a move makes. -/
def call? (state : Interleaving) : Move → Option Call
  | .proceed index => state.flights[index]?.bind Flight.call?
  | .call call => some call
  | _ => none

theorem exists_flight_of_call? {call : Call}
    (calls : state.call? move = some call) (own : move ≠ .call call) :
    ∃ flight ∈ state.flights, flight.call? = some call := by
  cases move with
  | proceed index =>
      obtain ⟨flight, found, asks⟩ := Option.bind_eq_some_iff.mp calls
      exact ⟨flight, List.mem_of_getElem? found, asks⟩
  | call other =>
      cases calls
      exact absurd rfl own
  | _ => cases calls

theorem store_step (state : Interleaving) (move : Move) :
    (state.step move).world.store =
      match state.call? move with
      | some call =>
        state.world.store.afterCall state.world.faults state.world.now call
      | none => state.world.store := by
  cases move with
  | proceed index =>
      simp only [step, call?]
      cases state.flights[index]? with
      | none => rfl
      | some flight => exact Flight.store_step flight state.world
  | call call => exact World.store_answer call state.world
  | _ => rfl

/-- What a move can make of one record. -/
inductive Changed (state : Interleaving) (move : Move) :
    FileRecord → FileRecord → Prop
  | kept (record : FileRecord) : Changed state move record record
  | changed {call : Call} {record later : FileRecord}
      (calls : state.call? move = some call)
      (change : record.Change state.world.now call later) :
      Changed state move record later

theorem Changed.sameFile {record later : FileRecord}
    (changed : Changed state move record later) : later.SameFile record := by
  cases changed with
  | kept => exact .refl _
  | changed _ change => exact change.sameFile

theorem exists_after (move : Move) {record : FileRecord}
    (member : record ∈ state.world.store.records) :
    ∃ later ∈ (state.step move).world.store.records,
      Changed state move record later := by
  rw [store_step]
  split
  · rename_i call calls
    have changes := state.world.store.changes_afterCall state.world.faults
      state.world.now call
    obtain ⟨later, laterMember, change⟩ := changes.exists_after member
    exact ⟨later, laterMember, .changed calls change⟩
  · exact ⟨record, member, .kept record⟩

theorem exists_before {later : FileRecord}
    (member : later ∈ (state.step move).world.store.records) :
    ∃ record ∈ state.world.store.records, Changed state move record later := by
  rw [store_step] at member
  split at member
  · rename_i call calls
    have changes := state.world.store.changes_afterCall state.world.faults
      state.world.now call
    obtain ⟨record, recordMember, change⟩ := changes.exists_before member
    exact ⟨record, recordMember, .changed calls change⟩
  · exact ⟨later, member, .kept later⟩

theorem mem_flights_step {flight : Flight}
    (member : flight ∈ (state.step move).flights) :
    flight ∈ state.flights ∨
      (∃ settings, move = .launch settings ∧ flight = .launched settings) ∨
      ∃ before ∈ state.flights,
        (before.step state.world) = (flight, (state.step move).world) := by
  cases move with
  | launch settings =>
      rcases List.mem_append.mp member with old | new
      · exact .inl old
      · exact .inr (.inl ⟨settings, rfl, List.mem_singleton.mp new⟩)
  | proceed index =>
      simp only [step] at member ⊢
      cases found : state.flights[index]? with
      | none =>
          rw [found] at member
          exact .inl member
      | some before =>
          rw [found] at member
          rcases List.mem_or_eq_of_mem_set member with old | new
          · exact .inl old
          · subst new
            exact .inr (.inr ⟨before, List.mem_of_getElem? found, rfl⟩)
  | _ => exact .inl member

theorem holds_switchDeletes (state : Interleaving) (failingKeys : List String)
    (delay : Nat) (bucket key : String) :
    (state.step (.switchDeletes failingKeys delay)).world.objects.holds bucket
        key =
      state.world.objects.holds bucket key := by
  simp only [step]
  cases state.world.objects <;> rfl

section Memory

variable (memory : state.world.InMemory)
include memory

theorem inMemory_step (move : Move) : (state.step move).world.InMemory := by
  cases move with
  | proceed index =>
      simp only [step]
      cases state.flights[index]? with
      | none => exact memory
      | some flight => exact Flight.inMemory_step memory flight
  | call call => exact World.inMemory_answer memory call
  | switchDeletes failingKeys delay =>
      obtain ⟨storage, objects⟩ := memory
      simp [step, objects, ObjectStore.changeMemory, World.InMemory]
  | _ => exact memory

theorem holds_of_holds_step {bucket key : String}
    (held : (state.step move).world.objects.holds bucket key) :
    state.world.objects.holds bucket key := by
  cases move with
  | proceed index =>
      simp only [step] at held
      cases found : state.flights[index]? with
      | none =>
          rw [found] at held
          exact held
      | some flight =>
          rw [found] at held
          exact Flight.holds_of_holds_step memory flight held
  | call call => exact World.holds_of_holds_answer memory call held
  | switchDeletes failingKeys delay =>
      rwa [holds_switchDeletes] at held
  | _ => exact held

/-- Where nobody else calls, only objects of files in hand are deleted. -/
theorem holds_step {bucket key : String}
    (own : ∀ call, move ≠ .call call)
    (other : ∀ flight ∈ state.flights, ∀ file ∈ flight.stage.files,
      file.address ≠ (bucket, key))
    (held : state.world.objects.holds bucket key) :
    (state.step move).world.objects.holds bucket key := by
  cases move with
  | proceed index =>
      simp only [step]
      cases found : state.flights[index]? with
      | none => exact held
      | some flight =>
          exact Flight.holds_step memory flight
            (other flight (List.mem_of_getElem? found)) held
  | call call => exact absurd rfl (own call)
  | switchDeletes failingKeys delay =>
      rwa [holds_switchDeletes]
  | _ => exact held

theorem deletes_step (own : ∀ call, move ≠ .call call) :
    (state.step move).world.journal.deletes = state.world.journal.deletes ∨
      ∃ flight ∈ state.flights, ∃ file ∈ flight.stage.files,
        (state.step move).world.journal.deletes =
          state.world.journal.deletes.push file.address := by
  cases move with
  | proceed index =>
      simp only [step]
      cases found : state.flights[index]? with
      | none => exact .inl rfl
      | some flight =>
          rcases Flight.deletes_step memory flight with
            same | ⟨file, member, pushed⟩
          · exact .inl same
          · exact .inr
              ⟨flight, List.mem_of_getElem? found, file, member, pushed⟩
  | call call => exact absurd rfl (own call)
  | _ => exact .inl rfl

/-- A file in hand after a move was in hand before it, or the move has just
claimed it. -/
theorem mem_files_step {flight : Flight}
    (member : flight ∈ (state.step move).flights) {file : FileRecord}
    (inHand : file ∈ flight.stage.files) :
    (∃ before ∈ state.flights, file ∈ before.stage.files) ∨
      file ∈ (state.step move).world.store.records ∧
        ∃ record, record.Claimable state.world.now ∧
          state.Claims move record ∧ file = record.claimed state.world.now := by
  rcases mem_flights_step member with
    old | ⟨settings, rfl, rfl⟩ | ⟨before, beforeMember, steps⟩
  · exact .inl ⟨flight, old, inHand⟩
  · cases inHand
  · have onward := Flight.onward memory before
    rw [steps] at onward
    rcases onward.mem_files inHand with
      old | ⟨_, stored, record, recordMember, claimable, rfl⟩
    · exact .inl ⟨before, beforeMember, old⟩
    · exact .inr ⟨stored, record, claimable,
        ⟨recordMember, claimable.2.1, _, stored, rfl, nofun⟩, rfl⟩

end Memory

theorem Claims.claimed {record : FileRecord}
    (claims : state.Claims move record) :
    record.Claimable state.world.now ∧
      record.claimed state.world.now ∈ (state.step move).world.store.records ∧
      ∃ limit, state.call? move = some (.claimExpired limit) := by
  obtain ⟨member, unclaimed, later, laterMember, same, leased⟩ := claims
  obtain ⟨before, beforeMember, changed⟩ := exists_before laterMember
  have self : before = record :=
    RecordStore.eq_of_mem_of_id_eq beforeMember member
      (changed.sameFile.id.symm.trans same)
  subst self
  cases changed with
  | kept => exact absurd unclaimed leased
  | changed calls change =>
      cases change with
      | kept => exact absurd unclaimed leased
      | released => exact absurd rfl leased
      | claimed limit claimable => exact ⟨claimable, laterMember, limit, calls⟩
      | counted => exact absurd unclaimed leased
      | deleted live =>
          rw [FileRecord.softDeleted_of_live live] at leased
          exact absurd rfl leased

end Interleaving

end FileCleanup.Simulation
