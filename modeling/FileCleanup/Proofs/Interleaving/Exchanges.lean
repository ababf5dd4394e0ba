import FileCleanup.Proofs.Batch.Protocol
import FileCleanup.Proofs.Interleaving.Step
import Mathlib.Data.List.Forall2

namespace FileCleanup

open Time

/-! The calls of the record store that a run makes, with their answers, and
what becomes of a record with each. -/

/-- Whether a call was answered without an error. -/
def Exchange.succeeds : Exchange → Bool
  | ⟨.releaseStaleClaims _, answer⟩ => answer.isOk
  | ⟨.claimExpired _, answer⟩ => answer.isOk
  | ⟨.deleteObject _ _, answer⟩ => answer.isOk
  | ⟨.recordFailedAttempt _, answer⟩ => answer.isOk
  | ⟨.softDelete _, answer⟩ => answer.isOk

/-- What becomes of a record at an instant, by what is asked and answered
then. -/
inductive FileRecord.Fate (now : Instant) :
    Option Exchange → FileRecord → FileRecord → Prop
  | kept (exchange? : Option Exchange) (record : FileRecord) :
      Fate now exchange? record record
  | released {age : Span} {cutoff : Instant} {record : FileRecord} (count : Nat)
      (led : now.minus? age = some cutoff) (stale : record.Stale cutoff) :
      Fate now (some ⟨.releaseStaleClaims age, .ok count⟩) record
        (record.released now)
  | claimed {limit : Int} {files : List FileRecord} {record : FileRecord}
      (claimable : record.Claimable now)
      (returned : record.claimed now ∈ files) :
      Fate now (some ⟨.claimExpired limit, .ok files⟩) record
        (record.claimed now)
  | counted (record : FileRecord) :
      Fate now (some ⟨.recordFailedAttempt record.id, .ok ()⟩) record
        (record.withFailedAttempt now)
  | deleted {record : FileRecord} (live : record.Live) :
      Fate now (some ⟨.softDelete record.id, .ok ()⟩) record
        (record.softDeleted now)

theorem FileRecord.Fate.sameFile {now : Instant} {exchange? : Option Exchange}
    {before after : FileRecord} (fate : Fate now exchange? before after) :
    SameFile after before := by
  cases fate with
  | deleted live =>
      rw [softDeleted_of_live live]
      exact ⟨rfl, rfl, rfl, rfl⟩
  | _ => exact ⟨rfl, rfl, rfl, rfl⟩

namespace Simulation

namespace World

/-- What the record store answers depends on its records, on the failures that
are switched on and on the wall clock. -/
theorem answer_congr {call : Call} {left right : World}
    (stored : ∀ bucket key, call ≠ .deleteObject bucket key)
    (store : left.store = right.store) (faults : left.faults = right.faults)
    (now : left.now = right.now) :
    (answer call left).1 = (answer call right).1 := by
  cases call with
  | deleteObject bucket key => exact absurd rfl (stored bucket key)
  | releaseStaleClaims age =>
      simp only [answer, reported, releaseStaleClaims, storeAnswer, store,
        faults, now]
      split <;> rfl
  | claimExpired limit => simp only [answer_claimExpired, store, faults, now]
  | recordFailedAttempt id =>
      simp only [answer, reported, recordFailedAttempt, storeAnswer, store,
        faults, now]
      split <;> rfl
  | softDelete id =>
      simp only [answer, reported, softDelete, storeAnswer, store, faults, now]
      split <;> rfl

private theorem isOk_reported {Value : Type} (world : World)
    (result : Except StoreProblem (Value × RecordStore)) :
    (reported (world.storeAnswer result)).1.isOk = result.isOk := by
  cases result <;> rfl

/-- A call that is answered with an error leaves the records as they were. -/
theorem afterCall_of_refused {call : Call} {world : World}
    (refused : (Exchange.mk call (answer call world).1).succeeds = false) :
    world.store.afterCall world.faults world.now call = world.store := by
  cases call with
  | deleteObject bucket key => rfl
  | _ =>
      have fails := (isOk_reported _ _).symm.trans refused
      simp only [RecordStore.afterCall]
      split
      · rename_i succeeded
        rw [succeeded] at fails
        cases fails
      · rfl

/-- A claim that succeeds returns what it puts under a lease. -/
theorem files_of_claim {limit : Int} {files : List FileRecord} {world : World}
    (claims : (answer (.claimExpired limit) world).1 = .ok files) :
    files = (world.store.candidates world.now limit).map
        (·.claimed world.now) ∧
      (world.store.afterCall world.faults world.now
          (.claimExpired limit)).records =
        world.store.records.map fun record =>
          if record ∈ world.store.candidates world.now limit then
            record.claimed world.now
          else record := by
  rw [answer_claimExpired] at claims
  split at claims
  · cases claims
  · rename_i sound
    cases claims
    exact ⟨rfl, RecordStore.records_claim (Bool.eq_false_iff.mpr sound)⟩

/-- A claim that succeeds returns every record that it puts under a lease. -/
theorem returned_of_claim {limit : Int} {files : List FileRecord}
    {world : World} {record : FileRecord}
    (claims : (answer (.claimExpired limit) world).1 = .ok files)
    (claimable : record.Claimable world.now)
    (member : record ∈ world.store.records)
    (leased : record.claimed world.now ∈ (world.store.afterCall world.faults
      world.now (.claimExpired limit)).records) :
    record.claimed world.now ∈ files := by
  obtain ⟨rfl, records⟩ := files_of_claim claims
  rw [records] at leased
  obtain ⟨other, otherMember, same⟩ := List.mem_map.mp leased
  split at same
  · rename_i candidate
    rw [← same]
    exact List.mem_map_of_mem candidate
  · -- No other record can have come under this lease.
    have self : other = record :=
      RecordStore.eq_of_mem_of_id_eq otherMember member
        (by rw [same, FileRecord.id_claimed])
    have unleased := congrArg FileRecord.claimedAt same
    rw [self, claimable.2.1] at unleased
    cases unleased

theorem sound_of_counted {world : World} {id : Uuid}
    (counted : (answer (.recordFailedAttempt id) world).1 = .ok ()) :
    world.faults.increment = false := by
  by_contra faulty
  rw [Bool.not_eq_false] at faulty
  simp [answer, reported, recordFailedAttempt, storeAnswer,
    RecordStore.recordFailedAttempt, faulty, Except.map, Except.mapError]
    at counted

theorem answered_eq {request : Phase.Request}
    (stored : ∀ bucket key, request.call ≠ .deleteObject bucket key)
    (world : World) :
    request.answered backend world = (answer request.call world).1 := by
  have told := beside_tellAll request.announced world
  exact answer_congr stored (store_tellAll _ _) told.faults told.now

end World

/-- The call of the record store that a step of a batch makes, with the answer
that the batch gets. -/
def Flight.exchange? (flight : Flight) (world : World) : Option Exchange :=
  match flight.stage with
  | .between (.deleting _ _ _) => none
  | .between phase =>
    match phase.due flight.settings with
    | .inl _ => none
    | .inr request => some ⟨request.call, request.answered World.backend world⟩
  | .deleting _ _ _ => none

namespace Flight

variable {flight : Flight} {world : World}

theorem call?_of_request {settings : CleanupSettings} {phase : Phase}
    {request : Phase.Request} (asks : phase.due settings = .inr request) :
    call? ⟨settings, .between phase⟩ = some request.call := by
  simp only [call?, asks]

theorem exchange?_of_call? {call : Call} (calls : flight.call? = some call)
    (stored : ∀ bucket key, call ≠ .deleteObject bucket key) :
    flight.exchange? world = some ⟨call, (World.answer call world).1⟩ := by
  cases flight.situation with
  | @calls settings phase request asks _ =>
      rw [call?_of_request asks] at calls
      cases calls
      rw [← World.answered_eq stored]
      cases phase with
      | deleting file rest result =>
          cases asks
          exact absurd rfl (stored _ _)
      | finished outcome => cases asks
      | _ =>
          cases asks
          rfl
  | begins settings file rest result =>
      cases calls
      exact absurd rfl (stored _ _)
  | ends settings file rest result => cases calls
  | done settings outcome => cases calls

theorem call?_of_exchange? {exchange : Exchange}
    (talks : flight.exchange? world = some exchange) :
    flight.call? = some exchange.call ∧
      exchange.answer = (World.answer exchange.call world).1 := by
  cases flight.situation with
  | calls asks stored =>
      have calls := call?_of_request asks
      rw [exchange?_of_call? calls stored] at talks
      cases talks
      exact ⟨calls, rfl⟩
  | begins settings file rest result => cases talks
  | ends settings file rest result => cases talks
  | done settings outcome => cases talks

end Flight

namespace Interleaving

variable {state : Interleaving} {move : Move}

/-- The call that a move makes, with the answer that the caller gets. -/
def exchange? (state : Interleaving) : Move → Option Exchange
  | .proceed index =>
    state.flights[index]?.bind fun flight => flight.exchange? state.world
  | .call call => some ⟨call, (World.answer call state.world).1⟩
  | _ => none

theorem exchange?_of_call? {call : Call} (calls : state.call? move = some call)
    (stored : ∀ bucket key, call ≠ .deleteObject bucket key) :
    state.exchange? move = some ⟨call, (World.answer call state.world).1⟩ := by
  cases move with
  | proceed index =>
      obtain ⟨flight, found, asks⟩ := Option.bind_eq_some_iff.mp calls
      rw [exchange?, found]
      exact Flight.exchange?_of_call? asks stored
  | call other =>
      cases calls
      rfl
  | _ => cases calls

theorem call?_of_exchange? {exchange : Exchange}
    (talks : state.exchange? move = some exchange) :
    state.call? move = some exchange.call ∧
      exchange.answer = (World.answer exchange.call state.world).1 := by
  cases move with
  | proceed index =>
      obtain ⟨flight, found, talks⟩ := Option.bind_eq_some_iff.mp talks
      rw [call?, found]
      exact Flight.call?_of_exchange? talks
  | call call =>
      cases talks
      exact ⟨rfl, rfl⟩
  | _ => cases talks

/-- A move whose call is answered with an error leaves the records as they
were. -/
theorem store_step_of_refused {exchange : Exchange}
    (talks : state.exchange? move = some exchange)
    (refused : exchange.succeeds = false) :
    (state.step move).world.store = state.world.store := by
  obtain ⟨call, answer⟩ := exchange
  obtain ⟨calls, answered⟩ := call?_of_exchange? talks
  rw [show answer = (World.answer call state.world).1 from answered] at refused
  rw [store_step, calls]
  exact World.afterCall_of_refused refused

theorem Changed.eq_of_refused {record later : FileRecord}
    (changed : Changed state move record later)
    (member : record ∈ state.world.store.records)
    (laterMember : later ∈ (state.step move).world.store.records)
    {exchange : Exchange} (talks : state.exchange? move = some exchange)
    (refused : exchange.succeeds = false) : later = record := by
  rw [store_step_of_refused talks refused] at laterMember
  exact RecordStore.eq_of_mem_of_id_eq laterMember member changed.sameFile.id

theorem Changed.fate {record later : FileRecord}
    (changed : Changed state move record later)
    (member : record ∈ state.world.store.records)
    (laterMember : later ∈ (state.step move).world.store.records) :
    record.Fate state.world.now (state.exchange? move) later := by
  have kept {exchange : Exchange} (talks : state.exchange? move = some exchange)
      (refused : exchange.succeeds = false) :
      record.Fate state.world.now (state.exchange? move) later := by
    rw [changed.eq_of_refused member laterMember talks refused]
    exact .kept _ _
  cases changed with
  | kept => exact .kept _ _
  | changed calls change =>
      cases change with
      | kept => exact .kept _ _
      | @released age cutoff _ led stale =>
          have talks := exchange?_of_call? calls (by simp)
          cases answered :
              (World.answer (.releaseStaleClaims age) state.world).1 with
          | error cause =>
              rw [answered] at talks
              exact kept talks rfl
          | ok count =>
              rw [talks, answered]
              exact .released count led stale
      | claimed limit claimable =>
          have talks := exchange?_of_call? calls (by simp)
          cases answered :
              (World.answer (.claimExpired limit) state.world).1 with
          | error cause =>
              rw [answered] at talks
              exact kept talks rfl
          | ok files =>
              rw [store_step, calls] at laterMember
              rw [talks, answered]
              exact .claimed claimable
                (World.returned_of_claim answered claimable member laterMember)
      | counted =>
          have talks := exchange?_of_call? calls (by simp)
          cases answered :
              (World.answer (.recordFailedAttempt record.id) state.world).1 with
          | error cause =>
              rw [answered] at talks
              exact kept talks rfl
          | ok =>
              rw [talks, answered]
              exact .counted record
      | deleted live =>
          have talks := exchange?_of_call? calls (by simp)
          cases answered :
              (World.answer (.softDelete record.id) state.world).1 with
          | error cause =>
              rw [answered] at talks
              exact kept talks rfl
          | ok =>
              rw [talks, answered]
              exact .deleted live

end Interleaving

end Simulation

end FileCleanup
