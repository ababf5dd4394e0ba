import FileCleanup.Proofs.Batch.Protocol
import FileCleanup.Proofs.Database.Batches

namespace FileCleanup

open Simulation

/-! What a batch sends to a server that fails nothing: one statement for each
call of the record store, in a transaction of its own. -/

/-- The statement that a call of the record store comes to. -/
def Call.statement? : Call → Option Statement
  | .releaseStaleClaims age => some (.releaseStaleClaims age)
  | .claimExpired limit => some (.claimExpired limit)
  | .deleteObject _ _ => none
  | .recordFailedAttempt id => some (.recordFailedAttempt id)
  | .softDelete id => some (.softDelete id)

/-- A statement says which call it was sent for. -/
theorem Call.eq_of_statement? {left right : Call} {statement : Statement}
    (ofLeft : left.statement? = some statement)
    (ofRight : right.statement? = some statement) : left = right := by
  cases left <;> cases right <;> cases ofLeft <;> cases ofRight <;> rfl

/-- The server fails nothing. -/
structure Script.Sound (script : Script) : Prop where
  begins : script.beginFault = none
  executes : script.fault = none
  commits : script.commitFault = none

namespace Session

/-- The pool is open, and the server will fail nothing. -/
structure Sound (session : Session) : Prop where
  isOpen : session.isOpen = true
  scripts : ∀ script ∈ session.scripts, script.Sound

namespace Sound

variable {session : Session} (sound : session.Sound)
include sound

theorem scriptAt (place : Nat) : (session.scriptAt place).Sound := by
  unfold Session.scriptAt
  cases found : session.scripts[place]? with
  | none => exact ⟨rfl, rfl, rfl⟩
  | some script => exact sound.scripts script (List.mem_of_getElem? found)

theorem later {after : Session} {count : Nat}
    (later : session.Later after count) : after.Sound where
  isOpen := later.isOpen.trans sound.isOpen
  scripts script member := by
    rw [later.scripts sound.isOpen] at member
    exact sound.scripts script (List.mem_of_mem_drop member)

theorem commits_eq (place : Nat) (readable : Bool) :
    session.commits place readable = readable := by
  obtain ⟨begins, executes, commits⟩ := sound.scriptAt place
  simp [Session.commits, sound.isOpen, begins, executes, commits]

theorem attempt_eq (place : Nat) (statement : Statement) (readable : Bool) :
    session.attempt place statement readable =
      [.begin, .statement statement, if readable then .commit else .rollback] := by
  obtain ⟨begins, executes, commits⟩ := sound.scriptAt place
  cases readable <;>
    simp [attempt, sound.isOpen, Script.conversation, begins, executes, commits]

end Sound

end Session

namespace Simulation.DatabaseWorld

def Deed.statement? : Deed → Option Statement
  | .message (.statement statement) => some statement
  | _ => none

/-- All that a batch sends to a database in statements. -/
def statements (settings : CleanupSettings) (world : DatabaseWorld) :
    List Statement :=
  (runBatch settings watched (world, [])).2.2.filterMap Deed.statement?

/-- What goes out for a statement in a transaction of its own. -/
def transaction (statement : Statement) (ending : Message) : List Deed :=
  [.message .begin, .message (.statement statement), .message ending]

/-- What goes out for a call at a server that fails nothing. -/
def carriedOut : Exchange → List Deed
  | ⟨.deleteObject bucket key, _⟩ => [.delete bucket key]
  | ⟨.claimExpired limit, answer⟩ =>
    transaction (.claimExpired limit) (if answer.isOk then .commit else .rollback)
  | ⟨.releaseStaleClaims age, _⟩ => transaction (.releaseStaleClaims age) .commit
  | ⟨.recordFailedAttempt id, _⟩ => transaction (.recordFailedAttempt id) .commit
  | ⟨.softDelete id, _⟩ => transaction (.softDelete id) .commit

theorem filterMap_carriedOut (exchanges : List Exchange) :
    (exchanges.flatMap carriedOut).filterMap Deed.statement? =
      (exchanges.map Exchange.call).filterMap Call.statement? := by
  induction exchanges with
  | nil => rfl
  | cons exchange exchanges induction =>
      obtain ⟨call, answer⟩ := exchange
      rw [List.flatMap_cons, List.filterMap_append, induction]
      cases call with
      | claimExpired limit => cases answer <;> rfl
      | _ => rfl

variable {world : DatabaseWorld}

theorem later_answer {call : Call} (world : DatabaseWorld)
    (stored : ∀ bucket key, call ≠ .deleteObject bucket key) :
    world.session.Later (answer call world).2.session 1 ∧
      (answer call world).2.storage = world.storage := by
  cases call with
  | deleteObject bucket key => exact absurd rfl (stored bucket key)
  | releaseStaleClaims age =>
      exact ⟨(world.session.passes_releaseStaleClaims age).toLater, rfl⟩
  | claimExpired limit =>
      exact ⟨(world.session.passes_claimExpired limit).toLater, rfl⟩
  | recordFailedAttempt id =>
      exact ⟨(world.session.passes_recordFailedAttempt id).toLater, rfl⟩
  | softDelete id =>
      exact ⟨(world.session.passes_softDelete id).toLater, rfl⟩

theorem sound_tellAll (sound : world.session.Sound) (events : List LogEvent) :
    (backend.tellAll events world).session.Sound := by
  have onward : Onward world world 0 := ⟨⟨rfl, fun _ => rfl⟩, rfl⟩
  exact sound.later (onward.tellAll events).later

theorem sound_answer (sound : world.session.Sound) (call : Call) :
    (answer call world).2.session.Sound := by
  cases call with
  | deleteObject bucket key => exact sound
  | _ => exact sound.later (world.later_answer (by simp)).1

/-- Each call goes out in one transaction of its own, and only a claim whose
rows cannot be read is not committed. -/
theorem deeds_answer (sound : world.session.Sound) (call : Call) :
    world.deeds (answer call world).2 =
      carriedOut ⟨call, (answer call world).1⟩ := by
  cases call with
  | deleteObject bucket key => exact world.deeds_deleteObject bucket key
  | releaseStaleClaims age =>
      have passes := world.session.passes_releaseStaleClaims age
      rw [sound.attempt_eq] at passes
      exact deeds_of_passes passes
  | claimExpired limit =>
      have passes := world.session.passes_claimExpired limit
      have succeeds := world.session.isOk_claimExpired limit
      rw [sound.commits_eq] at succeeds
      rw [sound.attempt_eq, ← succeeds] at passes
      exact deeds_of_passes passes
  | recordFailedAttempt id =>
      have passes := world.session.passes_recordFailedAttempt id
      rw [sound.attempt_eq] at passes
      exact deeds_of_passes passes
  | softDelete id =>
      have passes := world.session.passes_softDelete id
      rw [sound.attempt_eq] at passes
      exact deeds_of_passes passes

/-- What goes out in a batch is what goes out for its calls. -/
theorem run_watched {settings : CleanupSettings} {phase next : Phase}
    {after : DatabaseWorld} {exchanges : List Exchange}
    (talk : Phase.Converses settings backend phase world exchanges next after)
    (sound : world.session.Sound) (seen : List Deed) :
    Phase.run settings watched phase (world, seen) =
      Phase.run settings watched next
        (after, seen ++ exchanges.flatMap carriedOut) := by
  induction talk generalizing seen with
  | silence => rw [List.flatMap_nil, List.append_nil]
  | @exchange phase next request world after exchanges asks _ induction =>
      have told := sound_tellAll sound request.announced
      have done := sound_tellAll (sound_answer told request.call)
      rw [run_answered settings world seen phase asks rfl,
        deeds_answer told request.call, List.flatMap_cons, ← List.append_assoc]
      exact induction (done _) _

end Simulation.DatabaseWorld

end FileCleanup
