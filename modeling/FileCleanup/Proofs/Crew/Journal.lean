import FileCleanup.Proofs.Crew.Deeds

namespace FileCleanup

def Call.isStored : Call → Bool
  | .deleteObject _ _ => false
  | _ => true

/-- The address of the object that a call deletes. -/
def Call.address? : Call → Option (String × String)
  | .deleteObject bucket key => some (bucket, key)
  | _ => none

/-- The objects whose deletes are over, by their addresses. -/
def deleted (exchanges : List Exchange) : List (String × String) :=
  exchanges.filterMap fun exchange => exchange.call.address?

@[simp] theorem deleted_append (earlier later : List Exchange) :
    deleted (earlier ++ later) = deleted earlier ++ deleted later :=
  List.filterMap_append

theorem deleted_cons (exchange : Exchange) (exchanges : List Exchange) :
    deleted (exchange :: exchanges) =
      exchange.call.address?.toList ++ deleted exchanges := by
  unfold deleted
  cases addressed : exchange.call.address? with
  | none => exact List.filterMap_cons_none addressed
  | some address => exact List.filterMap_cons_some addressed

theorem Phase.stored_of_request {settings : CleanupSettings} {phase : Phase}
    {request : Request} (asks : phase.due settings = .inr request)
    (other : ∀ file rest result, phase ≠ .deleting file rest result) :
    ∀ bucket key, request.call ≠ .deleteObject bucket key := by
  cases phase with
  | deleting file rest result => exact absurd rfl (other _ _ _)
  | finished outcome => cases asks
  | _ =>
      cases asks
      simp

namespace Simulation

/-! What the calls of a loop do to the world, one after the other, and what its
journal takes up of them. -/

/-- Something that happens to a world at one instant, step by step: deletes of
objects are begun at the addresses `begun`, and `exchanges` are spoken.  A delete
is spoken of when it is over. -/
inductive World.Hears :
    World → List (String × String) → List Exchange → World → Prop
  | silence (world : World) : Hears world [] [] world
  | told (event : LogEvent) (world : World) :
      Hears world [] [] (world.tell event)
  | answered {call : Call} (world : World)
      (stored : ∀ bucket key, call ≠ .deleteObject bucket key) :
      Hears world [] [⟨call, (answer call world).1⟩] (answer call world).2
  | begun (world : World) (bucket key : String) :
      Hears world [(bucket, key)] [] (world.beginDelete bucket key)
  | ended (world : World) (bucket key : String) :
      Hears world []
        [⟨.deleteObject bucket key, (world.finishDelete bucket key).1⟩]
        (world.finishDelete bucket key).2
  | trans {first second third : World}
      {begun begunLater : List (String × String)}
      {exchanges later : List Exchange}
      (left : Hears first begun exchanges second)
      (right : Hears second begunLater later third) :
      Hears first (begun ++ begunLater) (exchanges ++ later) third

namespace World

/-- No time has passed, deletes take as long as before, and the record store has
not been called. -/
structure Still (before after : World) : Prop where
  clock : after.clock = before.clock
  delay : after.objects.delay = before.objects.delay
  calls : after.journal.calls = before.journal.calls

theorem still_beginDelete (world : World) (bucket key : String) :
    Still world (world.beginDelete bucket key) := by
  unfold beginDelete
  split <;> exact ⟨rfl, rfl, rfl⟩

theorem still_finishDelete (world : World) (bucket key : String) :
    Still world (world.finishDelete bucket key).2 := by
  have told (events : List LogEvent) {objects : ObjectStore}
      (delay : objects.delay = world.objects.delay) :
      Still world (backend.tellAll events { world with objects }) := by
    rw [tellAll_eq]
    exact ⟨rfl, delay, rfl⟩
  unfold finishDelete
  split
  · rename_i storage memory
    refine ⟨rfl, ?_, rfl⟩
    simp only [memory, ObjectStore.delay, MemoryStorage.delete]
    split <;> rfl
  · rename_i storage directory
    exact told _ (by rw [directory]; rfl)
  · rename_i buckets service
    exact told _ (by rw [service]; rfl)

private theorem calls_storeAnswer {Value : Type} (world : World) (call : Call)
    (result : Except StoreProblem (Value × RecordStore)) :
    ((world.noteCall call).storeAnswer result).2.journal.calls =
      world.journal.calls.push call := by
  cases result <;> rfl

theorem calls_answer {call : Call} (world : World)
    (stored : ∀ bucket key, call ≠ .deleteObject bucket key) :
    (answer call world).2.journal.calls = world.journal.calls.push call := by
  cases call with
  | deleteObject bucket key => exact absurd rfl (stored bucket key)
  | _ => exact calls_storeAnswer ..

namespace Hears

variable {before after : World} {begun : List (String × String)}
  {exchanges : List Exchange} (heard : Hears before begun exchanges after)
include heard

theorem clock : after.clock = before.clock := by
  induction heard with
  | silence | told => rfl
  | answered world stored => exact (beside_answer world stored).clock
  | begun world bucket key => exact (world.still_beginDelete bucket key).clock
  | ended world bucket key => exact (world.still_finishDelete bucket key).clock
  | trans _ _ left right => exact right.trans left

theorem delay : after.objects.delay = before.objects.delay := by
  induction heard with
  | silence | told => rfl
  | answered world stored =>
      exact congrArg ObjectStore.delay (beside_answer world stored).objects
  | begun world bucket key => exact (world.still_beginDelete bucket key).delay
  | ended world bucket key => exact (world.still_finishDelete bucket key).delay
  | trans _ _ left right => exact right.trans left

/-- The journal takes up the calls of the record store. -/
theorem calls : after.journal.calls.toList = before.journal.calls.toList ++
    (exchanges.map Exchange.call).filter Call.isStored := by
  induction heard with
  | silence | told => exact (List.append_nil _).symm
  | @answered call world stored =>
      have isStored : call.isStored = true := by
        cases call with
        | deleteObject bucket key => exact absurd rfl (stored bucket key)
        | _ => rfl
      simp [calls_answer world stored, isStored]
  | begun world bucket key =>
      rw [(world.still_beginDelete bucket key).calls]
      exact (List.append_nil _).symm
  | ended world bucket key =>
      rw [(world.still_finishDelete bucket key).calls]
      exact (List.append_nil _).symm
  | trans _ _ left right =>
      rw [right, left, List.map_append, List.filter_append, List.append_assoc]

theorem inMemory (memory : before.InMemory) : after.InMemory := by
  induction heard with
  | silence | told => exact memory
  | answered world stored =>
      exact memory.of_objects_eq (beside_answer world stored).objects
  | begun world bucket key =>
      exact memory.of_objects_eq (world.objects_beginDelete bucket key)
  | ended world bucket key => exact memory.finishDelete
  | trans _ _ left right => exact right (left memory)

/-- Where the objects are kept in memory, the journal takes up the deletes that
are begun. -/
theorem deletes (memory : before.InMemory) :
    after.journal.deletes.toList = before.journal.deletes.toList ++ begun := by
  induction heard with
  | silence | told => exact (List.append_nil _).symm
  | answered world stored =>
      rw [(beside_answer world stored).deletes]
      exact (List.append_nil _).symm
  | begun world bucket key => simp [deletes_beginDelete memory bucket key]
  | ended world bucket key =>
      rw [deletes_finishDelete memory bucket key]
      exact (List.append_nil _).symm
  | trans earlier _ left right =>
      rw [right (earlier.inMemory memory), left memory, List.append_assoc]

end Hears

theorem hears_tellAll (events : List LogEvent) (world : World) :
    Hears world [] [] (backend.tellAll events world) := by
  induction events generalizing world with
  | nil => exact .silence world
  | cons event events induction => exact .trans (.told event world) (induction _)

/-- A delete that takes no time is begun and over at once. -/
theorem hears_deleteObject (world : World) (instant : world.objects.delay = 0)
    (bucket key : String) :
    Hears world [(bucket, key)]
      [⟨.deleteObject bucket key, (world.deleteObject bucket key).1⟩]
      (world.deleteObject bucket key).2 := by
  have begins := Hears.begun world bucket key
  have ends := Hears.ended (world.beginDelete bucket key) bucket key
  have undelayed : (world.beginDelete bucket key).objects.delay = 0 :=
    begins.delay.trans instant
  simp only [deleteObject, undelayed, Nat.add_zero]
  exact begins.trans ends

theorem hears_perform {request : Phase.Request} {world : World}
    (instant : world.objects.delay = 0 ∨
      ∀ bucket key, request.call ≠ .deleteObject bucket key) :
    Hears world request.call.address?.toList
      [⟨request.call, request.answered backend world⟩]
      (request.perform backend world).2 := by
  have announced := hears_tellAll request.announced world
  have answered : Hears (backend.tellAll request.announced world)
      request.call.address?.toList
      [⟨request.call, request.answered backend world⟩]
      (answer request.call (backend.tellAll request.announced world)).2 := by
    obtain ⟨call, events, resume⟩ := request
    cases call with
    | deleteObject bucket key =>
        rcases instant with instant | stored
        · exact hears_deleteObject _ (announced.delay.trans instant) bucket key
        · exact absurd rfl (stored bucket key)
    | _ => exact .answered _ (by simp)
  rw [← List.append_nil request.call.address?.toList]
  exact (announced.trans answered).trans (hears_tellAll _ _)

end World

/-- The object whose delete goes on when a batch comes to `progress`. -/
def Progress.asked : Progress → List (String × String)
  | .finished _ => []
  | .asleep _ file _ _ => [file.address]

namespace World

/-- A batch speaks of each delete that it begins, up to one that takes time. -/
theorem hears_proceed (settings : CleanupSettings) (phase : Phase)
    (world : World) :
    Hears world
      (deleted (said settings phase world) ++
        (proceed settings phase world).1.asked)
      (said settings phase world) (proceed settings phase world).2 := by
  induction phase, world using @proceed_induction settings with
  | finished outcome world =>
      rw [said_finished, proceed_finished]
      exact .silence world
  | @asleep world file rest result slow =>
      rw [said_asleep slow, proceed_asleep slow]
      exact (hears_tellAll [.deletingFile file] world).trans
        (.begun _ file.bucket file.storageKey)
  | calls asks awake induction =>
      rw [said_of_request asks awake, proceed_of_request asks awake,
        deleted_cons, List.append_assoc]
      have performs := hears_perform
        (awake.imp_right (Phase.stored_of_request asks))
      exact performs.trans induction

/-- A batch that goes on after a delete has begun this one already. -/
theorem hears_wakeUp (settings : CleanupSettings) (file : FileRecord)
    (rest : List FileRecord) (result : BatchResult) (world : World) :
    ∃ begun,
      Hears world begun (saidAwake settings file rest result world)
        (wakeUp settings file rest result world).2 ∧
      file.address :: begun =
        deleted (saidAwake settings file rest result world) ++
          (wakeUp settings file rest result world).1.asked := by
  have finishes := Hears.ended world file.bucket file.storageKey
  unfold saidAwake wakeUp
  generalize world.finishDelete file.bucket file.storageKey = finished
    at finishes ⊢
  obtain ⟨answer, woken⟩ := finished
  cases answer with
  | ok => exact ⟨_, finishes.trans (hears_proceed settings _ woken), rfl⟩
  | error cause =>
      exact ⟨_, finishes.trans (hears_proceed settings _ woken), rfl⟩

end World

end Simulation

end FileCleanup
