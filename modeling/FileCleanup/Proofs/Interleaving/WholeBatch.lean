import FileCleanup.Proofs.Batch.Run
import FileCleanup.Proofs.Interleaving.Run

namespace FileCleanup.Simulation.Interleaving

open Time

/-! A batch that is left to itself is one of the interleavings: its calls are
moves, and so is the time that its deletes take. -/

variable {settings : CleanupSettings} {state : Interleaving} {index : Nat}

theorem step_proceed (state : Interleaving) {flight : Flight}
    (found : state.flights[index]? = some flight) :
    state.step (.proceed index) =
      ⟨(flight.step state.world).2,
        state.flights.set index (flight.step state.world).1⟩ := by
  simp [step, found]

theorem getElem?_set_found {Item : Type} {items : List Item} {item : Item}
    (found : items[index]? = some item) (later : Item) :
    (items.set index later)[index]? = some later := by
  obtain ⟨bound, _⟩ := List.getElem?_eq_some_iff.mp found
  exact List.getElem?_set_self bound

/-- A delete whose time passes between its two moves. -/
private theorem exists_run_delete {file : FileRecord} {rest : List FileRecord}
    {result : BatchResult}
    (found : state.flights[index]? =
      some ⟨settings, .between (.deleting file rest result)⟩) :
    let deletion := Phase.step settings World.backend
      (.deleting file rest result) state.world
    ∃ moves, Unaided moves ∧ state.run moves =
      ⟨deletion.2, state.flights.set index ⟨settings, .between deletion.1⟩⟩ := by
  intro deletion
  let begun := (state.world.tell (.deletingFile file)).beginDelete file.bucket
    file.storageKey
  let ended := { begun with clock := begun.clock + begun.objects.delay }
  let asleep : Flight := ⟨settings, .deleting file rest result⟩
  refine ⟨[.proceed index, .passTime ended.origin ended.clock, .proceed index],
    ⟨by simp, by simp⟩, ?_⟩
  have begins : state.step (.proceed index) =
      ⟨begun, state.flights.set index asleep⟩ := step_proceed _ found
  have passes : step ⟨begun, state.flights.set index asleep⟩
      (.passTime ended.origin ended.clock) =
      ⟨ended, state.flights.set index asleep⟩ := rfl
  have still : (Interleaving.mk ended
      (state.flights.set index asleep)).flights[index]? = some asleep :=
    getElem?_set_found found asleep
  have runs : state.run
      [.proceed index, .passTime ended.origin ended.clock, .proceed index] =
      ⟨(ended.finishDelete file.bucket file.storageKey).2,
        state.flights.set index ⟨settings, .afterDelete file rest result
          (ended.finishDelete file.bucket file.storageKey).1⟩⟩ := by
    simp only [run, List.foldl_cons, List.foldl_nil, begins, passes,
      step_proceed _ still, List.set_set]
    rfl
  have answered : World.backend.answer
      (.deleteObject file.bucket file.storageKey)
      (World.backend.tellAll [.deletingFile file] state.world) =
      ended.finishDelete file.bucket file.storageKey := rfl
  rw [runs]
  simp only [deletion, Phase.step, Phase.due, Phase.Request.perform, answered]
  cases (ended.finishDelete file.bucket file.storageKey).1 <;> rfl

theorem exists_run_step (state : Interleaving) {phase : Phase}
    {request : Phase.Request}
    (found : state.flights[index]? = some ⟨settings, .between phase⟩)
    (asks : phase.due settings = .inr request) :
    ∃ moves, Unaided moves ∧ state.run moves =
      ⟨(request.perform World.backend state.world).2,
        state.flights.set index ⟨settings,
          .between (request.perform World.backend state.world).1⟩⟩ := by
  have single (stored : ∀ bucket key, request.call ≠ .deleteObject bucket key) :
      state.run [.proceed index] =
        ⟨(request.perform World.backend state.world).2,
          state.flights.set index ⟨settings,
            .between (request.perform World.backend state.world).1⟩⟩ := by
    change state.step (.proceed index) = _
    rw [step_proceed _ found, Flight.step_of_request asks stored]
  cases phase with
  | deleting file rest result =>
      cases asks
      exact exists_run_delete found
  | finished outcome => cases asks
  | _ =>
      cases asks
      exact ⟨[.proceed index], ⟨by simp, by simp⟩, single (by simp)⟩

theorem exists_run_phase {phase : Phase} (world : World)
    {flights : List Flight}
    (found : flights[index]? = some ⟨settings, .between phase⟩) :
    ∃ moves, Unaided moves ∧ run ⟨world, flights⟩ moves =
      ⟨(Phase.run settings World.backend phase world).2,
        flights.set index ⟨settings,
          .between (.finished
            (Phase.run settings World.backend phase world).1)⟩⟩ := by
  induction phase, world using Phase.run.induct settings World.backend
    generalizing flights with
  | case1 phase world outcome ends =>
      refine ⟨[], ⟨nofun, nofun⟩, ?_⟩
      cases phase <;> cases ends
      rw [Phase.run_finished]
      obtain ⟨bound, here⟩ := List.getElem?_eq_some_iff.mp found
      simp only [run, List.foldl_nil, ← here, List.set_getElem_self]
  | case2 phase world request asks next =>
      rename_i induction
      obtain ⟨first, firstUnaided, steps⟩ :=
        exists_run_step ⟨world, flights⟩ found asks
      obtain ⟨rest, restUnaided, runs⟩ :=
        induction (getElem?_set_found found _)
      refine ⟨first ++ rest, firstUnaided.append restUnaided, ?_⟩
      rw [run_append, steps, runs, List.set_set, Phase.run_of_request asks]

theorem exists_run_eq_runBatch (settings : CleanupSettings) (world : World) :
    ∃ moves, Unaided moves ∧ (ofBatch settings world).run moves =
      ⟨(runBatch settings World.backend world).2,
        [⟨settings, .between
          (.finished (runBatch settings World.backend world).1)⟩]⟩ := by
  have found : [Flight.launched settings][0]? =
      some ⟨settings, .between .releasing⟩ := rfl
  exact exists_run_phase world found

end FileCleanup.Simulation.Interleaving
