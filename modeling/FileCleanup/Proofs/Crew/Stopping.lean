import FileCleanup.Proofs.Crew.Exit

namespace FileCleanup.Simulation.Crew

/-! What a call of stop has achieved when it returns. -/

variable {crew : Crew} {worker call loop : Nat} {stop after : StopCall}
  {action : Action}

/-- What a step does to the list of all calls of stop. -/
inductive Notes (crew : Crew) : Action → List StopCall → Prop
  | same {action : Action} : Notes crew action crew.stops
  | enters {worker : Nat} {taken : Option Nat} :
      Notes crew (.stop worker) (crew.stops ++ [⟨worker, taken, .entered⟩])
  | cancels {call worker loop : Nat}
      (entered : crew.stops[call]? = some ⟨worker, some loop, .entered⟩) :
      Notes crew (.cancelTaken call)
        (crew.stops.set call ⟨worker, some loop, .waiting⟩)
  | leaves {call : Nat} {stop : StopCall}
      (found : crew.stops[call]? = some stop)
      (mayLeave : stop.mayLeave crew.timeline = true) :
      Notes crew (.leave call) (crew.stops.set call { stop with stage := .left })

theorem notes_step (crew : Crew) (action : Action) :
    crew.Notes action (crew.step action).stops := by
  cases action with
  | start worker token =>
      rw [step, stops_start]
      exact .same
  | stop worker =>
      rw [step]
      cases hired : crew.workers[worker]? with
      | none =>
          rw [stop_of_absent hired]
          exact .same
      | some employed =>
          rw [stop_of_found hired]
          exact .enters
  | cancelTaken call =>
      rw [step]
      rcases crew.cancelTaken_eq call with same | ⟨worker, loop, entered⟩
      · rw [same]
        exact .same
      · rw [cancelTaken_of_entered entered]
        exact .cancels entered
  | leave call =>
      rw [step, leave]
      split
      · exact .same
      · rename_i stop found
        split
        · rename_i mayLeave
          exact .leaves found mayLeave
        · exact .same
  | hire | cancel | turn | pass | interfere => exact .same

/-- What a step does to a call of stop. -/
inductive Advances (crew : Crew) (call : Nat) (action : Action)
    (stop : StopCall) : StopCall → Prop
  | stays : Advances crew call action stop stop
  | cancels (stage : stop.stage = .entered) :
      Advances crew call action stop { stop with stage := .waiting }
  | leaves (mayLeave : stop.mayLeave crew.timeline = true) :
      Advances crew call action stop { stop with stage := .left }

theorem exists_advances (found : crew.stops[call]? = some stop)
    (action : Action) :
    ∃ after, (crew.step action).stops[call]? = some after ∧
      crew.Advances call action stop after := by
  obtain ⟨bound, _⟩ := List.getElem?_eq_some_iff.mp found
  have notes := crew.notes_step action
  generalize (crew.step action).stops = stops at notes ⊢
  cases notes with
  | same => exact ⟨stop, found, .stays⟩
  | enters => exact ⟨stop, (List.getElem?_append_left bound).trans found, .stays⟩
  | @cancels other _ _ entered =>
      by_cases same : other = call
      · subst same
        rw [found] at entered
        cases entered
        exact ⟨_, List.getElem?_set_self bound, .cancels rfl⟩
      · exact ⟨stop, (List.getElem?_set_ne same).trans found, .stays⟩
  | @leaves other _ leaving mayLeave =>
      by_cases same : other = call
      · subst same
        rw [found] at leaving
        cases leaving
        exact ⟨_, List.getElem?_set_self bound, .leaves mayLeave⟩
      · exact ⟨stop, (List.getElem?_set_ne same).trans found, .stays⟩

theorem entered_of_missing (missing : crew.stops[call]? = none)
    (found : (crew.step action).stops[call]? = some after) :
    after.stage = .entered := by
  have notes := crew.notes_step action
  generalize (crew.step action).stops = stops at notes found
  cases notes with
  | same =>
      rw [missing] at found
      cases found
  | enters =>
      rw [getElem?_concat_eq_some_iff, missing] at found
      rcases found with old | ⟨_, rfl⟩
      · cases old
      · rfl
  | cancels | leaves =>
      rw [List.getElem?_eq_none_iff, ← List.length_set,
        ← List.getElem?_eq_none_iff] at missing
      rw [missing] at found
      cases found

theorem Advances.exists_stage
    (advances : crew.Advances call action stop after) :
    ∃ stage, after = { stop with stage } := by
  cases advances <;> exact ⟨_, rfl⟩

/-- A call keeps the loop that it has taken. -/
theorem exists_stage_run (found : crew.stops[call]? = some stop)
    (actions : List Action) :
    ∃ stage, (crew.run actions).stops[call]? = some { stop with stage } := by
  induction actions generalizing crew stop with
  | nil => exact ⟨stop.stage, found⟩
  | cons action actions induction =>
      obtain ⟨next, foundNext, advances⟩ := exists_advances found action
      obtain ⟨stage, rfl⟩ := advances.exists_stage
      have later := induction foundNext
      exact later

theorem ended_of_mayLeave (mayLeave : stop.mayLeave crew.timeline = true)
    (taken : stop.taken = some loop)
    (bound : loop < crew.timeline.loops.length) : crew.Ended loop := by
  obtain ⟨worker, _, stage⟩ := stop
  cases taken
  cases stage with
  | entered | left => cases mayLeave
  | waiting =>
      refine ⟨_, List.getElem?_eq_getElem bound, ?_⟩
      simp only [StopCall.mayLeave, Timeline.hasStopped,
        List.getElem?_eq_getElem bound] at mayLeave
      generalize crew.timeline.loops[loop] = held at mayLeave ⊢
      cases active : held.activity with
      | stopped => rfl
      | starting | waiting | deleting =>
          simp [Loop.isStopped, active] at mayLeave

/-- Of the stops that have left, those that had taken a loop have seen it
end. -/
def Awaited (crew : Crew) : Prop :=
  ∀ (call : Nat) (stop : StopCall) (loop : Nat),
    crew.stops[call]? = some stop → stop.taken = some loop →
      stop.stage = .left → crew.Ended loop

theorem Awaited.step (awaited : crew.Awaited) (wellRun : crew.WellRun)
    (action : Action) : (crew.step action).Awaited := by
  intro call after loop foundAfter taken left
  cases found : crew.stops[call]? with
  | none =>
      rw [entered_of_missing found foundAfter] at left
      cases left
  | some stop =>
      obtain ⟨same, foundSame, advances⟩ := exists_advances found action
      rw [foundAfter] at foundSame
      cases foundSame
      cases advances with
      | stays => exact (awaited call _ loop found taken left).step action
      | cancels => cases left
      | leaves mayLeave =>
          have owns : crew.Owns stop.worker loop :=
            wellRun.takes stop.worker call loop ⟨stop.stage, by
              rw [found, ← show stop.taken = some loop from taken]⟩
          obtain ⟨bound, _⟩ := List.getElem?_eq_some_iff.mp owns
          rw [wellRun.owners] at bound
          exact (ended_of_mayLeave mayLeave taken bound).step action

theorem Awaited.run (awaited : crew.Awaited) (wellRun : crew.WellRun)
    (actions : List Action) : (crew.run actions).Awaited := by
  induction actions generalizing crew with
  | nil => exact awaited
  | cons action actions induction =>
      exact induction (awaited.step wellRun action) (wellRun.step action)

theorem Reached.awaited (reached : crew.Reached) : crew.Awaited := by
  obtain ⟨world, actions, rfl⟩ := reached
  refine Awaited.run ?_ (wellRun_ofWorld world) actions
  intro call stop loop found
  cases found

/-- The call returns when it is its turn. -/
def Returns (crew : Crew) (call : Nat) : Prop :=
  ∃ stop, crew.stops[call]? = some stop ∧ stop.mayLeave crew.timeline = true

theorem Returns.left (returns : crew.Returns call)
    (found : crew.stops[call]? = some stop) :
    (crew.step (.leave call)).stops[call]? =
      some { stop with stage := .left } := by
  obtain ⟨same, foundSame, mayLeave⟩ := returns
  rw [found] at foundSame
  cases foundSame
  obtain ⟨bound, _⟩ := List.getElem?_eq_some_iff.mp found
  rw [step, leave_of_found found mayLeave]
  exact List.getElem?_set_self bound

theorem WellRun.exists_worker (wellRun : crew.WellRun)
    (started : true ∈ crew.answers worker) :
    ∃ employed loop, crew.workers[worker]? = some employed ∧
      crew.Owns worker loop := by
  rcases wellRun.fresh_or_employed worker with
    ⟨_, unanswered, _⟩ | ⟨begun, loop, employs⟩
  · rw [unanswered] at started
    cases started
  · cases found : crew.workers[worker]? with
    | none =>
        rw [gate, found] at begun
        cases begun
    | some employed => exact ⟨employed, loop, rfl, employs.owns⟩

/-- When a call of stop returns that was made after the worker had been started,
the worker has exited and is silent for ever; or else the call has found the
slot empty, and the earlier stop that has the loop has yet to return. -/
theorem stop_returns {crew : Crew} (reached : crew.Reached) {worker : Nat}
    (started : true ∈ crew.answers worker) (middle : List Action)
    (returns : (crew.run (.stop worker :: middle)).Returns crew.stops.length) :
    let call := crew.stops.length
    let returned := crew.run (.stop worker :: middle ++ [.leave call])
    returned.Exited worker ∧ (∀ later, returned.Silent worker later) ∨
      returned.stops[call]? = some ⟨worker, none, .left⟩ ∧
        ∃ earlier < call, ∃ loop stage, stage ≠ .left ∧
          returned.stops[earlier]? = some ⟨worker, some loop, stage⟩ := by
  intro call returned
  have wellRun := reached.wellRun
  obtain ⟨employed, loop, hired, owns⟩ := wellRun.exists_worker started
  have reachedLater : returned.Reached := by
    obtain ⟨world, actions, rfl⟩ := reached
    exact ⟨world, _, run_append ..⟩
  have exited (ended : returned.Ended loop) :
      returned.Exited worker ∧ ∀ later, returned.Silent worker later := by
    have exited : returned.Exited worker := ⟨loop, owns.run _, ended⟩
    exact ⟨exited, exited.silent reachedLater.wellRun⟩
  have entered : (crew.step (.stop worker)).stops[call]? =
      some ⟨worker, employed.gate.running, .entered⟩ := by
    rw [step, stop_of_found hired]
    exact List.getElem?_concat_length
  obtain ⟨stage, found⟩ := exists_stage_run entered middle
  have left : returned.stops[call]? =
      some ⟨worker, employed.gate.running, .left⟩ := by
    simp only [returned, run_append]
    exact returns.left found
  rcases wellRun.slot_or_stop owns with ⟨held, _⟩ | ⟨empty, earlier, takes, _⟩
  · rw [gate_of_found hired] at held
    exact .inl (exited (reachedLater.awaited call _ loop left held rfl))
  · rw [gate_of_found hired] at empty
    -- The stop that has emptied the slot may itself be waiting still.
    obtain ⟨begun, foundEarlier⟩ := takes
    obtain ⟨bound, _⟩ := List.getElem?_eq_some_iff.mp foundEarlier
    obtain ⟨come, foundLater⟩ := exists_stage_run foundEarlier
      (.stop worker :: middle ++ [.leave call])
    by_cases gone : come = .left
    · have ended := reachedLater.awaited earlier _ loop foundLater rfl gone
      exact .inl (exited ended)
    · rw [empty] at left
      exact .inr ⟨left, earlier, bound, loop, come, gone, foundLater⟩

def Sample.busy : Crew := (ofWorld (slow 60000)).run working

/-- The first stop waits for the batch. -/
theorem stop_returns_sample :
    true ∈ Sample.busy.answers 0 ∧
      (Sample.busy.run (.stop 0 :: .cancelTaken 0 :: Sample.goingOn)).Returns 0 ∧
      ∀ later, (Sample.busy.run (.stop 0 :: .cancelTaken 0 :: Sample.goingOn ++
        [.leave 0])).Silent 0 later := by
  have answers : Sample.busy.answers 0 = [true] := rfl
  have stops : Sample.busy.stops.length = 0 := rfl
  have reached : Sample.busy.Reached := ⟨_, _, rfl⟩
  have started : true ∈ Sample.busy.answers 0 := by simp [answers]
  have returns : (Sample.busy.run
      (.stop 0 :: .cancelTaken 0 :: Sample.goingOn)).Returns 0 :=
    ⟨⟨0, some 0, .waiting⟩, rfl, by decide +kernel⟩
  refine ⟨started, returns, ?_⟩
  rw [← stops] at returns
  rcases stop_returns reached started _ returns with
    ⟨_, silent⟩ | ⟨_, earlier, bound, _⟩
  · rwa [stops] at silent
  · rw [stops] at bound
    cases bound

/-- A stop waits for the batch. -/
def Sample.awaiting : List Action := working ++ [.stop 0, .cancelTaken 0]

/-- A second stop does not wait for the batch that the first one waits for. -/
theorem overlapping_stop_unawaited :
    ¬∀ (world : World) (first middle later : List Action) (worker : Nat),
      let crew := (ofWorld world).run first
      let call := crew.stops.length
      true ∈ crew.answers worker →
      (crew.run (.stop worker :: middle)).Returns call →
        let returned := crew.run (.stop worker :: middle ++ [.leave call])
        returned.Exited worker ∧ returned.Silent worker later := by
  intro awaited
  have stops : ((ofWorld (Sample.slow 60000)).run Sample.awaiting).stops.length =
      1 := rfl
  have answers : ((ofWorld (Sample.slow 60000)).run Sample.awaiting).answers 0 =
      [true] := rfl
  have returns : (((ofWorld (Sample.slow 60000)).run Sample.awaiting).run
      [.stop 0]).Returns 1 := ⟨⟨0, none, .entered⟩, rfl, rfl⟩
  -- The delete is over after the second stop has returned.
  have deeds : ((((ofWorld (Sample.slow 60000)).run Sample.awaiting).run
      [.stop 0, .leave 1]).history 0 Sample.goingOn).length = 3 := by decide +kernel
  have claimed := awaited (Sample.slow 60000) Sample.awaiting [] Sample.goingOn 0
  simp only [stops, answers, List.cons_append, List.nil_append] at claimed
  have silent := (claimed (by simp) returns).2.1
  rw [silent] at deeds
  cases deeds

end FileCleanup.Simulation.Crew
