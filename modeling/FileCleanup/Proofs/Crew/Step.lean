import FileCleanup.Proofs.Crew.Turn

namespace FileCleanup.Simulation

/-! One step of a crew: what it does to one of the loops. -/

namespace Timeline

variable {timeline : Timeline} {index : Nat} {loop : Loop}

theorem getElem?_cancelLoops (found : timeline.loops[index]? = some loop)
    (chosen : Nat → Loop → Bool) :
    (timeline.cancelLoops chosen).loops[index]? = some
      (if chosen index loop then { loop with cancelled := true } else loop) := by
  simp [cancelLoops, found]

theorem ready_cancelLoops (chosen : Nat → Loop → Bool)
    (ready : index ∈ timeline.ready) :
    index ∈ (timeline.cancelLoops chosen).ready :=
  List.mem_append_left _ ready

theorem ready_of_woken (found : timeline.loops[index]? = some loop)
    {chosen : Nat → Loop → Bool} (woken : chosen index loop = true)
    (waiting : loop.isWaiting = true) :
    index ∈ (timeline.cancelLoops chosen).ready := by
  by_cases ready : index ∈ timeline.ready
  · exact ready_cancelLoops chosen ready
  · apply List.mem_append_right
    refine List.mem_map.mpr ⟨(loop, index), List.mem_filter.mpr ⟨?_, ?_⟩, rfl⟩
    · exact List.mem_zipIdx_iff_getElem?.mpr found
    · simp [woken, waiting, ready]

theorem ready_reach (found : timeline.loops[index]? = some loop) {ending time : Nat}
    (timer : loop.timer? = some ending) (ends : ending ≤ time) :
    index ∈ (timeline.reach time).ready := by
  apply List.mem_append_right
  refine List.mem_map.mpr ⟨(loop, index), List.mem_mergeSort.mpr ?_, rfl⟩
  refine List.mem_filter.mpr ⟨List.mem_zipIdx_iff_getElem?.mpr found, ?_⟩
  simp [timer, ends]

theorem mayPass_iff {clock : Nat} : timeline.mayPass clock = true ↔
    timeline.ready = [] ∧ timeline.world.clock ≤ clock ∧
      ∀ ending ∈ timeline.loops.filterMap Loop.timer?, clock ≤ ending := by
  simp only [mayPass, Bool.and_eq_true, List.isEmpty_iff, List.all_eq_true,
    decide_eq_true_eq, and_assoc]

theorem turn_of_ready (found : timeline.loops[index]? = some loop)
    (ready : index ∈ timeline.ready) :
    timeline.turn index = { timeline with
      world := (loop.run timeline.tickets timeline.world).2
      loops := timeline.loops.set index
        (loop.run timeline.tickets timeline.world).1
      ready := timeline.ready.erase index
      tickets := timeline.tickets + 1 } := by
  simp only [turn, if_pos ready, runLoop, found]

theorem turn_of_unready (unready : index ∉ timeline.ready) :
    timeline.turn index = timeline := if_neg unready

theorem turn_of_missing (missing : timeline.loops[index]? = none)
    (ready : index ∈ timeline.ready) :
    timeline.turn index =
      { timeline with ready := timeline.ready.erase index } := by
  simp only [turn, if_pos ready, runLoop, missing]

theorem clock_turn (timeline : Timeline) (index : Nat) :
    (timeline.turn index).world.clock = timeline.world.clock := by
  by_cases ready : index ∈ timeline.ready
  · cases found : timeline.loops[index]? with
    | none => rw [turn_of_missing found ready]
    | some loop =>
        rw [turn_of_ready found ready]
        exact loop.clock_run ..
  · rw [turn_of_unready ready]

theorem length_turn (timeline : Timeline) (index : Nat) :
    (timeline.turn index).loops.length = timeline.loops.length := by
  by_cases ready : index ∈ timeline.ready
  · cases found : timeline.loops[index]? with
    | none => rw [turn_of_missing found ready]
    | some loop =>
        rw [turn_of_ready found ready]
        exact List.length_set
  · rw [turn_of_unready ready]

theorem getElem?_turn {other : Nat} (different : other ≠ index) :
    (timeline.turn other).loops[index]? = timeline.loops[index]? := by
  by_cases ready : other ∈ timeline.ready
  · cases found : timeline.loops[other]? with
    | none => rw [turn_of_missing found ready]
    | some runner =>
        rw [turn_of_ready found ready]
        exact List.getElem?_set_ne different
  · rw [turn_of_unready ready]

theorem ready_turn (ready : index ∈ timeline.ready) {other : Nat}
    (different : other ≠ index) : index ∈ (timeline.turn other).ready := by
  have kept : index ∈ timeline.ready.erase other :=
    (List.mem_erase_of_ne (Ne.symm different)).mpr ready
  by_cases turns : other ∈ timeline.ready
  · cases found : timeline.loops[other]? with
    | none => rwa [turn_of_missing found turns]
    | some runner => rwa [turn_of_ready found turns]
  · rwa [turn_of_unready turns]

end Timeline

namespace Crew

variable {crew : Crew}

section Callers

variable {worker call : Nat} {token : String} {employed : Worker}

theorem start_of_absent (absent : crew.workers[worker]? = none) :
    crew.start worker token = crew := by
  simp only [start, absent]

theorem start_of_fresh (found : crew.workers[worker]? = some employed)
    (fresh : employed.gate.started = false) :
    crew.start worker token = { crew with
      timeline := crew.timeline.spawn employed.settings token
      workers := crew.workers.set worker
        { employed with gate := ⟨true, some crew.timeline.loops.length⟩ }
      owners := crew.owners ++ [worker]
      starts := crew.starts ++ [(worker, true)] } := by
  simp [start, found, Gate.start, fresh]

theorem start_of_started (found : crew.workers[worker]? = some employed)
    (started : employed.gate.started = true) :
    crew.start worker token = { crew with
      timeline := crew.timeline.tell .workerAlreadyStarted
      starts := crew.starts ++ [(worker, false)] } := by
  have same : crew.workers.set worker employed = crew.workers := by
    obtain ⟨bound, here⟩ := List.getElem?_eq_some_iff.mp found
    rw [← here, List.set_getElem_self]
  simp [start, found, Gate.start, started, same]

theorem stop_of_absent (absent : crew.workers[worker]? = none) :
    crew.stop worker = crew := by
  simp only [stop, absent]

theorem stop_of_found (found : crew.workers[worker]? = some employed) :
    crew.stop worker = { crew with
      workers := crew.workers.set worker
        { employed with gate := { employed.gate with running := none } }
      stops := crew.stops ++ [⟨worker, employed.gate.running, .entered⟩] } := by
  simp [stop, found, Gate.takeRunning]

theorem cancelTaken_of_entered {loop : Nat}
    (found : crew.stops[call]? = some ⟨worker, some loop, .entered⟩) :
    crew.cancelTaken call = { crew with
      timeline := crew.timeline.cancelLoops fun index _ => index = loop
      stops := crew.stops.set call ⟨worker, some loop, .waiting⟩ } := by
  simp only [cancelTaken, found]

/-- A stop cancels nothing but the loop that it has taken, and that once. -/
theorem cancelTaken_eq (crew : Crew) (call : Nat) :
    crew.cancelTaken call = crew ∨ ∃ worker loop,
      crew.stops[call]? = some ⟨worker, some loop, .entered⟩ := by
  unfold cancelTaken
  split
  · rename_i worker loop found
    exact .inr ⟨worker, loop, found⟩
  · exact .inl rfl

theorem leave_of_found {stop : StopCall} (found : crew.stops[call]? = some stop)
    (mayLeave : stop.mayLeave crew.timeline = true) :
    crew.leave call =
      { crew with stops := crew.stops.set call { stop with stage := .left } } := by
  simp only [leave, found, if_pos mayLeave]

/-- A stop that leaves makes a note of it, and nothing else. -/
theorem leave_eq (crew : Crew) (call : Nat) :
    ∃ stops, crew.leave call = { crew with stops } := by
  unfold leave
  split
  · exact ⟨crew.stops, rfl⟩
  · split
    · exact ⟨_, rfl⟩
    · exact ⟨crew.stops, rfl⟩

theorem timeline_leave (crew : Crew) (call : Nat) :
    (crew.leave call).timeline = crew.timeline := by
  obtain ⟨stops, leaves⟩ := crew.leave_eq call
  rw [leaves]

theorem timeline_stop (crew : Crew) (worker : Nat) :
    (crew.stop worker).timeline = crew.timeline := by
  cases found : crew.workers[worker]? with
  | none => rw [stop_of_absent found]
  | some employed => rw [stop_of_found found]

theorem stops_start (crew : Crew) (worker : Nat) (token : String) :
    (crew.start worker token).stops = crew.stops := by
  cases found : crew.workers[worker]? with
  | none => rw [start_of_absent found]
  | some employed =>
      cases started : employed.gate.started with
      | true => rw [start_of_started found started]
      | false => rw [start_of_fresh found started]

/-- A start lets a loop go, or tells that it does not. -/
theorem timeline_start (crew : Crew) (worker : Nat) (token : String) :
    (crew.start worker token).timeline = crew.timeline ∨
      (crew.start worker token).timeline =
        crew.timeline.tell .workerAlreadyStarted ∨
      ∃ settings, (crew.start worker token).timeline =
        crew.timeline.spawn settings token := by
  cases found : crew.workers[worker]? with
  | none => exact .inl (by rw [start_of_absent found])
  | some employed =>
      cases started : employed.gate.started with
      | false => exact .inr (.inr ⟨employed.settings,
          by rw [start_of_fresh found started]⟩)
      | true => exact .inr (.inl (by rw [start_of_started found started]))

end Callers

/-- The loop at `index` has its turn. -/
def Goes (crew : Crew) (index : Nat) (action : Action) : Prop :=
  action = .turn index ∧ index ∈ crew.timeline.ready

/-- What a step does to the loop at `index`, and what the loop does in it. -/
inductive Meets (crew : Crew) (index : Nat) (loop : Loop) (action : Action) :
    List Deed → Loop → Prop
  | spared (rests : ¬crew.Goes index action)
      (clock : (crew.step action).clock = crew.clock)
      (ready : index ∈ crew.timeline.ready →
        index ∈ (crew.step action).timeline.ready) :
      Meets crew index loop action [] loop
  | cancelled (rests : ¬crew.Goes index action)
      (clock : (crew.step action).clock = crew.clock)
      (ready : index ∈ crew.timeline.ready →
        index ∈ (crew.step action).timeline.ready)
      (woken : loop.isWaiting = true →
        index ∈ (crew.step action).timeline.ready) :
      Meets crew index loop action [] { loop with cancelled := true }
  | passed (rests : ¬crew.Goes index action) (unready : crew.timeline.ready = [])
      (later : crew.clock ≤ (crew.step action).clock)
      (early : ∀ ending, loop.timer? = some ending →
        (crew.step action).clock ≤ ending ∧
          (ending ≤ (crew.step action).clock →
            index ∈ (crew.step action).timeline.ready)) :
      Meets crew index loop action [] loop
  | turned {deeds : List Deed} {after : Loop} (goes : crew.Goes index action)
      (same : loop.deeds crew.timeline.world = deeds)
      (clock : (crew.step action).clock = crew.clock)
      (turn : Loop.Turn crew.timeline.tickets crew.clock
        (crew.step action).timeline.world.objects.delay loop deeds after) :
      Meets crew index loop action deeds after

variable {index : Nat} {loop : Loop}

private theorem exists_cancelled (found : crew.timeline.loops[index]? = some loop)
    {action : Action} (rests : ¬crew.Goes index action)
    (chosen : Nat → Loop → Bool)
    (loops : (crew.step action).timeline.loops =
      (crew.timeline.cancelLoops chosen).loops)
    (ready : (crew.step action).timeline.ready =
      (crew.timeline.cancelLoops chosen).ready)
    (clock : (crew.step action).clock = crew.clock) :
    ∃ deeds after, (crew.step action).timeline.loops[index]? = some after ∧
      crew.Meets index loop action deeds after := by
  have stays (member : index ∈ crew.timeline.ready) :
      index ∈ (crew.step action).timeline.ready := by
    rw [ready]
    exact Timeline.ready_cancelLoops chosen member
  have after := Timeline.getElem?_cancelLoops found chosen
  rw [← loops] at after
  refine ⟨[], _, after, ?_⟩
  by_cases woken : chosen index loop = true
  · rw [if_pos woken]
    refine .cancelled rests clock stays fun waiting => ?_
    rw [ready]
    exact Timeline.ready_of_woken found woken waiting
  · rw [if_neg woken]
    exact .spared rests clock stays

theorem exists_meets (found : crew.timeline.loops[index]? = some loop)
    (action : Action) :
    ∃ deeds after, (crew.step action).timeline.loops[index]? = some after ∧
      crew.Meets index loop action deeds after := by
  have spared (rests : ¬crew.Goes index action)
      (loops : (crew.step action).timeline.loops[index]? = some loop)
      (clock : (crew.step action).clock = crew.clock)
      (ready : index ∈ crew.timeline.ready →
        index ∈ (crew.step action).timeline.ready) :
      ∃ deeds after, (crew.step action).timeline.loops[index]? = some after ∧
        crew.Meets index loop action deeds after :=
    ⟨[], loop, loops, .spared rests clock ready⟩
  have untouched (rests : ¬crew.Goes index action)
      (timeline : (crew.step action).timeline = crew.timeline) :
      ∃ deeds after, (crew.step action).timeline.loops[index]? = some after ∧
        crew.Meets index loop action deeds after :=
    spared rests (by rwa [timeline]) (by rw [clock, timeline, clock])
      (by rw [timeline]; exact id)
  cases action with
  | hire settings => exact untouched (by simp [Goes]) rfl
  | start worker token =>
      rcases crew.timeline_start worker token with same | tells | ⟨settings, spawns⟩
      · exact untouched (by simp [Goes]) same
      · apply spared (by simp [Goes]) <;> simp only [step, clock, tells]
        · exact found
        · rfl
        · exact id
      · apply spared (by simp [Goes]) <;> simp only [step, clock, spawns]
        · obtain ⟨bound, _⟩ := List.getElem?_eq_some_iff.mp found
          rw [← found]
          exact List.getElem?_append_left bound
        · rfl
        · exact List.mem_append_left _
  | stop worker => exact untouched (by simp [Goes]) (crew.timeline_stop worker)
  | cancelTaken call =>
      rcases crew.cancelTaken_eq call with same | ⟨worker, taken, entered⟩
      · exact untouched (by simp [Goes]) (congrArg Crew.timeline same)
      · have cancels := cancelTaken_of_entered entered
        apply exists_cancelled found (by simp [Goes])
          (fun index _ => index = taken) <;> simp only [step, clock, cancels]
        rfl
  | leave call => exact untouched (by simp [Goes]) (crew.timeline_leave call)
  | cancel token =>
      exact exists_cancelled found (by simp [Goes])
        (fun _ loop => loop.token = token) rfl rfl rfl
  | turn other =>
      by_cases goes : crew.Goes index (.turn other)
      · obtain ⟨same, ready⟩ := goes
        cases same
        have turns := Timeline.turn_of_ready found ready
        have delay := loop.delay_run crew.timeline.tickets crew.timeline.world
        have turn := loop.turn_run crew.timeline.tickets crew.timeline.world
        rw [← delay] at turn
        refine ⟨loop.deeds crew.timeline.world,
          (loop.run crew.timeline.tickets crew.timeline.world).1, ?_, ?_⟩
        · simp only [step, turns]
          obtain ⟨bound, _⟩ := List.getElem?_eq_some_iff.mp found
          exact List.getElem?_set_self bound
        · refine .turned ⟨rfl, ready⟩ rfl (crew.timeline.clock_turn index) ?_
          simp only [step, turns]
          exact turn
      · have clock := crew.timeline.clock_turn other
        by_cases same : other = index
        · subst same
          have unready : other ∉ crew.timeline.ready := fun ready =>
            goes ⟨rfl, ready⟩
          exact untouched goes (Timeline.turn_of_unready unready)
        · exact spared goes ((Timeline.getElem?_turn same).trans found) clock
            fun ready => Timeline.ready_turn ready same
  | pass time =>
      by_cases mayPass : crew.timeline.mayPass time = true
      · have passes : (crew.step (.pass time)).timeline =
            crew.timeline.reach time := if_pos mayPass
        have shows : (crew.step (.pass time)).clock = time := by
          rw [clock, passes]
          rfl
        obtain ⟨unready, later, early⟩ := Timeline.mayPass_iff.mp mayPass
        refine ⟨[], loop, by rwa [passes], .passed (by simp [Goes]) unready ?_ ?_⟩
        · rwa [shows]
        · intro ending timer
          rw [shows, passes]
          refine ⟨early ending ?_, Timeline.ready_reach found timer⟩
          exact List.mem_filterMap.mpr ⟨loop, List.mem_of_getElem? found, timer⟩
      · exact untouched (by simp [Goes]) (if_neg mayPass)
  | interfere world => exact spared (by simp [Goes]) found rfl id

end Crew

end FileCleanup.Simulation
