import FileCleanup.Proofs.Crew.OneShot

namespace FileCleanup.Simulation

/-! What a worker does in the course of a run, and what no loop misses. -/

def beginnings (history : List (Nat × Deed)) : List Nat :=
  history.filterMap fun
    | (time, .begins) => some time
    | _ => none

def endings (history : List (Nat × Deed)) : List Nat :=
  history.filterMap fun
    | (time, .ends _) => some time
    | _ => none

section Extracts

variable (history later : List (Nat × Deed)) (now : Nat)
  (exchanges : List Exchange) (outcome : Except CleanupError BatchResult)

@[simp] theorem beginnings_nil : beginnings [] = [] := rfl

@[simp] theorem endings_nil : endings [] = [] := rfl

@[simp] theorem beginnings_append :
    beginnings (history ++ later) = beginnings history ++ beginnings later :=
  List.filterMap_append

@[simp] theorem endings_append :
    endings (history ++ later) = endings history ++ endings later :=
  List.filterMap_append

@[simp] theorem beginnings_begins :
    beginnings ((now, .begins) :: history) = now :: beginnings history := rfl

@[simp] theorem beginnings_ends :
    beginnings ((now, .ends outcome) :: history) = beginnings history := rfl

@[simp] theorem endings_begins :
    endings ((now, .begins) :: history) = endings history := rfl

@[simp] theorem endings_ends :
    endings ((now, .ends outcome) :: history) = now :: endings history := rfl

@[simp] theorem beginnings_speaks :
    beginnings (exchanges.map (Prod.mk now ∘ Deed.speaks)) = [] := by
  rw [beginnings, List.filterMap_map]
  exact List.filterMap_eq_nil_iff.mpr fun _ _ => rfl

@[simp] theorem endings_speaks :
    endings (exchanges.map (Prod.mk now ∘ Deed.speaks)) = [] := by
  rw [endings, List.filterMap_map]
  exact List.filterMap_eq_nil_iff.mpr fun _ _ => rfl

end Extracts

namespace Crew

/-- What a worker does in one step, each deed with its instant. -/
def deeds (crew : Crew) (worker : Nat) : Action → List (Nat × Deed)
  | .turn index =>
    if index ∈ crew.timeline.ready ∧ crew.owners[index]? = some worker then
      match crew.timeline.loops[index]? with
      | some loop => (loop.deeds crew.timeline.world).map (Prod.mk crew.clock)
      | none => []
    else []
  | _ => []

def history (crew : Crew) (worker : Nat) : List Action → List (Nat × Deed)
  | [] => []
  | action :: actions =>
    crew.deeds worker action ++ (crew.step action).history worker actions

variable {crew : Crew} {worker index : Nat} {held : Loop} {action : Action}

@[simp] theorem map_snd_timed (now : Nat) (deeds : List Deed) :
    (deeds.map (Prod.mk now)).map Prod.snd = deeds := by
  rw [List.map_map]
  exact List.map_id deeds

/-- What every step keeps true of a crew and its history so far holds after
every run. -/
theorem history_induction {Holds : Crew → List (Nat × Deed) → Prop}
    (worker : Nat)
    (step : ∀ {crew history}, crew.WellRun → Holds crew history →
      ∀ action, Holds (crew.step action) (history ++ crew.deeds worker action))
    (wellRun : crew.WellRun) {history : List (Nat × Deed)}
    (holds : Holds crew history) (actions : List Action) :
    Holds (crew.run actions) (history ++ crew.history worker actions) := by
  induction actions generalizing crew history with
  | nil => rwa [Crew.history, List.append_nil]
  | cons action actions induction =>
      rw [Crew.history, ← List.append_assoc]
      exact induction (wellRun.step action) (step wellRun holds action)

theorem deeds_of_loopless (loopless : ∀ loop, ¬crew.Owns worker loop)
    (action : Action) : crew.deeds worker action = [] := by
  cases action with
  | turn index => exact if_neg fun goes => loopless index goes.2
  | _ => rfl

theorem WellRun.deeds_of_meets (wellRun : crew.WellRun)
    (owns : crew.Owns worker index)
    (found : crew.timeline.loops[index]? = some held) {deeds : List Deed}
    {after : Loop} (meets : crew.Meets index held action deeds after) :
    crew.deeds worker action = deeds.map (Prod.mk crew.clock) := by
  have resting (rests : ¬crew.Goes index action) :
      crew.deeds worker action = [] := by
    cases action with
    | turn other =>
        refine if_neg fun goes => rests ?_
        rw [← (wellRun.employs owns).only other goes.2]
        exact ⟨rfl, goes.1⟩
    | _ => rfl
  cases meets with
  | spared rests => exact resting rests
  | cancelled rests => exact resting rests
  | passed rests => exact resting rests
  | turned goes same =>
      obtain ⟨rfl, ready⟩ := goes
      simp only [Crew.deeds, found, same]
      exact if_pos ⟨ready, owns⟩

/-- The instant is over: it has passed, or nothing more can happen in it. -/
def Over (crew : Crew) (instant : Nat) : Prop :=
  instant < crew.clock ∨ instant = crew.clock ∧ crew.timeline.ready = []

theorem not_over {due instant : Nat} (early : crew.clock ≤ due)
    (prompt : crew.clock = due → index ∈ crew.timeline.ready)
    (before : due ≤ instant) : ¬crew.Over instant := by
  rintro (passed | ⟨here, idle⟩)
  · omega
  · have ready := prompt (by omega)
    rw [idle] at ready
    cases ready

/-- A loop that has something to do is ready, and its delete is not over. -/
def Prompt (crew : Crew) (index : Nat) (held : Loop) : Prop :=
  match held.activity with
  | .starting => index ∈ crew.timeline.ready
  | .waiting => held.cancelled = true → index ∈ crew.timeline.ready
  | .deleting wake _ _ _ _ =>
    crew.clock ≤ wake ∧ (crew.clock = wake → index ∈ crew.timeline.ready)
  | .stopped => True

/-- After a turn a loop is stopped, waits uncancelled, or is asleep. -/
theorem prompt_of_turn {ticket now delay : Nat} {deeds : List Deed}
    {after : Loop} (turn : held.Turn ticket now delay deeds after)
    (clock : crew.clock = now) : crew.Prompt index after := by
  have pauses {loop : Loop} {deeds : List Deed}
      (waiting : loop.activity = .waiting)
      (pause : loop.Pause ticket now delay deeds after) :
      crew.Prompt index after := by
    cases pause with
    | stops => trivial
    | waits uncancelled =>
        simp only [Prompt, waiting, uncancelled]
        nofun
    | works uncancelled =>
        simp only [Prompt, uncancelled]
        nofun
    | sleeps _ _ slow =>
        simp only [Prompt, clock]
        omega
  cases turn with
  | rests stopped =>
      simp only [Prompt, stopped]
  | starts _ pause => exact pauses rfl pause
  | pauses waiting pause => exact pauses waiting pause
  | sleepsOn _ slow =>
      simp only [Prompt, clock]
      omega
  | wakes _ _ pause => exact pauses rfl pause

theorem Prompt.step (prompt : crew.Prompt index held) {deeds : List Deed}
    {after : Loop} (meets : crew.Meets index held action deeds after) :
    (crew.step action).Prompt index after := by
  cases meets with
  | spared rests clock ready =>
      unfold Prompt at prompt ⊢
      rw [clock]
      split at prompt
      · exact ready prompt
      · exact fun cancelled => ready (prompt cancelled)
      · exact prompt.imp_right fun wakes same => ready (wakes same)
      · trivial
  | cancelled rests clock ready woken =>
      unfold Prompt at prompt ⊢
      rw [clock]
      cases active : held.activity with
      | starting =>
          rw [active] at prompt
          exact ready prompt
      | waiting => exact fun _ => woken (by rw [Loop.isWaiting, active])
      | deleting wake own file rest result =>
          rw [active] at prompt
          exact prompt.imp_right fun wakes same => ready (wakes same)
      | stopped => trivial
  | passed rests unready later early =>
      unfold Prompt at prompt ⊢
      rw [unready] at prompt
      cases active : held.activity with
      | starting =>
          rw [active] at prompt
          cases prompt
      | waiting =>
          rw [active] at prompt
          exact fun cancelled => nomatch prompt cancelled
      | deleting wake own file rest result =>
          have early := early wake (by rw [Loop.timer?, active])
          exact ⟨early.1, fun same => early.2 (Nat.le_of_eq same.symm)⟩
      | stopped => trivial
  | turned _ _ clock turn => exact prompt_of_turn turn clock

/-- Loops come from first starts only. -/
theorem length_step (crew : Crew) (action : Action) :
    (crew.step action).timeline.loops.length = crew.timeline.loops.length ∨
      ∃ worker token employed, action = .start worker token ∧
        crew.workers[worker]? = some employed ∧
        employed.gate.started = false := by
  cases action with
  | start worker token =>
      cases found : crew.workers[worker]? with
      | none => exact .inl (by rw [step, start_of_absent found])
      | some employed =>
          cases started : employed.gate.started with
          | true =>
              rw [step, start_of_started found started]
              exact .inl rfl
          | false => exact .inr ⟨worker, token, employed, rfl, found, started⟩
  | stop worker => exact .inl (by rw [step, timeline_stop])
  | cancelTaken call =>
      rcases crew.cancelTaken_eq call with same | ⟨worker, taken, entered⟩
      · exact .inl (by rw [step, same])
      · rw [step, cancelTaken_of_entered entered]
        exact .inl List.length_mapIdx
  | leave call => exact .inl (by rw [step, timeline_leave])
  | cancel token => exact .inl List.length_mapIdx
  | turn other => exact .inl (crew.timeline.length_turn other)
  | pass clock =>
      simp only [step, Timeline.pass]
      split <;> exact .inl rfl
  | hire | interfere => exact .inl rfl

theorem started_of_missing (missing : crew.timeline.loops[index]? = none)
    (found : (crew.step action).timeline.loops[index]? = some held) :
    ∃ worker token employed, action = .start worker token ∧
      crew.workers[worker]? = some employed ∧ employed.gate.started = false := by
  have shorter := List.getElem?_eq_none_iff.mp missing
  obtain ⟨bound, _⟩ := List.getElem?_eq_some_iff.mp found
  exact (crew.length_step action).resolve_left fun same => by omega

/-- The loop of a first start is ready, and cancelled if its token is. -/
theorem spawned_of_fresh {employed : Worker}
    (found : crew.workers[worker]? = some employed)
    (fresh : employed.gate.started = false) (token : String) :
    let timeline := (crew.step (.start worker token)).timeline
    timeline.loops = crew.timeline.loops ++
      [⟨employed.settings, token, crew.timeline.isCancelled token, ⟨0, 0⟩,
        crew.timeline.tickets, .starting⟩] ∧
    crew.timeline.loops.length ∈ timeline.ready := by
  rw [step, start_of_fresh found fresh]
  exact ⟨rfl, List.mem_append_right _ (List.mem_singleton_self _)⟩

/-- No loop misses anything. -/
def Alert (crew : Crew) : Prop :=
  ∀ index held, crew.timeline.loops[index]? = some held →
    crew.Prompt index held

theorem Alert.step (alert : crew.Alert) (action : Action) :
    (crew.step action).Alert := by
  intro index after foundAfter
  cases found : crew.timeline.loops[index]? with
  | some held =>
      obtain ⟨deeds, later, same, meets⟩ := exists_meets found action
      rw [foundAfter] at same
      cases same
      exact (alert index held found).step meets
  | none =>
      obtain ⟨worker, token, employed, rfl, hired, fresh⟩ :=
        started_of_missing found foundAfter
      obtain ⟨loops, ready⟩ := spawned_of_fresh hired fresh token
      rw [loops, getElem?_concat_eq_some_iff, found] at foundAfter
      rcases foundAfter with old | ⟨rfl, rfl⟩
      · cases old
      · exact ready

theorem Alert.run (alert : crew.Alert) (actions : List Action) :
    (crew.run actions).Alert := by
  induction actions generalizing crew with
  | nil => exact alert
  | cons action actions induction => exact induction (alert.step action)

/-- There is a run that leads to the crew. -/
def Reached (crew : Crew) : Prop :=
  ∃ world actions, (ofWorld world).run actions = crew

theorem Reached.wellRun (reached : crew.Reached) : crew.WellRun := by
  obtain ⟨world, actions, rfl⟩ := reached
  exact (wellRun_ofWorld world).run actions

theorem Reached.alert (reached : crew.Reached) : crew.Alert := by
  obtain ⟨world, actions, rfl⟩ := reached
  refine Alert.run ?_ actions
  intro index held found
  cases found

/-- The sample world with deletes that take time. -/
def Sample.slow (delay : Nat) : World :=
  { Simulation.Sample.world with
    objects := .memory { Simulation.Sample.storage with delay } }

def Sample.hired (delay : Nat) : Crew :=
  (ofWorld (slow delay)).run [.hire .standard]

/-- A worker is in the middle of its first batch. -/
def Sample.working : List Action :=
  [.hire .standard, .start 0 "main", .turn 0, .pass 300000, .turn 0]

/-- A batch whose delete takes a minute goes on. -/
def Sample.goingOn : List Action := [.pass 360000, .turn 0]

end Crew

end FileCleanup.Simulation
