import FileCleanup.Proofs.Crew.Playback

namespace FileCleanup.Simulation

/-! What a scenario does is a run of a crew: what holds after every run of a crew
holds after every scenario. -/

open Time

namespace Scenario

variable (scenario : Scenario) (name other : String)

theorem lookup_setWorker (worker : Worker) :
    (scenario.setWorker name worker).workers.lookup other =
      if other = name then some worker else scenario.workers.lookup other := by
  rw [setWorker, List.lookup_cons]
  by_cases same : other = name
  · simp [same]
  · simp [same, beq_false_of_ne same]

theorem serviceNamed_cons (settings : CleanupSettings) :
    { scenario with
        services := (name, settings) :: scenario.services }.serviceNamed other =
      if other = name then settings else scenario.serviceNamed other := by
  rw [serviceNamed, List.lookup_cons]
  by_cases same : other = name
  · simp [same]
  · simp [same, beq_false_of_ne same, serviceNamed]

/-! Equations of functions: at an argument the kernel would try to evaluate
what the clock shows. -/

private theorem attempt_eq : @attempt = fun scenario command =>
    match Instant.ofClock scenario.world.clock with
    | .ok _ => scenario.perform command
    | .error fault =>
      if scenario.readsClock command then (.clockProblem fault, scenario)
      else scenario.perform command := rfl

private theorem step_eq : @step = fun scenario command =>
    let before := scenario.world.journal
    let (outcome, scenario) := scenario.attempt command
    let scenario :=
      if command.letsLoopsRun then
        { scenario with timeline := scenario.timeline.settle }
      else scenario
    let after := scenario.world.journal
    (⟨outcome, scenario.world.clock,
        after.calls.toList.drop before.calls.size,
        after.deletes.toList.drop before.deletes.size,
        after.events.toList.drop before.events.size⟩,
      scenario) := rfl

/-- A command is done, or the clock stands in its way. -/
theorem attempt_or (command : Command) :
    (scenario.attempt command).2 = (scenario.perform command).2 ∨
      (scenario.attempt command).2 = scenario := by
  have unfolded := congrFun (congrFun attempt_eq scenario) command
  beta_reduce at unfolded
  generalize Instant.ofClock scenario.world.clock = shown at unfolded
  rw [unfolded]
  cases shown with
  | ok instant => exact .inl rfl
  | error fault =>
      dsimp only
      split
      · exact .inr rfl
      · exact .inl rfl

/-- After a command the loops may have their turns. -/
theorem step_or (command : Command) :
    (scenario.step command).2 = (scenario.attempt command).2 ∨
      (scenario.step command).2 = { (scenario.attempt command).2 with
        timeline := (scenario.attempt command).2.timeline.settle } := by
  have unfolded := congrFun (congrFun step_eq scenario) command
  beta_reduce at unfolded
  generalize scenario.attempt command = result at unfolded ⊢
  obtain ⟨outcome, after⟩ := result
  rw [unfolded]
  dsimp only
  split
  · exact .inr rfl
  · exact .inl rfl

end Scenario

namespace Crew

variable {first crew after : Crew} {scenario target : Scenario}
  {seat : String → Option Nat} {name : String}

/-- The crew is on the timeline of the scenario, whose workers are in it, each
at a place of its own, and whose stops have all returned. -/
structure Staffs (crew : Crew) (scenario : Scenario)
    (seat : String → Option Nat) : Prop where
  timeline : crew.timeline = scenario.timeline
  wakeful : crew.Wakeful
  services (name : String) : (scenario.serviceNamed name).Valid
  seated (name : String) (worker : Worker) :
    scenario.workers.lookup name = some worker →
      ∃ place, seat name = some place ∧ crew.workers[place]? = some worker
  apart (left right : String) (place : Nat) :
    seat left = some place → seat right = some place → left = right
  bound (name : String) (place : Nat) :
    seat name = some place → place < crew.workers.length
  returned : ∀ stop ∈ crew.stops, stop.stage = .left

namespace Staffs

theorem change (staffs : Staffs crew scenario seat) {place : Nat}
    (sits : seat name = some place) {worker : Worker} (wakeful : after.Wakeful)
    (workers : after.workers = crew.workers.set place worker)
    (returned : ∀ stop ∈ after.stops, stop.stage = .left) :
    Staffs after
      { scenario.setWorker name worker with timeline := after.timeline }
      seat where
  timeline := rfl
  wakeful := wakeful
  services := staffs.services
  seated := by
    intro other held found
    rw [show _ = _ from scenario.lookup_setWorker name other worker] at found
    by_cases same : other = name
    · rw [if_pos same] at found
      cases found
      refine ⟨place, by rw [same, sits], ?_⟩
      rw [workers, List.getElem?_set_self (staffs.bound name place sits)]
    · rw [if_neg same] at found
      obtain ⟨taken, old, member⟩ := staffs.seated other held found
      have different : place ≠ taken := by
        rintro rfl
        exact same (staffs.apart other name place old sits)
      exact ⟨taken, old, by rwa [workers, List.getElem?_set_ne different]⟩
  apart := staffs.apart
  bound := by
    intro other taken old
    rw [workers, List.length_set]
    exact staffs.bound other taken old
  returned := returned

theorem onward (staffs : Staffs crew scenario seat) {timeline : Timeline}
    (wakeful : { crew with timeline }.Wakeful) :
    Staffs { crew with timeline } { scenario with timeline } seat where
  timeline := rfl
  wakeful := wakeful
  services := staffs.services
  seated := staffs.seated
  apart := staffs.apart
  bound := staffs.bound
  returned := staffs.returned

theorem hire (staffs : Staffs crew scenario seat) (name : String) {settings : CleanupSettings}
    (valid : settings.Valid) (timeline : target.timeline = scenario.timeline)
    (services : target.services = scenario.services)
    (own : ∀ worker, target.workers.lookup name = some worker →
      worker = ⟨settings, .closed⟩)
    (others : ∀ other, other ≠ name →
      target.workers.lookup other = scenario.workers.lookup other) :
    Staffs (crew.step (.hire settings)) target
      (Function.update seat name (some crew.workers.length)) where
  timeline := staffs.timeline.trans timeline.symm
  wakeful := staffs.wakeful.step valid
  services := by
    intro other
    rw [Scenario.serviceNamed, services]
    exact staffs.services other
  seated := by
    intro other held found
    by_cases same : other = name
    · subst same
      rw [own held found, Function.update_self]
      exact ⟨_, rfl, List.getElem?_concat_length⟩
    · rw [others other same] at found
      obtain ⟨place, old, member⟩ := staffs.seated other held found
      rw [Function.update_of_ne same]
      exact ⟨place, old, getElem?_concat_eq_some_iff.mpr (.inl member)⟩
  apart := by
    intro left right place leftPlace rightPlace
    have fresh {other : String} (old : seat other = some crew.workers.length) :
        False := Nat.lt_irrefl _ (staffs.bound other _ old)
    by_cases leftSame : left = name <;> by_cases rightSame : right = name
    · rw [leftSame, rightSame]
    · rw [leftSame, Function.update_self] at leftPlace
      rw [Function.update_of_ne rightSame, ← leftPlace] at rightPlace
      exact (fresh rightPlace).elim
    · rw [rightSame, Function.update_self] at rightPlace
      rw [Function.update_of_ne leftSame, ← rightPlace] at leftPlace
      exact (fresh leftPlace).elim
    · rw [Function.update_of_ne leftSame] at leftPlace
      rw [Function.update_of_ne rightSame] at rightPlace
      exact staffs.apart left right place leftPlace rightPlace
  bound := by
    intro other place taken
    have longer : (crew.step (.hire settings)).workers.length =
        crew.workers.length + 1 := by simp [step]
    rw [longer]
    by_cases same : other = name
    · rw [same, Function.update_self] at taken
      cases taken
      exact Nat.lt_succ_self _
    · rw [Function.update_of_ne same] at taken
      exact Nat.lt_succ_of_lt (staffs.bound other place taken)
  returned := staffs.returned

theorem exists_seat (staffs : Staffs crew scenario seat) (name : String) :
    ∃ after seat place, crew.LeadsTo Action.Valid after ∧ Staffs after scenario seat ∧
      seat name = some place ∧
      after.workers[place]? = some (scenario.workerNamed name) := by
  cases found : scenario.workers.lookup name with
  | some worker =>
      obtain ⟨place, sits, member⟩ := staffs.seated name worker found
      refine ⟨crew, seat, place, .refl crew, staffs, sits, ?_⟩
      rw [member, Scenario.workerNamed, found]
      rfl
  | none =>
      have valid := staffs.services "main"
      have hires : crew.LeadsTo Action.Valid (crew.step (.hire _)) := .single _ valid
      refine ⟨_, _, crew.workers.length, hires,
        staffs.hire name valid rfl rfl ?_ (fun _ _ => rfl),
        Function.update_self .., ?_⟩
      · simp [found]
      · rw [Scenario.workerNamed, found]
        exact List.getElem?_concat_length

end Staffs

/-- A run leads to a crew that is like the scenario. -/
def Shows (first : Crew) (scenario : Scenario) : Prop :=
  ∃ crew seat, first.LeadsTo Action.Valid crew ∧ Staffs crew scenario seat

namespace Shows

theorem play (shown : first.Shows scenario) {timeline : Timeline}
    (plays : ∀ crew : Crew, crew.Wakeful → crew.timeline = scenario.timeline →
      crew.LeadsTo Action.Valid { crew with timeline }) :
    first.Shows { scenario with timeline } := by
  obtain ⟨crew, seat, leads, staffs⟩ := shown
  have goesOn := plays crew staffs.wakeful staffs.timeline
  have wakeful := goesOn.wakeful staffs.wakeful
  exact ⟨_, seat, leads.trans goesOn, staffs.onward wakeful⟩

theorem withWorld (shown : first.Shows scenario) {world : World}
    (clock : world.clock = scenario.world.clock) :
    first.Shows (scenario.withWorld world) := by
  refine shown.play fun crew _ same => ?_
  rw [← same]
  exact .interfere (clock.trans (by rw [Scenario.world, ← same]; rfl))

theorem define (shown : first.Shows scenario) (name : String)
    {settings : CleanupSettings} (valid : settings.Valid) :
    first.Shows { scenario with
      services := (name, settings) :: scenario.services } := by
  obtain ⟨crew, seat, leads, staffs⟩ := shown
  refine ⟨crew, seat, leads, staffs.timeline, staffs.wakeful, fun other => ?_,
    staffs.seated, staffs.apart, staffs.bound, staffs.returned⟩
  rw [Scenario.serviceNamed_cons]
  split
  · exact valid
  · exact staffs.services other

theorem valid (shown : first.Shows scenario) (name : String) :
    (scenario.serviceNamed name).Valid := by
  obtain ⟨_, _, _, staffs⟩ := shown
  exact staffs.services name

theorem hire (shown : first.Shows scenario) (name : String)
    {settings : CleanupSettings} (valid : settings.Valid) :
    first.Shows (scenario.setWorker name ⟨settings, .closed⟩) := by
  obtain ⟨crew, seat, leads, staffs⟩ := shown
  have hires : crew.LeadsTo Action.Valid (crew.step (.hire settings)) :=
    .single _ valid
  refine ⟨_, _, leads.trans hires, staffs.hire name valid rfl rfl ?_ ?_⟩
  · intro worker found
    rw [Scenario.lookup_setWorker, if_pos rfl] at found
    exact (Option.some.inj found).symm
  · intro other different
    rw [Scenario.lookup_setWorker, if_neg different]

theorem start (shown : first.Shows scenario) (name token : String) :
    first.Shows (scenario.startWorker name token).2 := by
  obtain ⟨crew, seat, leads, staffs⟩ := shown
  obtain ⟨hired, seat, place, hires, seated, sits, found⟩ :=
    staffs.exists_seat name
  have starts : hired.LeadsTo Action.Valid (hired.step (.start place token)) :=
    .single _ trivial
  have wakeful := starts.wakeful seated.wakeful
  have same := seated.timeline
  refine ⟨_, seat, (leads.trans hires).trans starts, ?_⟩
  cases started : (scenario.workerNamed name).gate.started with
  | false =>
      have changed := seated.change sits wakeful
        (by rw [step, start_of_fresh found started])
        (by rw [step, start_of_fresh found started]; exact seated.returned)
      rw [step, start_of_fresh found started] at changed ⊢
      simpa [Scenario.startWorker, Scenario.setWorker, Gate.start, started, same]
        using changed
  | true =>
      have unchanged : hired.workers = hired.workers.set place
          (scenario.workerNamed name) := by
        obtain ⟨bound, here⟩ := List.getElem?_eq_some_iff.mp found
        rw [← here, List.set_getElem_self]
      have changed := seated.change sits wakeful
        (by rw [step, start_of_started found started]; exact unchanged)
        (by rw [step, start_of_started found started]; exact seated.returned)
      rw [step, start_of_started found started] at changed ⊢
      simpa [Scenario.startWorker, Scenario.setWorker, Gate.start, started, same]
        using changed

theorem stop (shown : first.Shows scenario) (name : String) :
    first.Shows (scenario.stopWorker name) := by
  obtain ⟨crew, seat, leads, staffs⟩ := shown
  obtain ⟨hired, seat, place, hires, seated, sits, found⟩ :=
    staffs.exists_seat name
  unfold Scenario.stopWorker
  generalize scenario.workerNamed name = worker at found ⊢
  have stops : hired.LeadsTo Action.Valid (hired.step (.stop place)) :=
    .single _ trivial
  have wakeful := stops.wakeful seated.wakeful
  have stopped := stop_of_found found
  rw [step] at stops wakeful
  generalize hired.stop place = stopping at stops wakeful stopped
  have workers : stopping.workers = hired.workers.set place
      { worker with gate := { worker.gate with running := none } } := by
    rw [stopped]
  have same : stopping.timeline = scenario.timeline := by
    rw [stopped]
    exact seated.timeline
  have entered : stopping.stops[hired.stops.length]? =
      some ⟨place, worker.gate.running, .entered⟩ := by
    rw [stopped]
    exact List.getElem?_concat_length
  have returned (stop : StopCall) (member : stop ∈ stopping.stops.set
      hired.stops.length ⟨place, worker.gate.running, .left⟩) :
      stop.stage = .left := by
    rw [stopped, List.set_append_right _ _ (Nat.le_refl _), Nat.sub_self] at member
    rcases List.mem_append.mp member with before | here
    · exact seated.returned stop before
    · rw [List.mem_singleton.mp here]
  have stops := (leads.trans hires).trans stops
  -- One command here, while the crew's call enters, cancels, waits and leaves.
  cases running : worker.gate.running with
  | none =>
      rw [running] at entered returned
      have leaves := LeadsTo.leave stopping entered rfl
      have changed := seated.change sits (leaves.wakeful wakeful) workers returned
      refine ⟨_, seat, stops.trans leaves, ?_⟩
      simpa [Gate.takeRunning, running, Scenario.setWorker, same] using changed
  | some loop =>
      rw [running] at entered returned
      have waits := LeadsTo.stopLoop wakeful entered
      have changed := seated.change sits (waits.wakeful wakeful) workers returned
      refine ⟨_, seat, stops.trans waits, ?_⟩
      simpa [Gate.takeRunning, running, Scenario.setWorker, same] using changed

theorem perform (shown : first.Shows scenario) (command : Command) :
    first.Shows (scenario.perform command).2 := by
  have stored (call : Call) (other : ∀ bucket key, call ≠ .deleteObject bucket key) :
      first.Shows (scenario.withWorld (World.answer call scenario.world).2) :=
    shown.withWorld (World.beside_answer scenario.world other).clock
  have defined (service : String) : first.Shows (scenario.withService service) :=
    shown.define service (shown.valid service)
  cases command with
  | insert | put | failRelease | failClaim | failIncrement | failSoftDelete
  | clearStoreFailures | failDelete | clearDeleteFailures | setDelay =>
      exact shown.withWorld rfl
  | get | has | kind | calls | state => exact shown
  | advance millis =>
      exact shown.play fun crew wakeful same => by
        rw [← same]
        exact (LeadsTo.advance wakeful millis).valid
  | release age => exact stored (.releaseStaleClaims age) (by simp)
  | claim limit => exact stored (.claimExpired limit) (by simp)
  | increment id => exact stored (.recordFailedAttempt id) (by simp)
  | softDelete id => exact stored (.softDelete id) (by simp)
  | delete bucket key =>
      exact shown.play fun crew wakeful same => by
        rw [← same]
        exact .deleteObject wakeful bucket key
  | service name settings =>
      simp only [Scenario.perform]
      split
      · rename_i accepted
        exact shown.define name (CleanupSettings.validate_eq_ok_iff.mp accepted)
      · exact shown
  | batch service =>
      exact (defined service).play fun crew wakeful same =>
        .runPhase _ _ _ wakeful same
  | worker name service =>
      exact (defined service).hire name ((defined service).valid service)
  | start worker token => exact shown.start worker token
  | stop worker => exact shown.stop worker
  | stopTwice worker => exact shown.stop worker
  | cancel token =>
      exact shown.play fun crew _ same => by
        rw [← same]
        exact .single (.cancel token) trivial

theorem settle (shown : first.Shows scenario) :
    first.Shows { scenario with timeline := scenario.timeline.settle } :=
  shown.play fun crew _ same => by
    rw [← same]
    exact (LeadsTo.settle crew).valid

theorem step (shown : first.Shows scenario) (command : Command) :
    first.Shows (scenario.step command).2 := by
  have attempted : first.Shows (scenario.attempt command).2 := by
    rcases scenario.attempt_or command with done | hindered
    · rw [done]
      exact shown.perform command
    · rwa [hindered]
  rcases scenario.step_or command with same | settles
  · rwa [same]
  · rw [settles]
    exact attempted.settle

end Shows

/-- Whatever is asked for, the workers of a scenario are those of a crew on the
same timeline. -/
theorem exists_run_scenario (objects : ObjectStore) (commands : List Command) :
    (ofWorld (.start objects)).Shows
      (commands.foldl (fun scenario command => (scenario.step command).2)
        (.start objects)) := by
  have standard : CleanupSettings.standard.Valid := by decide
  have begins : (ofWorld (.start objects)).Shows (.start objects) :=
    ⟨_, fun _ => none, .refl _, rfl, wakeful_ofWorld _, fun _ => standard,
      by simp [Scenario.start], by simp, by simp, by simp [ofWorld]⟩
  generalize Scenario.start objects = scenario at begins ⊢
  induction commands generalizing scenario with
  | nil => exact begins
  | cons command commands induction => exact induction _ (begins.step command)

end Crew

end FileCleanup.Simulation
