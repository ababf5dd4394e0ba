import FileCleanup.Proofs.Crew.Cancellation

namespace FileCleanup.Simulation

/-! All that happens on a timeline when time passes is a run of the crew, one
turn or one stretch of time after the other. -/

namespace Loop

variable {held after : Loop} {ticket now delay : Nat} {deeds : List Deed}

/-- Once a loop has begun, it ticks at its interval, and it ends only when it is
cancelled. -/
structure Regular (loop : Loop) : Prop where
  valid : loop.settings.Valid
  period : loop.activity = .starting ∨
    loop.ticker.period = loop.settings.intervalSeconds * 1000
  ends : loop.activity = .stopped → loop.cancelled = true

theorem Regular.pause (valid : held.settings.Valid)
    (period : held.ticker.period = held.settings.intervalSeconds * 1000)
    (waiting : held.activity = .waiting)
    (pause : held.Pause ticket now delay deeds after) :
    after.Regular ∧ ∀ ending, after.timer? = some ending → now < ending := by
  have positive : Ticker.slack < held.ticker.period := by
    have interval := valid.1
    rw [period, Ticker.slack]
    omega
  cases pause with
  | stops cancelled =>
      exact ⟨⟨valid, .inr period, fun _ => cancelled⟩, by simp [timer?]⟩
  | waits _ early =>
      refine ⟨⟨valid, .inr period, by simp [waiting]⟩, fun ending timer => ?_⟩
      rw [timer?, waiting] at timer
      cases timer
      exact early
  | works =>
      refine ⟨⟨valid, .inr period, by simp⟩, fun ending timer => ?_⟩
      cases timer
      exact Ticker.lt_due_taken positive
  | sleeps _ _ slow =>
      refine ⟨⟨valid, .inr period, by simp⟩, fun ending timer => ?_⟩
      cases timer
      omega

/-- The timer that a loop sets in its turn ends later. -/
theorem Regular.turn (regular : held.Regular)
    (turn : held.Turn ticket now delay deeds after) :
    after.Regular ∧ ∀ ending, after.timer? = some ending → now < ending := by
  obtain ⟨valid, period, ends⟩ := regular
  cases turn with
  | rests stopped => exact ⟨⟨valid, period, ends⟩, by simp [timer?, stopped]⟩
  | starts _ pause =>
      refine Regular.pause ?_ ?_ ?_ pause
      · exact valid
      · rfl
      · rfl
  | pauses waiting pause =>
      have period := period.resolve_left (by simp [waiting])
      exact Regular.pause valid period waiting pause
  | sleepsOn asleep slow =>
      have period := period.resolve_left (by simp [asleep])
      refine ⟨⟨valid, .inr period, by simp⟩, fun ending timer => ?_⟩
      cases timer
      omega
  | wakes asleep _ pause =>
      have period := period.resolve_left (by simp [asleep])
      refine Regular.pause ?_ ?_ ?_ pause
      · exact valid
      · exact period
      · rfl

end Loop

namespace Timeline

variable (timeline : Timeline)

theorem runLoop_ready (ready : List Nat) (index : Nat) :
    { timeline with ready }.runLoop index =
      { timeline.runLoop index with ready } := by
  unfold runLoop
  dsimp only
  split <;> rfl

theorem ready_runLoop (index : Nat) :
    (timeline.runLoop index).ready = timeline.ready := by
  unfold runLoop
  split <;> rfl

theorem clock_runLoop (index : Nat) :
    (timeline.runLoop index).world.clock = timeline.world.clock := by
  unfold runLoop
  split
  · rfl
  · rename_i loop found
    exact loop.clock_run ..

theorem delay_runLoop (index : Nat) :
    (timeline.runLoop index).world.objects.delay =
      timeline.world.objects.delay := by
  unfold runLoop
  split
  · rfl
  · rename_i loop found
    exact loop.delay_run ..

theorem settle_keeps :
    timeline.settle.ready = [] ∧
      timeline.settle.world.clock = timeline.world.clock := by
  unfold settle
  have idle : { timeline with ready := [] }.ready = [] := rfl
  have clock : { timeline with ready := [] }.world.clock =
      timeline.world.clock := rfl
  generalize { timeline with ready := [] } = begun at idle clock ⊢
  induction timeline.ready generalizing begun with
  | nil => exact ⟨idle, clock⟩
  | cons index ready induction =>
      exact induction _ ((begun.ready_runLoop index).trans idle)
        ((begun.clock_runLoop index).trans clock)

/-- A loop that has ended does not notice that it is cancelled again. -/
theorem cancelLoops_of_hasStopped {index : Nat}
    (ended : timeline.hasStopped index = true)
    (regular : ∀ loop, timeline.loops[index]? = some loop → loop.Regular) :
    timeline.cancelLoops (fun other _ => other = index) = timeline := by
  have stopped (loop : Loop) (found : timeline.loops[index]? = some loop) :
      loop.activity = .stopped := by
    rw [hasStopped, found] at ended
    cases active : loop.activity with
    | stopped => rfl
    | starting | waiting | deleting => simp [Loop.isStopped, active] at ended
  have loops : (timeline.cancelLoops fun other _ => other = index).loops =
      timeline.loops := by
    refine List.ext_getElem? fun other => ?_
    cases found : timeline.loops[other]? with
    | none => simp [cancelLoops, found]
    | some loop =>
        rw [getElem?_cancelLoops found]
        by_cases same : other = index
        · subst same
          have cancelled := (regular loop found).ends (stopped loop found)
          simp [← cancelled]
        · simp [same]
  have ready : (timeline.cancelLoops fun other _ => other = index).ready =
      timeline.ready := by
    refine List.append_right_eq_self.mpr (List.map_eq_nil_iff.mpr
      (List.filter_eq_nil_iff.mpr ?_))
    rintro ⟨loop, other⟩ member
    have found := List.mem_zipIdx_iff_getElem?.mp member
    by_cases same : other = index
    · subst same
      simp [Loop.isWaiting, stopped loop found]
    · simp [same]
  calc timeline.cancelLoops (fun other _ => other = index)
      = { timeline with
          loops := (timeline.cancelLoops fun other _ => other = index).loops
          ready := (timeline.cancelLoops fun other _ => other = index).ready } :=
        rfl
    _ = timeline := by rw [loops, ready]

theorem endOf_eq_latestEnd {index : Nat} {loop : Loop}
    (found : timeline.loops[index]? = some loop) :
    timeline.endOf index =
      loop.latestEnd timeline.world.clock timeline.world.objects.delay := by
  obtain ⟨settings, token, cancelled, ticker, ticket, activity⟩ := loop
  rw [endOf, found]
  cases activity <;> rfl

theorem nextTimer?_le {ending time : Nat} (next : timeline.nextTimer? = some time)
    (timer : ending ∈ timeline.loops.filterMap Loop.timer?) : time ≤ ending :=
  (List.min?_eq_some_iff.mp next).2 ending timer

end Timeline

namespace Action

/-- Workers are hired with settings that a service accepts. -/
def Valid : Action → Prop
  | .hire settings => settings.Valid
  | _ => True

/-- Nobody does anything but the loops. -/
def Waits : Action → Prop
  | .turn _ | .pass _ => True
  | _ => False

theorem Waits.valid {action : Action} (waits : action.Waits) : action.Valid := by
  cases action with
  | turn | pass => trivial
  | _ => cases waits

end Action

namespace Crew

variable {crew after : Crew} {allowed : Action → Prop}

/-- No loop oversleeps: when its timer has ended, it can go on. -/
structure Wakeful (crew : Crew) : Prop where
  alert : crew.Alert
  workers (worker : Nat) (employed : Worker) :
    crew.workers[worker]? = some employed → employed.settings.Valid
  regular (index : Nat) (held : Loop) :
    crew.timeline.loops[index]? = some held → held.Regular
  wakes (index : Nat) (held : Loop) (ending : Nat) :
    crew.timeline.loops[index]? = some held → held.timer? = some ending →
      ending ≤ crew.clock → index ∈ crew.timeline.ready

theorem exists_settings {action : Action} {worker : Nat} {employed : Worker}
    (found : (crew.step action).workers[worker]? = some employed) :
    action = .hire employed.settings ∨ ∃ before,
      crew.workers[worker]? = some before ∧
        before.settings = employed.settings := by
  have set {other : Nat} {changed : Worker} (gate : Gate Nat)
      (member : crew.workers[other]? = some changed)
      (found : (crew.workers.set other { changed with gate })[worker]? =
        some employed) :
      ∃ before, crew.workers[worker]? = some before ∧
        before.settings = employed.settings := by
    rcases eq_or_getElem?_of_set found with ⟨rfl, rfl⟩ | old
    · exact ⟨changed, member, rfl⟩
    · exact ⟨employed, old, rfl⟩
  cases action with
  | hire settings =>
      rcases getElem?_concat_eq_some_iff.mp found with old | ⟨_, rfl⟩
      · exact .inr ⟨employed, old, rfl⟩
      · exact .inl rfl
  | start other token =>
      rw [step] at found
      cases member : crew.workers[other]? with
      | none =>
          rw [start_of_absent member] at found
          exact .inr ⟨employed, found, rfl⟩
      | some changed =>
          cases started : changed.gate.started with
          | false =>
              rw [start_of_fresh member started] at found
              exact .inr (set _ member found)
          | true =>
              rw [start_of_started member started] at found
              exact .inr ⟨employed, found, rfl⟩
  | stop other =>
      rw [step] at found
      cases member : crew.workers[other]? with
      | none =>
          rw [stop_of_absent member] at found
          exact .inr ⟨employed, found, rfl⟩
      | some changed =>
          rw [stop_of_found member] at found
          exact .inr (set _ member found)
  | cancelTaken call =>
      rw [step] at found
      rcases crew.cancelTaken_eq call with same | ⟨_, _, entered⟩
      · rw [same] at found
        exact .inr ⟨employed, found, rfl⟩
      · rw [cancelTaken_of_entered entered] at found
        exact .inr ⟨employed, found, rfl⟩
  | leave call =>
      obtain ⟨stops, leaves⟩ := crew.leave_eq call
      rw [step, leaves] at found
      exact .inr ⟨employed, found, rfl⟩
  | cancel | turn | pass | interfere => exact .inr ⟨employed, found, rfl⟩

theorem wakeful_ofWorld (world : World) : (ofWorld world).Wakeful where
  alert := by
    intro index held found
    cases found
  workers := by
    intro worker employed found
    cases found
  regular := by
    intro index held found
    cases found
  wakes := by
    intro index held ending found
    cases found

/-- A loop that was there before a step does not oversleep in it. -/
theorem Wakeful.of_meets (wakeful : crew.Wakeful) {action : Action}
    {index : Nat} {held later : Loop} {deeds : List Deed}
    (before : crew.timeline.loops[index]? = some held)
    (meets : crew.Meets index held action deeds later) :
    later.Regular ∧ ∀ ending, later.timer? = some ending →
      ending ≤ (crew.step action).clock →
        index ∈ (crew.step action).timeline.ready := by
  have regular := wakeful.regular index held before
  have wakes := wakeful.wakes index held
  cases meets with
  | spared _ clock ready =>
      refine ⟨regular, fun ending timer past => ready ?_⟩
      rw [clock] at past
      exact wakes ending before timer past
  | cancelled _ clock ready =>
      refine ⟨⟨regular.valid, regular.period, fun _ => rfl⟩,
        fun ending timer past => ready ?_⟩
      rw [clock] at past
      exact wakes ending before timer past
  | passed _ _ _ early =>
      exact ⟨regular, fun ending timer past => (early ending timer).2 past⟩
  | turned _ _ clock turn =>
      obtain ⟨regular, onward⟩ := regular.turn turn
      refine ⟨regular, fun ending timer past => ?_⟩
      rw [clock] at past
      exact absurd (onward ending timer) (Nat.not_lt.mpr past)

theorem Wakeful.step (wakeful : crew.Wakeful) {action : Action}
    (valid : action.Valid) : (crew.step action).Wakeful := by
  have workers (worker : Nat) (employed : Worker)
      (found : (crew.step action).workers[worker]? = some employed) :
      employed.settings.Valid := by
    rcases exists_settings found with rfl | ⟨before, member, same⟩
    · exact valid
    · rw [← same]
      exact wakeful.workers worker before member
  have loops (index : Nat) (later : Loop)
      (found : (crew.step action).timeline.loops[index]? = some later) :
      later.Regular ∧ ∀ ending, later.timer? = some ending →
        ending ≤ (crew.step action).clock →
          index ∈ (crew.step action).timeline.ready := by
    cases before : crew.timeline.loops[index]? with
    | some held =>
        obtain ⟨deeds, after, same, meets⟩ := exists_meets before action
        rw [found] at same
        cases same
        exact wakeful.of_meets before meets
    | none =>
        obtain ⟨worker, token, employed, rfl, hired, fresh⟩ :=
          started_of_missing before found
        obtain ⟨spawned, _⟩ := spawned_of_fresh hired fresh token
        rw [spawned, getElem?_concat_eq_some_iff, before] at found
        rcases found with old | ⟨_, rfl⟩
        · cases old
        · have valid := wakeful.workers worker employed hired
          exact ⟨⟨valid, .inl rfl, by simp⟩, by simp [Loop.timer?]⟩
  exact ⟨wakeful.alert.step action, workers,
    fun index held found => (loops index held found).1,
    fun index held ending found => (loops index held found).2 ending⟩

theorem Wakeful.upcoming (wakeful : crew.Wakeful)
    (idle : crew.timeline.ready = []) {ending : Nat}
    (timer : ending ∈ crew.timeline.loops.filterMap Loop.timer?) :
    crew.clock < ending := by
  obtain ⟨held, member, timer⟩ := List.mem_filterMap.mp timer
  obtain ⟨index, found⟩ := List.mem_iff_getElem?.mp member
  by_contra past
  have ready := wakeful.wakes index held ending found timer (Nat.not_lt.mp past)
  rw [idle] at ready
  cases ready

/-- A run of steps of some kind. -/
def LeadsTo (crew : Crew) (allowed : Action → Prop) (after : Crew) : Prop :=
  ∃ actions, (∀ action ∈ actions, allowed action) ∧ crew.run actions = after

namespace LeadsTo

theorem refl (crew : Crew) : crew.LeadsTo allowed crew := ⟨[], by simp, rfl⟩

theorem single (action : Action) (step : allowed action) :
    crew.LeadsTo allowed (crew.step action) :=
  ⟨[action], by simpa using step, rfl⟩

theorem trans {between : Crew} (earlier : crew.LeadsTo allowed between)
    (later : between.LeadsTo allowed after) : crew.LeadsTo allowed after := by
  obtain ⟨first, firstAllowed, rfl⟩ := earlier
  obtain ⟨second, secondAllowed, rfl⟩ := later
  refine ⟨first ++ second, ?_, run_append ..⟩
  intro action member
  exact (List.mem_append.mp member).elim (firstAllowed action)
    (secondAllowed action)

theorem valid (waits : crew.LeadsTo Action.Waits after) :
    crew.LeadsTo Action.Valid after := by
  obtain ⟨actions, waits, leads⟩ := waits
  exact ⟨actions, fun action member => (waits action member).valid, leads⟩

theorem wakeful (leads : crew.LeadsTo Action.Valid after)
    (wakeful : crew.Wakeful) : after.Wakeful := by
  obtain ⟨actions, valid, rfl⟩ := leads
  induction actions generalizing crew with
  | nil => exact wakeful
  | cons action actions induction =>
      rw [List.forall_mem_cons] at valid
      exact induction (wakeful.step valid.1) valid.2

theorem leave (crew : Crew) {call : Nat} {stop : StopCall}
    (found : crew.stops[call]? = some stop)
    (mayLeave : stop.mayLeave crew.timeline = true) :
    crew.LeadsTo Action.Valid
      { crew with stops := crew.stops.set call { stop with stage := .left } } := by
  have leaves : crew.LeadsTo Action.Valid _ := single (.leave call) trivial
  rwa [step, leave_of_found found mayLeave] at leaves

/-- Others use the stores. -/
theorem interfere {world : World} (clock : world.clock = crew.clock) :
    crew.LeadsTo Action.Valid { crew with timeline.world := world } := by
  have leads : crew.LeadsTo Action.Valid _ := single (.interfere world) trivial
  rwa [step, ← Crew.clock, ← clock] at leads

/-- All loops that are ready have their turns. -/
theorem settle (crew : Crew) :
    crew.LeadsTo Action.Waits
      { crew with timeline := crew.timeline.settle } := by
  unfold Timeline.settle
  generalize same : crew.timeline.ready = ready
  -- No loop gets ready in the turn of another one.
  induction ready generalizing crew with
  | nil =>
      have unchanged : { crew.timeline with ready := [] } = crew.timeline := by
        rw [← same]
      rw [unchanged]
      exact refl crew
  | cons index ready induction =>
      have member : index ∈ crew.timeline.ready := by simp [same]
      have turns : (crew.step (.turn index)).timeline =
          { crew.timeline.runLoop index with ready } := by
        rw [step, Timeline.turn, if_pos member, same, List.erase_cons_head,
          Timeline.runLoop_ready]
      have goesOn := induction (crew.step (.turn index)) (by rw [turns])
      rw [turns] at goesOn
      rw [List.foldl_cons, Timeline.runLoop_ready]
      exact (single (.turn index) trivial).trans goesOn

/-- The next timer can end. -/
theorem mayPass_next {time now : Nat} (clock : crew.clock = now)
    (ending : crew.timeline.settle.nextTimer? = some time) (next : now < time) :
    crew.timeline.settle.mayPass time = true := by
  have keeps := crew.timeline.settle_keeps
  refine Timeline.mayPass_iff.mpr ⟨keeps.1, ?_, ?_⟩
  · rw [keeps.2, ← Crew.clock, clock]
    exact Nat.le_of_lt next
  · exact fun later => Timeline.nextTimer?_le _ ending

theorem reach {time : Nat} (mayPass : crew.timeline.mayPass time = true) :
    crew.LeadsTo Action.Waits
      { crew with timeline := crew.timeline.reach time } := by
  have leads : crew.LeadsTo Action.Waits _ := single (.pass time) trivial
  rwa [step, Timeline.pass, if_pos mayPass] at leads

theorem passFrom (enough : Timeline → Bool) (now limit : Nat)
    (timeline : Timeline) :
    ∀ {crew : Crew}, crew.timeline = timeline → crew.clock = now →
      crew.LeadsTo Action.Waits
        { crew with timeline := timeline.passFrom enough now limit } := by
  induction now, timeline using Timeline.passFrom.induct enough limit with
  | case1 now timeline settled =>
      rename_i done
      rintro crew rfl _
      rw [Timeline.passFrom, if_pos done]
      exact settle crew
  | case2 now timeline settled going =>
      rename_i quiet
      rintro crew rfl _
      rw [Timeline.passFrom, if_neg going, quiet]
      exact settle crew
  | case3 now timeline settled going time ending next =>
      rename_i induction
      rintro crew rfl clock
      rw [Timeline.passFrom, if_neg going, ending]
      simp only [if_pos next]
      have passes := (settle crew).trans (reach (mayPass_next clock ending next.1))
      exact passes.trans (induction rfl rfl)
  | case4 now timeline settled going time ending =>
      rename_i far
      rintro crew rfl _
      rw [Timeline.passFrom, if_neg going, ending]
      simp only [if_neg far]
      exact settle crew

end LeadsTo

/-- Unless it is enough, no loop can go on before the limit is passed. -/
theorem Wakeful.passFrom_rests (enough : Timeline → Bool) (now limit : Nat)
    (timeline : Timeline) :
    ∀ {crew : Crew}, crew.Wakeful → crew.timeline = timeline →
      crew.clock = now →
        let after := timeline.passFrom enough now limit
        enough after = true ∨ after.ready = [] ∧
          (after.world.clock = now ∨ after.world.clock ≤ limit) ∧
          ∀ ending ∈ after.loops.filterMap Loop.timer?, limit < ending := by
  induction now, timeline using Timeline.passFrom.induct enough limit with
  | case1 now timeline settled =>
      rename_i done
      rintro crew _ rfl _
      rw [Timeline.passFrom, if_pos done]
      exact .inl done
  | case2 now timeline settled going =>
      rename_i quiet
      rintro crew _ rfl clock
      rw [Timeline.passFrom, if_neg going, quiet]
      have keeps := crew.timeline.settle_keeps
      refine .inr ⟨keeps.1, .inl (keeps.2.trans clock), ?_⟩
      rw [List.min?_eq_none_iff.mp quiet]
      simp
  | case3 now timeline settled going time ending next =>
      rename_i induction
      rintro crew wakeful rfl clock
      rw [Timeline.passFrom, if_neg going, ending]
      simp only [if_pos next]
      have passes := (LeadsTo.settle crew).trans
        (LeadsTo.reach (LeadsTo.mayPass_next clock ending next.1))
      refine (induction (passes.valid.wakeful wakeful) rfl rfl).imp_right ?_
      rintro ⟨ready, past, early⟩
      refine ⟨ready, .inr ?_, early⟩
      rcases past with here | before
      · exact Nat.le_trans (Nat.le_of_eq here) next.2
      · exact before
  | case4 now timeline settled going time ending =>
      rename_i far
      rintro crew wakeful rfl clock
      rw [Timeline.passFrom, if_neg going, ending]
      simp only [if_neg far]
      have keeps := crew.timeline.settle_keeps
      have settled := (LeadsTo.settle crew).valid.wakeful wakeful
      refine .inr ⟨keeps.1, .inl (keeps.2.trans clock), ?_⟩
      -- No timer has ended already: its loop would still be ready.
      intro other timer
      have later := Timeline.nextTimer?_le _ ending timer
      have next := settled.upcoming keeps.1 (List.min?_eq_some_iff.mp ending).1
      rw [Crew.clock, keeps.2, ← Crew.clock, clock] at next
      omega

/-- Loops that are left alone do not change how long deletes take. -/
theorem delay_of_waits {action : Action} (waits : action.Waits) :
    (crew.step action).timeline.world.objects.delay =
      crew.timeline.world.objects.delay := by
  cases action with
  | turn index =>
      simp only [step, Timeline.turn]
      split
      · exact Timeline.delay_runLoop _ index
      · rfl
  | pass clock =>
      simp only [step, Timeline.pass]
      split <;> rfl
  | _ => cases waits

theorem neverSlower_of_waits {actions : List Action}
    (waits : ∀ action ∈ actions, action.Waits) :
    crew.NeverSlower crew.timeline.world.objects.delay actions := by
  intro between within
  have waits : ∀ action ∈ between, action.Waits :=
    fun action member => waits action (within.subset member)
  refine Nat.le_of_eq ?_
  clear within
  induction between generalizing crew with
  | nil => rfl
  | cons action between induction =>
      rw [List.forall_mem_cons] at waits
      exact (induction waits.2).trans (delay_of_waits waits.1)

/-- A cancelled loop has ended at the limit, if the limit gives it the time. -/
theorem Wakeful.hasStopped_passFrom (wakeful : crew.Wakeful)
    {index limit : Nat} {held : Loop}
    (found : crew.timeline.loops[index]? = some held)
    (cancelled : held.cancelled = true)
    (ending : held.latestEnd crew.clock crew.timeline.world.objects.delay ≤
      limit) :
    (crew.timeline.passFrom (·.hasStopped index) crew.clock limit).hasStopped
      index = true := by
  have leads := LeadsTo.passFrom (·.hasStopped index) crew.clock limit
    crew.timeline rfl rfl
  have prompt := (leads.valid.wakeful wakeful).alert
  have rests := wakeful.passFrom_rests (·.hasStopped index) crew.clock limit
    crew.timeline rfl rfl
  obtain ⟨actions, waits, same⟩ := leads
  obtain ⟨last, foundLast, stays, bounded⟩ := stopped_or_latestEnd_run
    wakeful.alert found cancelled (.inr ending) (neverSlower_of_waits waits)
  rw [same] at foundLast bounded
  rcases rests with stopped | ⟨idle, _, later⟩
  · exact stopped
  have prompt := prompt index last foundLast
  have early (ending : Nat) (timer : last.timer? = some ending) :
      limit < ending :=
    later ending (List.mem_filterMap.mpr
      ⟨last, List.mem_of_getElem? foundLast, timer⟩)
  rw [Timeline.hasStopped, foundLast]
  rcases bounded with stopped | bounded
  · simp only [Loop.isStopped, stopped]
  cases active : last.activity with
  | stopped => simp only [Loop.isStopped, active]
  | starting =>
      rw [Prompt, active, idle] at prompt
      cases prompt
  | waiting =>
      rw [Prompt, active, idle] at prompt
      cases prompt stays
  | deleting wake own file rest result =>
      have wakes := early wake (by rw [Loop.timer?, active])
      rw [Loop.latestEnd, active] at bounded
      have sooner := Nat.le_trans (Nat.le_add_right wake _) bounded
      exact absurd sooner (Nat.not_le.mpr wakes)

namespace LeadsTo

theorem sleep (wakeful : crew.Wakeful) (millis : Nat) :
    crew.LeadsTo Action.Waits
      { crew with timeline := crew.timeline.sleep millis } := by
  have sleeps := passFrom (fun _ => false) crew.clock
    (crew.clock + millis - 1) crew.timeline rfl rfl
  obtain never | ⟨ready, past, early⟩ := wakeful.passFrom_rests
    (fun _ => false) crew.clock (crew.clock + millis - 1) crew.timeline rfl rfl
  · cases never
  have clock : crew.clock = crew.timeline.world.clock := rfl
  refine sleeps.trans (reach (Timeline.mayPass_iff.mpr ⟨ready, ?_, ?_⟩))
  · dsimp only
    omega
  · intro ending timer
    have later := early ending timer
    omega

theorem advance (wakeful : crew.Wakeful) (millis : Nat) :
    crew.LeadsTo Action.Waits
      { crew with timeline := crew.timeline.advance millis } :=
  (sleep wakeful millis).trans (settle _)

/-- A stop that has cancelled a loop waits for its end and returns. -/
theorem awaitEnd (wakeful : crew.Wakeful) {worker call loop : Nat} {held : Loop}
    (waiting : crew.stops[call]? = some ⟨worker, some loop, .waiting⟩)
    (found : crew.timeline.loops[loop]? = some held)
    (cancelled : held.cancelled = true) :
    crew.LeadsTo Action.Valid { crew with
      timeline := crew.timeline.passFrom (·.hasStopped loop) crew.clock
        (crew.timeline.endOf loop)
      stops := crew.stops.set call ⟨worker, some loop, .left⟩ } := by
  have ending := crew.timeline.endOf_eq_latestEnd found
  have ended := wakeful.hasStopped_passFrom found cancelled
    (Nat.le_of_eq ending.symm)
  have waits := passFrom (·.hasStopped loop) crew.clock
    (crew.timeline.endOf loop) crew.timeline rfl rfl
  have leaves (timeline : Timeline) (ended : timeline.hasStopped loop = true) :=
    leave { crew with timeline } waiting ended
  exact waits.valid.trans (leaves _ ended)

/-- A stop cancels the loop that it has taken, waits for its end and returns. -/
theorem stopLoop (wakeful : crew.Wakeful) {worker call loop : Nat}
    (entered : crew.stops[call]? = some ⟨worker, some loop, .entered⟩) :
    crew.LeadsTo Action.Valid { crew with
      timeline := crew.timeline.stopLoop loop
      stops := crew.stops.set call ⟨worker, some loop, .left⟩ } := by
  obtain ⟨bound, _⟩ := List.getElem?_eq_some_iff.mp entered
  have waiting := List.getElem?_set_self (a := ⟨worker, some loop, .waiting⟩) bound
  have cancels : crew.LeadsTo Action.Valid _ :=
    single (.cancelTaken call) trivial
  have cancelled := cancels.wakeful wakeful
  rw [step, cancelTaken_of_entered entered] at cancels cancelled
  unfold Timeline.stopLoop
  split
  · rename_i ended
    rw [Timeline.cancelLoops_of_hasStopped _ ended (wakeful.regular loop)]
      at cancels
    have leaves := cancels.trans (leave _ waiting ended)
    rwa [List.set_set] at leaves
  · rename_i going
    cases found : crew.timeline.loops[loop]? with
    | none =>
        rw [Timeline.hasStopped, found] at going
        exact absurd rfl going
    | some held =>
        have dead := Timeline.getElem?_cancelLoops found
          fun index _ => decide (index = loop)
        have ends := cancels.trans
          (awaitEnd cancelled waiting dead (by simp))
        rw [List.set_set] at ends
        have same : (crew.timeline.cancelLoops fun index _ =>
            index = loop).endOf loop = crew.timeline.endOf loop := by
          rw [Timeline.endOf_eq_latestEnd _ dead,
            Timeline.endOf_eq_latestEnd _ found]
          split <;> rfl
        rwa [same] at ends

/-- A delete outside all loops lets them go on in the meantime. -/
theorem deleteObject (wakeful : crew.Wakeful) (bucket key : String) :
    crew.LeadsTo Action.Valid
      { crew with timeline := (crew.timeline.deleteObject bucket key).2 } := by
  have begins := crew.timeline.world.still_beginDelete bucket key
  have begun : crew.LeadsTo Action.Valid { crew with
      timeline.world := crew.timeline.world.beginDelete bucket key } :=
    interfere begins.clock
  have finishes (between : Crew) : between.LeadsTo Action.Valid { between with
      timeline.world := (between.timeline.world.finishDelete bucket key).2 } :=
    interfere (between.timeline.world.still_finishDelete bucket key).clock
  unfold Timeline.deleteObject
  dsimp only
  split
  · exact begun.trans (finishes _)
  · have sleeps := sleep (begun.wakeful wakeful)
    exact (begun.trans (sleeps _).valid).trans (finishes _)

theorem answer (wakeful : crew.Wakeful) (call : Call) :
    crew.LeadsTo Action.Valid
      { crew with timeline := (Timeline.answer call crew.timeline).2 } := by
  have stored (other : ∀ bucket key, call ≠ .deleteObject bucket key) :
      crew.LeadsTo Action.Valid { crew with
        timeline.world := (World.answer call crew.timeline.world).2 } :=
    interfere (World.beside_answer crew.timeline.world other).clock
  cases call with
  | deleteObject bucket key => exact deleteObject wakeful bucket key
  | _ => exact stored (by simp)

theorem tellAll (events : List LogEvent) (crew : Crew) :
    crew.LeadsTo Action.Valid
      { crew with timeline := Timeline.backend.tellAll events crew.timeline } := by
  induction events generalizing crew with
  | nil => exact refl crew
  | cons event events induction =>
      have tells : crew.LeadsTo Action.Valid
          { crew with timeline := crew.timeline.tell event } := interfere rfl
      exact tells.trans (induction _)

theorem perform (wakeful : crew.Wakeful) (request : Phase.Request) :
    crew.LeadsTo Action.Valid { crew with
      timeline := (request.perform Timeline.backend crew.timeline).2 } := by
  have announced := tellAll request.announced crew
  have answered := answer (announced.wakeful wakeful) request.call
  exact (announced.trans answered).trans (tellAll _ _)

/-- A batch outside all loops. -/
theorem runPhase (settings : CleanupSettings) (phase : Phase)
    (timeline : Timeline) :
    ∀ {crew : Crew}, crew.Wakeful → crew.timeline = timeline →
      crew.LeadsTo Action.Valid { crew with
        timeline := (phase.run settings Timeline.backend timeline).2 } := by
  induction phase, timeline using
    Phase.run.induct settings Timeline.backend with
  | case1 phase timeline outcome ends =>
      rintro crew _ rfl
      cases phase <;> cases ends
      rw [Phase.run_finished]
      exact refl crew
  | case2 phase timeline request asks next =>
      rename_i induction
      rintro crew wakeful rfl
      rw [Phase.run_of_request asks]
      have performs := perform wakeful request
      exact performs.trans (induction (performs.wakeful wakeful) rfl)

end LeadsTo

end Crew

end FileCleanup.Simulation
