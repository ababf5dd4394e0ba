import FileCleanup.Proofs.Crew.Cancellation
import FileCleanup.Proofs.Crew.Schedule
import FileCleanup.Proofs.Crew.Stopping

namespace FileCleanup.Simulation

/-! Which steps cancel which workers: a token all the workers on it, and a stop
its own worker only. -/

namespace Loop

variable {held after : Loop} {deeds : List Deed} {ticket now delay : Nat}

theorem Pause.token (pause : held.Pause ticket now delay deeds after) :
    after.token = held.token := by
  cases pause <;> rfl

theorem Turn.token (turn : held.Turn ticket now delay deeds after) :
    after.token = held.token := by
  cases turn with
  | rests | sleepsOn => rfl
  | starts _ pause | pauses _ pause | wakes _ _ pause => exact pause.token

theorem Pause.ends (pause : held.Pause ticket now delay deeds after)
    (waiting : held.activity = .waiting) (ended : after.activity = .stopped) :
    held.cancelled = true := by
  cases pause with
  | stops cancelled => exact cancelled
  | waits =>
      rw [waiting] at ended
      cases ended
  | works | sleeps => cases ended

theorem Turn.ends (turn : held.Turn ticket now delay deeds after)
    (ended : after.activity = .stopped) :
    held.activity = .stopped ∨ held.cancelled = true := by
  cases turn with
  | rests stopped => exact .inl stopped
  | starts _ pause => exact .inr (pause.ends rfl ended)
  | pauses waiting pause => exact .inr (pause.ends waiting ended)
  | sleepsOn => cases ended
  | wakes _ _ pause => exact .inr (pause.ends rfl ended)

end Loop

namespace Timeline

theorem cancelled_turn (timeline : Timeline) (index : Nat) :
    (timeline.turn index).cancelled = timeline.cancelled := by
  unfold turn runLoop
  split
  · dsimp only
    split <;> rfl
  · rfl

end Timeline

namespace Crew

variable {crew : Crew} {worker index : Nat} {held : Loop} {action : Action}
  {token : String} {actions : List Action}

/-- No stop cancels a token. -/
theorem isCancelled_step (crew : Crew) (action : Action) (token : String) :
    (crew.step action).timeline.isCancelled token = true ↔
      crew.timeline.isCancelled token = true ∨ action = .cancel token := by
  have kept (same : (crew.step action).timeline.cancelled =
      crew.timeline.cancelled) (other : action ≠ .cancel token) :
      (crew.step action).timeline.isCancelled token = true ↔
        crew.timeline.isCancelled token = true ∨ action = .cancel token := by
    rw [Timeline.isCancelled, same]
    exact (or_iff_left other).symm
  cases action with
  | start worker parent =>
      refine kept ?_ (by simp)
      rcases crew.timeline_start worker parent with same | tells | ⟨_, spawns⟩
      · rw [step, same]
      · rw [step, tells]
        rfl
      · rw [step, spawns]
        rfl
  | stop worker => exact kept (by rw [step, timeline_stop]) (by simp)
  | cancelTaken call =>
      refine kept ?_ (by simp)
      rcases crew.cancelTaken_eq call with same | ⟨_, _, entered⟩
      · rw [step, same]
      · rw [step, cancelTaken_of_entered entered]
        rfl
  | leave call => exact kept (by rw [step, timeline_leave]) (by simp)
  | cancel other =>
      simp only [step, Timeline.cancelToken, Timeline.isCancelled,
        List.contains_cons, Bool.or_eq_true, beq_iff_eq, Action.cancel.injEq]
      exact or_comm.trans (or_congr_right eq_comm)
  | turn other => exact kept (Timeline.cancelled_turn ..) (by simp)
  | pass time =>
      refine kept ?_ (by simp)
      simp only [step, Timeline.pass]
      split <;> rfl
  | hire | interfere => exact kept rfl (by simp)

theorem isCancelled_run (crew : Crew) (actions : List Action) (token : String) :
    (crew.run actions).timeline.isCancelled token = true ↔
      crew.timeline.isCancelled token = true ∨ .cancel token ∈ actions := by
  induction actions generalizing crew with
  | nil => simp [run]
  | cons action actions induction =>
      rw [List.mem_cons, ← or_assoc, eq_comm (a := Action.cancel token),
        ← isCancelled_step]
      exact induction (crew.step action)

/-- A stop of the worker has cancelled the loop that it has taken. -/
def Stopped (crew : Crew) (worker index : Nat) : Prop :=
  ∃ (call : Nat) (stage : StopStage),
    crew.stops[call]? = some ⟨worker, some index, stage⟩ ∧ stage ≠ .entered

theorem stopped_step (crew : Crew) (action : Action) (worker index : Nat) :
    (crew.step action).Stopped worker index ↔
      crew.Stopped worker index ∨ ∃ call : Nat, action = .cancelTaken call ∧
        crew.stops[call]? = some ⟨worker, some index, .entered⟩ := by
  constructor
  · rintro ⟨call, stage, found, past⟩
    have notes := crew.notes_step action
    generalize (crew.step action).stops = stops at notes found
    cases notes with
    | same => exact .inl ⟨call, stage, found, past⟩
    | enters =>
        rcases getElem?_concat_eq_some_iff.mp found with old | ⟨_, new⟩
        · exact .inl ⟨call, stage, old, past⟩
        · cases new
          exact absurd rfl past
    | @cancels other _ _ entered =>
        rcases eq_or_getElem?_of_set found with ⟨rfl, new⟩ | old
        · cases new
          exact .inr ⟨call, rfl, entered⟩
        · exact .inl ⟨call, stage, old, past⟩
    | @leaves other leaving entered mayLeave =>
        rcases eq_or_getElem?_of_set found with ⟨rfl, new⟩ | old
        · obtain ⟨owner, taken, before⟩ := leaving
          cases new
          refine .inl ⟨call, before, entered, ?_⟩
          rintro rfl
          cases mayLeave
        · exact .inl ⟨call, stage, old, past⟩
  · rintro (⟨call, stage, found, past⟩ | ⟨call, rfl, entered⟩)
    · obtain ⟨after, foundAfter, advances⟩ := exists_advances found action
      cases advances with
      | stays => exact ⟨call, stage, foundAfter, past⟩
      | cancels entered => exact absurd entered past
      | leaves => exact ⟨call, .left, foundAfter, by simp⟩
    · obtain ⟨bound, _⟩ := List.getElem?_eq_some_iff.mp entered
      refine ⟨call, .waiting, ?_, by simp⟩
      rw [step, cancelTaken_of_entered entered]
      exact List.getElem?_set_self bound

/-- The steps that cancel a loop that `worker` has let go on `token`. -/
def Strikes (crew : Crew) (worker index : Nat) (token : String)
    (action : Action) : Prop :=
  action = .cancel token ∨ ∃ call : Nat, action = .cancelTaken call ∧
    crew.stops[call]? = some ⟨worker, some index, .entered⟩

/-- What a step does to the token and the cancellation of a loop. -/
structure Marks (crew : Crew) (worker index : Nat) (held : Loop)
    (action : Action) (after : Loop) : Prop where
  token : after.token = held.token
  cancelled : after.cancelled = true ↔
    held.cancelled = true ∨ crew.Strikes worker index held.token action
  ended : after.activity = .stopped →
    held.activity = .stopped ∨ held.cancelled = true

theorem exists_marks (wellRun : crew.WellRun) (owns : crew.Owns worker index)
    (found : crew.timeline.loops[index]? = some held) (action : Action) :
    ∃ after, (crew.step action).timeline.loops[index]? = some after ∧
      crew.Marks worker index held action after := by
  have spared
      (same : (crew.step action).timeline.loops[index]? = some held)
      (spares : ¬crew.Strikes worker index held.token action) :
      ∃ after, (crew.step action).timeline.loops[index]? = some after ∧
        crew.Marks worker index held action after :=
    ⟨held, same, rfl, (or_iff_left spares).symm, .inl⟩
  have struck (same : (crew.step action).timeline.loops[index]? =
        some { held with cancelled := true })
      (strikes : crew.Strikes worker index held.token action) :
      ∃ after, (crew.step action).timeline.loops[index]? = some after ∧
        crew.Marks worker index held action after :=
    ⟨_, same, rfl, iff_of_true rfl (.inr strikes), .inl⟩
  cases action with
  | start anyone parent =>
      refine spared ?_ (by simp [Strikes])
      rcases crew.timeline_start anyone parent with same | tells | ⟨_, spawns⟩
      · rwa [step, same]
      · rwa [step, tells]
      · rw [step, spawns]
        obtain ⟨bound, _⟩ := List.getElem?_eq_some_iff.mp found
        exact (List.getElem?_append_left bound).trans found
  | stop anyone =>
      exact spared (by rwa [step, timeline_stop]) (by simp [Strikes])
  | cancelTaken call =>
      by_cases mine : crew.stops[call]? = some ⟨worker, some index, .entered⟩
      · refine struck ?_ (.inr ⟨call, rfl, mine⟩)
        rw [step, cancelTaken_of_entered mine]
        simpa using Timeline.getElem?_cancelLoops found
          (fun other _ => other = index)
      · refine spared ?_ (by simpa [Strikes] using mine)
        rcases crew.cancelTaken_eq call with same | ⟨anyone, loop, entered⟩
        · rwa [step, same]
        · have other : index ≠ loop := by
            rintro rfl
            have owned := wellRun.takes anyone call index ⟨_, entered⟩
            cases (Option.some.inj (owned.symm.trans owns))
            exact mine entered
          rw [step, cancelTaken_of_entered entered]
          simpa [other] using Timeline.getElem?_cancelLoops found
            (fun index _ => index = loop)
  | leave call =>
      exact spared (by rwa [step, timeline_leave]) (by simp [Strikes])
  | cancel token =>
      have after := Timeline.getElem?_cancelLoops found
        (fun _ loop => loop.token = token)
      by_cases same : held.token = token
      · exact struck (after.trans (by simp [same])) (.inl (by rw [same]))
      · exact spared (after.trans (by simp [same]))
          (by simp [Strikes, Ne.symm same])
  | turn other =>
      by_cases goes : other = index ∧ index ∈ crew.timeline.ready
      · obtain ⟨rfl, ready⟩ := goes
        have turn := held.turn_run crew.timeline.tickets crew.timeline.world
        obtain ⟨bound, _⟩ := List.getElem?_eq_some_iff.mp found
        refine ⟨_, ?_, turn.token, ?_, turn.ends⟩
        · rw [step, Timeline.turn_of_ready found ready]
          exact List.getElem?_set_self bound
        · simp [turn.cancelled, Strikes]
      · refine spared ?_ (by simp [Strikes])
        by_cases same : other = index
        · subst same
          rwa [step, Timeline.turn_of_unready fun ready => goes ⟨rfl, ready⟩]
        · exact (Timeline.getElem?_turn same).trans found
  | pass time =>
      refine spared ?_ (by simp [Strikes])
      simp only [step, Timeline.pass]
      split <;> exact found
  | hire | interfere => exact spared found (by simp [Strikes])

/-- A worker has been started on `token`, and since then its loop is cancelled
with the token, or by a stop of its own. -/
structure Follows (token : String) (worker index : Nat) (crew : Crew)
    (actions : List Action) : Prop where
  owns : crew.Owns worker index
  held : ∃ held, crew.timeline.loops[index]? = some held ∧
    held.token = token ∧ (held.cancelled = true ↔
      .cancel token ∈ actions ∨ crew.Stopped worker index) ∧
    (held.activity = .stopped → held.cancelled = true)

theorem Follows.step (follows : Follows token worker index crew actions)
    (wellRun : crew.WellRun) (action : Action) :
    Follows token worker index (crew.step action) (actions ++ [action]) := by
  obtain ⟨owns, held, found, same, cancelled, ended⟩ := follows
  obtain ⟨after, foundAfter, marks⟩ := exists_marks wellRun owns found action
  refine ⟨owns.step action, after, foundAfter, marks.token.trans same, ?_, ?_⟩
  · rw [marks.cancelled, Strikes, cancelled, same, stopped_step,
      List.mem_append, List.mem_singleton, eq_comm (a := action), or_or_or_comm]
  · intro stopped
    exact marks.cancelled.mpr (.inl ((marks.ended stopped).elim ended id))

theorem Follows.run (follows : Follows token worker index crew actions)
    (wellRun : crew.WellRun) (later : List Action) :
    Follows token worker index (crew.run later) (actions ++ later) := by
  induction later generalizing crew actions with
  | nil => rwa [List.append_nil]
  | cons action later induction =>
      rw [List.append_cons]
      exact induction (follows.step wellRun action) (wellRun.step action)

theorem follows_start (world : World) {first : List Action} {employed : Worker}
    (hired : ((ofWorld world).run first).workers[worker]? = some employed)
    (unstarted : ((ofWorld world).run first).answers worker = [])
    (token : String) :
    Follows token worker ((ofWorld world).run first).timeline.loops.length
      (((ofWorld world).run first).step (.start worker token))
      (first ++ [.start worker token]) := by
  have wellRun := (wellRun_ofWorld world).run first
  have fresh := wellRun.fresh_of_unanswered hired unstarted
  obtain ⟨owns, free⟩ := wellRun.held_start hired unstarted token
  have loops := (spawned_of_fresh hired fresh token).1
  have spawned := congrArg
    (·[((ofWorld world).run first).timeline.loops.length]?) loops
  refine ⟨owns, _, spawned.trans List.getElem?_concat_length, rfl, ?_, nofun⟩
  have unstopped : ¬(((ofWorld world).run first).step
      (.start worker token)).Stopped worker
        ((ofWorld world).run first).timeline.loops.length := by
    rintro ⟨call, stage, taken, _⟩
    exact free worker call ⟨stage, taken⟩
  rw [or_iff_left unstopped, isCancelled_run]
  simp [ofWorld, Timeline.isCancelled]

/-- A stop of the worker has taken its loop as soon as there was one. -/
theorem WellRun.takes_iff (wellRun : crew.WellRun) {employed : Worker}
    (hired : crew.workers[worker]? = some employed)
    (unstarted : crew.answers worker = []) (token : String)
    (later : List Action) :
    (∃ call, (crew.run (.start worker token :: later)).Takes worker call
      crew.timeline.loops.length) ↔ .stop worker ∈ later := by
  constructor
  · rintro ⟨call, takes⟩
    by_contra unstopped
    obtain ⟨owns, free⟩ := wellRun.held_start hired unstarted token
    exact (wellRun.step _).free_run owns free later unstopped worker call takes
  · intro stopped
    obtain ⟨between, rest, rfl, unstopped⟩ := List.eq_append_cons_of_mem stopped
    exact ⟨_, wellRun.takes_stop_run hired unstarted token unstopped rest⟩

/-- A worker goes on with its batches: its first tick and each one after a
batch begins another, and no delete is slept over. -/
structure Works (first : Ticker) (crew : Crew) (index : Nat) (held : Loop)
    (history : List (Nat × Deed)) : Prop where
  prompt : crew.Prompt index held
  begun : crew.Over first.due → beginnings history ≠ []
  next : ∀ batch time : Nat, (beginnings history)[batch]? = some time →
    batch < (endings history).length → crew.Over (time + first.period) →
      batch + 1 < (beginnings history).length

theorem Keeps.works {first : Ticker} {history : List (Nat × Deed)}
    (keeps : Keeps first worker index crew history) (alert : crew.Alert)
    (positive : Ticker.slack < first.period)
    (found : crew.timeline.loops[index]? = some held)
    (uncancelled : held.cancelled = false) :
    crew.Works first index held history := by
  obtain ⟨same, foundSame, onTime⟩ := keeps.onTime
  rw [found] at foundSame
  cases foundSame
  exact ⟨alert index held found, (onTime uncancelled).begun_of_over positive,
    fun _ _ => (onTime uncancelled).next_of_over⟩

/-- A worker begins no more batches, and its loop ends for ever as soon as the
deletes of the batch that it is in are over. -/
def Ends (crew : Crew) (worker : Nat) (held : Loop) : Prop :=
  ∀ later, .begins ∉ (crew.history worker later).map Prod.snd ∧
    ∀ slowest, crew.NeverSlower slowest later →
      (crew.run later).Over (held.latestEnd crew.clock slowest) →
        (crew.run later).Exited worker ∧
          ∀ more, (crew.run later).Silent worker more

theorem Reached.ends (reached : crew.Reached) (owns : crew.Owns worker index)
    (found : crew.timeline.loops[index]? = some held)
    (cancelled : held.cancelled = true) : crew.Ends worker held := by
  have wellRun := reached.wellRun
  intro later
  have start : Winds held worker index crew [] :=
    ⟨owns, held, found, cancelled, Loop.windsUp_refl held⟩
  obtain ⟨_, _, _, _, winds⟩ := start.run wellRun later
  refine ⟨winds.begins_not_mem, fun slowest never passed => ?_⟩
  obtain ⟨last, foundLast, stays, ending⟩ := stopped_or_latestEnd_run
    reached.alert found cancelled (.inr (Nat.le_refl _)) never
  have prompt := reached.alert.run later index last foundLast
  have stopped := stopped_of_over prompt stays ending passed
  have exited : (crew.run later).Exited worker :=
    ⟨index, owns.run later, last, foundLast, stopped⟩
  exact ⟨exited, exited.silent (wellRun.run later)⟩

/-- Cancellation flows from a token to the workers that are started on it, and
no other way.  Tokens are cancelled by nothing but `cancel`.  A worker started
on `token` is cancelled if that is, before its start or after it, or by a stop
of its own, and ends if it is cancelled; else it goes on with its batches,
whatever happens to the other workers and tokens. -/
theorem cancellation_flows_down (world : World) (first : List Action)
    {worker : Nat} {employed : Worker}
    (hired : ((ofWorld world).run first).workers[worker]? = some employed)
    (unstarted : ((ofWorld world).run first).answers worker = [])
    (token : String) (later : List Action) :
    let before := (ofWorld world).run first
    let actions := first ++ .start worker token :: later
    let crew := before.run (.start worker token :: later)
    let history := before.history worker (.start worker token :: later)
    let period := employed.settings.intervalSeconds * 1000
    before.Recorded worker (.start worker token :: later) ∧
    (∀ more, crew.Recorded worker more) ∧
    (∀ other, crew.timeline.isCancelled other = true ↔
      .cancel other ∈ actions) ∧
    ∃ index held, crew.Employs worker index ∧
      crew.timeline.loops[index]? = some held ∧ held.token = token ∧
      ((∃ call, crew.Takes worker call index) ↔ .stop worker ∈ later) ∧
      (held.cancelled = true ↔
        .cancel token ∈ actions ∨ crew.Stopped worker index) ∧
      (held.activity = .stopped → held.cancelled = true) ∧
      (held.cancelled = true → crew.Ends worker held) ∧
      (held.cancelled = false → 0 < period →
        crew.Works (.start before.clock period) index held history) := by
  intro before actions crew history period
  have whole : (ofWorld world).run actions = crew := run_append ..
  have reached : crew.Reached := ⟨world, actions, whole⟩
  have wellRun : before.WellRun := (wellRun_ofWorld world).run first
  have begun := wellRun.step (.start worker token)
  have follows := (follows_start world hired unstarted token).run begun later
  rw [← List.append_cons] at follows
  obtain ⟨owns, held, found, same, cancelled, ended⟩ := follows
  refine ⟨wellRun.recorded worker _, reached.wellRun.recorded worker,
    fun other => ?_, before.timeline.loops.length, held,
    reached.wellRun.employs owns, found, same,
    wellRun.takes_iff hired unstarted token later, cancelled, ended,
    reached.ends owns found, fun uncancelled positive => ?_⟩
  · rw [← whole, isCancelled_run]
    simp [ofWorld, Timeline.isCancelled]
  · have longer : Ticker.slack < period := by
      simp only [Ticker.slack, period] at positive ⊢
      omega
    have keeps := (keeps_start wellRun hired unstarted token).run longer begun
      later
    exact keeps.works reached.alert longer found uncancelled

/-- Of two workers on one token the first has been stopped. -/
def Sample.oneStopped : List Action :=
  [.hire .standard, .hire .standard, .start 0 "main", .turn 0, .stop 0,
    .cancelTaken 0, .turn 0]

/-- The second one begins a batch, and then the token is cancelled. -/
def Sample.secondCancelled : List Action :=
  [.turn 1, .pass 300000, .turn 1, .cancel "main"]

theorem cancellation_flows_down_sample :
    let before := (ofWorld Sample.world).run Sample.oneStopped
    let history := before.history 1 (.start 1 "main" :: Sample.secondCancelled)
    before.timeline.loops.map Loop.isStopped = [true] ∧
      before.timeline.isCancelled "main" = false ∧
      beginnings history = [300000] ∧
      ∃ held, held.token = "main" ∧ (before.run
        (.start 1 "main" :: Sample.secondCancelled)).Ends 1 held := by
  have hired : ((ofWorld Sample.world).run Sample.oneStopped).workers[1]? =
      some ⟨.standard, .closed⟩ := rfl
  have unstarted : ((ofWorld Sample.world).run Sample.oneStopped).answers 1 =
      [] := rfl
  refine ⟨by decide +kernel, by decide +kernel, by decide +kernel, ?_⟩
  obtain ⟨_, _, _, _, held, _, _, same, _, cancelled, _, ends, _⟩ :=
    cancellation_flows_down Sample.world Sample.oneStopped hired unstarted
      "main" Sample.secondCancelled
  have among : Action.cancel "main" ∈
      Sample.oneStopped ++ .start 1 "main" :: Sample.secondCancelled := by
    simp [Sample.secondCancelled]
  exact ⟨held, same, ends (cancelled.mpr (.inl among))⟩

end Crew

end FileCleanup.Simulation
