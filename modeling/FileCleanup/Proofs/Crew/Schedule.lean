import FileCleanup.Proofs.Crew.Records
import FileCleanup.Proofs.Crew.Timetable

namespace FileCleanup.Simulation

/-! The schedule of a worker: when its batches begin. -/

namespace Crew

variable {crew : Crew} {worker index : Nat} {held after : Loop}
  {action : Action} {history : List (Nat × Deed)} {deeds : List Deed}

theorem clock_le_step (crew : Crew) (action : Action) :
    crew.clock ≤ (crew.step action).clock := by
  cases action with
  | start worker token =>
      rcases crew.timeline_start worker token with same | tells | ⟨_, spawns⟩
      · exact Nat.le_of_eq (by rw [step, clock, clock, same])
      · exact Nat.le_of_eq (by rw [step, clock, clock, tells]; rfl)
      · exact Nat.le_of_eq (by rw [step, clock, clock, spawns]; rfl)
  | stop worker => exact Nat.le_of_eq (by rw [step, clock, clock, timeline_stop])
  | leave call => exact Nat.le_of_eq (by rw [step, clock, clock, timeline_leave])
  | cancelTaken call =>
      rcases crew.cancelTaken_eq call with same | ⟨worker, taken, entered⟩
      · exact Nat.le_of_eq (by rw [step, same])
      · exact Nat.le_of_eq
          (by rw [step, clock, clock, cancelTaken_of_entered entered]; rfl)
  | turn other => exact Nat.le_of_eq (Timeline.clock_turn ..).symm
  | pass time =>
      simp only [step, clock, Timeline.pass]
      split
      · rename_i mayPass
        exact (Timeline.mayPass_iff.mp mayPass).2.1
      · exact Nat.le_refl _
  | hire | cancel | interfere => exact Nat.le_refl _

/-- All of a history lies in the past. -/
def Past (crew : Crew) (history : List (Nat × Deed)) : Prop :=
  ∀ entry ∈ history, entry.1 ≤ crew.clock

theorem Past.mono {later : Crew} (past : crew.Past history)
    (onward : crew.clock ≤ later.clock) : later.Past history :=
  fun entry member => Nat.le_trans (past entry member) onward

theorem Past.append (past : crew.Past history) (deeds : List Deed) :
    crew.Past (history ++ deeds.map (Prod.mk crew.clock)) := by
  intro entry member
  rcases List.mem_append.mp member with old | new
  · exact past entry old
  · obtain ⟨deed, _, rfl⟩ := List.mem_map.mp new
    exact Nat.le_refl _

theorem Past.beginnings (past : crew.Past history) :
    ∀ time ∈ beginnings history, time ≤ crew.clock := by
  intro time member
  obtain ⟨⟨instant, deed⟩, old, same⟩ := List.mem_filterMap.mp member
  cases deed <;> cases same
  exact past _ old

theorem Past.endings (past : crew.Past history) :
    ∀ time ∈ endings history, time ≤ crew.clock := by
  intro time member
  obtain ⟨⟨instant, deed⟩, old, same⟩ := List.mem_filterMap.mp member
  cases deed <;> cases same
  exact past _ old

/-- A loop keeps the timetable that begins with the ticker `first`. -/
inductive OnTime (first : Ticker) (crew : Crew) (index : Nat)
    (history : List (Nat × Deed)) (held : Loop) : Prop
  | starting (active : held.activity = .starting) (unheard : history = [])
      (starts : Ticker.start crew.clock (held.settings.intervalSeconds * 1000) =
        first)
      (ready : index ∈ crew.timeline.ready)
  | waiting (active : held.activity = .waiting)
      (table : Timetable first (beginnings history) (endings history)
        held.ticker)
      (idle : (beginnings history).length = (endings history).length)
      (early : crew.clock ≤ held.ticker.due)
      (prompt : crew.clock = held.ticker.due → index ∈ crew.timeline.ready)
  | working {wake own : Nat} {file : FileRecord} {rest : List FileRecord}
      {result : BatchResult}
      (active : held.activity = .deleting wake own file rest result)
      (table : Timetable first (beginnings history) (endings history)
        held.ticker)
      (busy : (beginnings history).length = (endings history).length + 1)

variable {first : Ticker} {ticket now delay : Nat}

theorem onTime_of_pause (pause : held.Pause ticket now delay deeds after)
    (positive : Ticker.slack < first.period) (clock : crew.clock = now) (past : crew.Past history)
    (waiting : held.activity = .waiting)
    (uncancelled : held.cancelled = false)
    (table : Timetable first (beginnings history) (endings history) held.ticker)
    (idle : (beginnings history).length = (endings history).length)
    (prompt : held.ticker.due ≤ now →
      now = held.ticker.due ∨ (endings history).getLast? = some now) :
    OnTime first crew index (history ++ deeds.map (Prod.mk now)) after := by
  subst clock
  cases pause with
  | stops cancelled =>
      rw [uncancelled] at cancelled
      cases cancelled
  | waits _ early =>
      rw [List.map_nil, List.append_nil]
      exact .waiting waiting table idle (Nat.le_of_lt early)
        fun same => absurd same (Nat.ne_of_lt early)
  | works _ due =>
      -- No delete took time: the batch ends at the instant at which it begins.
      have begins := table.begins idle past.endings due (prompt due)
      have onward : crew.clock < (held.ticker.taken crew.clock).due := by
        apply Ticker.lt_due_taken
        rwa [table.period]
      have passed : ∀ time ∈ beginnings history ++ [crew.clock],
          time ≤ crew.clock := by
        intro time member
        rcases List.mem_append.mp member with old | new
        · exact past.beginnings time old
        · exact Nat.le_of_eq (List.mem_singleton.mp new)
      have ends := begins.ends (by simp [idle]) passed
      refine .waiting rfl ?_ ?_ (Nat.le_of_lt onward)
        fun same => absurd same (Nat.ne_of_lt onward)
      · simpa using ends
      · simp [idle]
  | sleeps _ due =>
      have begins := table.begins idle past.endings due (prompt due)
      refine .working rfl ?_ ?_
      · simpa using begins
      · simp [idle]

theorem OnTime.turn (onTime : OnTime first crew index history held)
    (positive : Ticker.slack < first.period) (past : crew.Past history)
    (uncancelled : held.cancelled = false) {later : Crew}
    (clock : later.clock = crew.clock)
    (turn : held.Turn ticket crew.clock delay deeds after) :
    OnTime first later index (history ++ deeds.map (Prod.mk crew.clock))
      after := by
  have recent {history : List (Nat × Deed)} (past : crew.Past history) :
      later.Past history := past.mono (Nat.le_of_eq clock.symm)
  cases turn with
  | rests stopped =>
      cases onTime with
      | starting active | waiting active | working active =>
          rw [stopped] at active
          cases active
  | starts starting pause =>
      cases onTime with
      | waiting active | working active =>
          rw [starting] at active
          cases active
      | starting _ unheard starts =>
          subst unheard
          -- No time has passed since the start, so no tick is taken late.
          refine onTime_of_pause pause positive clock (recent past) rfl
            uncancelled ?_ rfl fun due => ?_
          · rw [starts]
            exact .opens
          · exact .inl (Nat.le_antisymm (Ticker.le_firstDue _ _) due)
  | pauses waiting pause =>
      cases onTime with
      | starting active | working active =>
          rw [waiting] at active
          cases active
      | waiting _ table idle early =>
          exact onTime_of_pause pause positive clock (recent past) waiting
            uncancelled table idle fun due => .inl (Nat.le_antisymm early due)
  | sleepsOn asleep =>
      cases onTime with
      | starting active | waiting active =>
          rw [asleep] at active
          cases active
      | working _ table busy =>
          exact .working rfl (by simpa using table) (by simpa using busy)
  | @wakes _ _ _ _ _ exchanges outcome others _ asleep _ pause =>
      cases onTime with
      | starting active | waiting active =>
          rw [asleep] at active
          cases active
      | working _ table busy =>
          -- A tick that came due during the batch is taken now that it ends.
          have ends := table.ends busy past.beginnings
          have told := past.append (exchanges.map .speaks ++ [.ends outcome])
          rw [List.append_cons, List.map_append, ← List.append_assoc]
          refine onTime_of_pause pause positive clock (recent told) rfl
            uncancelled ?_ ?_ fun _ => .inr ?_
          · simpa using ends
          · simpa using busy
          · simp

theorem OnTime.step (onTime : OnTime first crew index history held)
    (positive : Ticker.slack < first.period) (past : crew.Past history)
    (meets : crew.Meets index held action deeds after)
    (uncancelled : after.cancelled = false) :
    OnTime first (crew.step action) index
      (history ++ deeds.map (Prod.mk crew.clock)) after := by
  cases meets with
  | cancelled => cases uncancelled
  | spared rests clock ready =>
      rw [List.map_nil, List.append_nil]
      cases onTime with
      | starting active unheard starts waits =>
          exact .starting active unheard (by rwa [clock]) (ready waits)
      | waiting active table idle early prompt =>
          refine .waiting active table idle ?_ ?_ <;> rw [clock]
          · exact early
          · exact fun due => ready (prompt due)
      | working active table busy => exact .working active table busy
  | passed rests unready later early =>
      rw [List.map_nil, List.append_nil]
      cases onTime with
      | starting _ _ _ waits =>
          rw [unready] at waits
          cases waits
      | waiting active table idle =>
          have early := early _ (by rw [Loop.timer?, active])
          exact .waiting active table idle early.1
            fun due => early.2 (Nat.le_of_eq due.symm)
      | working active table busy => exact .working active table busy
  | turned _ _ clock turn =>
      rw [turn.cancelled] at uncancelled
      exact onTime.turn positive past uncancelled clock turn

/-- Up to its cancellation a worker keeps its timetable. -/
structure Keeps (first : Ticker) (worker index : Nat) (crew : Crew)
    (history : List (Nat × Deed)) : Prop where
  owns : crew.Owns worker index
  past : crew.Past history
  onTime : ∃ held, crew.timeline.loops[index]? = some held ∧
    (held.cancelled = false → OnTime first crew index history held)

theorem Keeps.step (keeps : Keeps first worker index crew history)
    (positive : Ticker.slack < first.period) (wellRun : crew.WellRun)
    (action : Action) :
    Keeps first worker index (crew.step action)
      (history ++ crew.deeds worker action) := by
  obtain ⟨held, found, onTime⟩ := keeps.onTime
  obtain ⟨deeds, after, foundAfter, meets⟩ := exists_meets found action
  rw [wellRun.deeds_of_meets keeps.owns found meets]
  refine ⟨keeps.owns.step action,
    (keeps.past.append deeds).mono (crew.clock_le_step action), after,
    foundAfter, fun uncancelled => ?_⟩
  have before : held.cancelled = false := by
    cases meets with
    | cancelled => cases uncancelled
    | turned _ _ _ turn => rwa [turn.cancelled] at uncancelled
    | spared | passed => exact uncancelled
  exact (onTime before).step positive keeps.past meets uncancelled

theorem Keeps.run (keeps : Keeps first worker index crew history)
    (positive : Ticker.slack < first.period) (wellRun : crew.WellRun)
    (actions : List Action) :
    Keeps first worker index (crew.run actions)
      (history ++ crew.history worker actions) :=
  history_induction worker
    (fun wellRun keeps action => keeps.step positive wellRun action) wellRun
    keeps actions

theorem keeps_start (wellRun : crew.WellRun) {employed : Worker}
    (hired : crew.workers[worker]? = some employed)
    (unstarted : crew.answers worker = []) (token : String) :
    Keeps (.start crew.clock (employed.settings.intervalSeconds * 1000)) worker
      crew.timeline.loops.length (crew.step (.start worker token)) [] := by
  have fresh := wellRun.fresh_of_unanswered hired unstarted
  obtain ⟨loops, ready⟩ := spawned_of_fresh hired fresh token
  have spawned := congrArg (·[crew.timeline.loops.length]?) loops
  refine ⟨(wellRun.held_start hired unstarted token).1, nofun,
    _, spawned.trans List.getElem?_concat_length, fun _ => ?_⟩
  refine .starting rfl rfl ?_ ready
  rw [step, start_of_fresh hired fresh]
  rfl

theorem OnTime.exists_table (onTime : OnTime first crew index history held) :
    ∃ ticker, Timetable first (beginnings history) (endings history) ticker := by
  cases onTime with
  | starting _ unheard =>
      subst unheard
      exact ⟨first, .opens⟩
  | waiting _ table | working _ table => exact ⟨_, table⟩

theorem OnTime.not_stopped (onTime : OnTime first crew index history held) :
    held.activity ≠ .stopped := by
  cases onTime with
  | starting active | waiting active | working active => simp [active]

theorem OnTime.begun_of_over (onTime : OnTime first crew index history held)
    (positive : Ticker.slack < first.period) (passed : crew.Over first.due) :
    beginnings history ≠ [] := by
  cases onTime with
  | starting _ _ starts =>
      have early : crew.clock < first.due := by
        rw [← starts] at positive ⊢
        exact Ticker.lt_firstDue crew.clock (Nat.zero_lt_of_lt positive)
      unfold Over at passed
      omega
  | waiting _ table _ early prompt =>
      intro none
      have same := table.eq_first (by rw [none]; rfl)
      rw [same] at early prompt
      exact not_over early prompt (Nat.le_refl _) passed
  | working _ _ busy =>
      intro none
      rw [none] at busy
      cases busy

/-- A batch that has ended is followed by the next one, whatever came of it. -/
theorem OnTime.next_of_over (onTime : OnTime first crew index history held)
    {batch time : Nat} (found : (beginnings history)[batch]? = some time)
    (ended : batch < (endings history).length)
    (passed : crew.Over (time + first.period)) :
    batch + 1 < (beginnings history).length := by
  cases onTime with
  | starting _ unheard =>
      subst unheard
      cases found
  | waiting _ table idle early prompt =>
      by_contra last
      have due := table.due_after found (by omega)
      exact not_over early prompt due.1 passed
  | working _ _ busy => omega

/-- Up to its cancellation a worker keeps the schedule that its start and its
interval make, whatever comes of its batches and whatever else happens.  The
clock has to be able to show the first tick. -/
theorem worker_on_schedule {crew : Crew} (reached : crew.Reached)
    {worker : Nat} {employed : Worker}
    (hired : crew.workers[worker]? = some employed)
    (unstarted : crew.answers worker = [])
    (valid : employed.settings.validate = .ok ())
    (inRange : crew.clock + employed.settings.intervalSeconds * 1000 ≤
      Ticker.latest)
    (token : String) (later : List Action)
    (uncancelled : ∀ loop,
      (crew.run (.start worker token :: later)).Owns worker loop →
        ¬(crew.run (.start worker token :: later)).Cancelled loop) :
    let start := crew.clock
    let period := employed.settings.intervalSeconds * 1000
    let ended := crew.run (.start worker token :: later)
    let history := crew.history worker (.start worker token :: later)
    crew.Recorded worker (.start worker token :: later) ∧
    Scheduled start period (beginnings history) (endings history) ∧
    (ended.Over (start + period) → beginnings history ≠ []) ∧
    (∀ batch time, (beginnings history)[batch]? = some time →
      batch < (endings history).length → ended.Over (time + period) →
        batch + 1 < (beginnings history).length) ∧
    ∃ loop held, ended.Owns worker loop ∧
      ended.timeline.loops[loop]? = some held ∧ held.activity ≠ .stopped := by
  intro start period ended history
  have accepted := CleanupSettings.validate_eq_ok_iff.mp valid
  have positive : Ticker.slack < period := by
    have interval := accepted.1
    simp only [Ticker.slack, period]
    omega
  have due : (Ticker.start start period).due = start + period :=
    if_pos inRange
  have wellRun := reached.wellRun
  have keeps := (keeps_start wellRun hired unstarted token).run positive
    (wellRun.step _) later
  obtain ⟨held, found, onTime⟩ := keeps.onTime
  have running : held.cancelled = false := by
    by_contra cancelled
    rw [Bool.not_eq_false] at cancelled
    exact uncancelled _ keeps.owns ⟨held, found, cancelled⟩
  have onTime := onTime running
  obtain ⟨ticker, table⟩ := onTime.exists_table
  refine ⟨wellRun.recorded worker _, table.scheduled inRange, fun passed => ?_,
    fun batch time found ended => onTime.next_of_over found ended,
    _, held, keeps.owns, found, onTime.not_stopped⟩
  exact onTime.begun_of_over positive (by rwa [due])

/-- The first batch outlasts a whole interval, which moves all later ones. -/
def Sample.outlasting : List Action :=
  [.turn 0, .pass 300000, .turn 0, .pass 700000, .turn 0, .pass 1000000, .turn 0]

theorem worker_on_schedule_sample :
    let history := (Sample.hired 400000).history 0
      (.start 0 "main" :: Sample.outlasting)
    beginnings history = [300000, 700000, 1000000] ∧
      endings history = [700000, 700000, 1000000] ∧
      Scheduled 0 300000 (beginnings history) (endings history) := by
  have reached : (Sample.hired 400000).Reached := ⟨_, _, rfl⟩
  have hired : (Sample.hired 400000).workers[0]? = some ⟨.standard, .closed⟩ :=
    rfl
  have running : ((Sample.hired 400000).run
      (.start 0 "main" :: Sample.outlasting)).timeline.loops.map
      Loop.cancelled = [false] := by decide +kernel
  refine ⟨by decide +kernel, by decide +kernel, ?_⟩
  refine (worker_on_schedule reached hired rfl rfl (by decide) "main"
    Sample.outlasting fun loop _ => ?_).2.1
  rintro ⟨held, found, cancelled⟩
  have member : held.cancelled ∈ List.map Loop.cancelled _ :=
    List.mem_map_of_mem (List.mem_of_getElem? found)
  rw [running, cancelled] at member
  simp at member

end Crew

end FileCleanup.Simulation
