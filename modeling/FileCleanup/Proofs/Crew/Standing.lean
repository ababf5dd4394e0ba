import FileCleanup.Proofs.Crew.Step

namespace FileCleanup.Simulation

/-! Who has what in hand: which loop a worker has, and whether its slot or one
of the stops holds it. -/

theorem Loop.Pause.cancelled {ticket now delay : Nat} {loop after : Loop}
    {deeds : List Deed} (pause : loop.Pause ticket now delay deeds after) :
    after.cancelled = loop.cancelled := by
  cases pause <;> rfl

theorem Loop.Turn.cancelled {ticket now delay : Nat} {loop after : Loop}
    {deeds : List Deed} (turn : loop.Turn ticket now delay deeds after) :
    after.cancelled = loop.cancelled := by
  cases turn with
  | rests => rfl
  | starts _ pause => exact pause.cancelled
  | pauses _ pause => exact pause.cancelled
  | sleepsOn => rfl
  | wakes _ _ pause => exact pause.cancelled

theorem getElem?_concat_eq_some_iff {Item : Type} {items : List Item}
    {item other : Item} {place : Nat} :
    (items ++ [item])[place]? = some other ↔
      items[place]? = some other ∨ place = items.length ∧ other = item := by
  rcases Nat.lt_trichotomy place items.length with before | here | beyond
  · rw [List.getElem?_append_left before]
    simp [Nat.ne_of_lt before]
  · subst here
    simp [eq_comm]
  · have missing := List.getElem?_eq_none (Nat.le_of_lt beyond)
    rw [List.getElem?_eq_none (by simp; omega), missing]
    simp [Nat.ne_of_gt beyond]

theorem eq_or_getElem?_of_set {Item : Type} {items : List Item}
    {item other : Item} {changed place : Nat}
    (found : (items.set changed item)[place]? = some other) :
    place = changed ∧ other = item ∨ items[place]? = some other := by
  rw [List.getElem?_set] at found
  split at found
  · rename_i same
    split at found
    · cases found
      exact .inl ⟨same.symm, rfl⟩
    · cases found
  · exact .inr found

namespace Crew

/-- The gate of a worker that is not there yet is closed. -/
def gate (crew : Crew) (worker : Nat) : Gate Nat :=
  match crew.workers[worker]? with
  | some employed => employed.gate
  | none => .closed

/-- What the starts of a worker have answered so far. -/
def answers (crew : Crew) (worker : Nat) : List Bool :=
  (crew.starts.filter fun start => start.1 = worker).map Prod.snd

/-- Of the starts of a worker only the first was accepted. -/
def Answered (crew : Crew) (worker : Nat) : Prop :=
  ∃ refusals, crew.answers worker = true :: List.replicate refusals false

def Cancelled (crew : Crew) (loop : Nat) : Prop :=
  ∃ held, crew.timeline.loops[loop]? = some held ∧ held.cancelled = true

/-- The loop is one that `worker` has let go. -/
def Owns (crew : Crew) (worker loop : Nat) : Prop :=
  crew.owners[loop]? = some worker

/-- A stop on `worker` has taken the loop out of the slot. -/
def Takes (crew : Crew) (worker call loop : Nat) : Prop :=
  ∃ stage, crew.stops[call]? = some ⟨worker, some loop, stage⟩

/-- A stop has yet to cancel the loop that it has taken. -/
def Pending (crew : Crew) (call : Nat) : Prop :=
  ∃ stop, crew.stops[call]? = some stop ∧ stop.stage = .entered

/-- A worker has been started and has one loop. -/
structure Employs (crew : Crew) (worker loop : Nat) : Prop where
  owns : crew.Owns worker loop
  only : ∀ other, crew.Owns worker other → other = loop
  answered : crew.Answered worker

/-- Where the loop of a worker is to be found, by the worker's gate. -/
inductive Standing (crew : Crew) (worker : Nat) : Gate Nat → Prop
  | fresh (loopless : ∀ loop, ¬crew.Owns worker loop)
      (unanswered : crew.answers worker = []) : Standing crew worker .closed
  | held {loop : Nat} (employs : crew.Employs worker loop)
      (free : ∀ anyone call, ¬crew.Takes anyone call loop) :
      Standing crew worker ⟨true, some loop⟩
  | taken {loop call : Nat} (employs : crew.Employs worker loop)
      (takes : crew.Takes worker call loop)
      (only : ∀ anyone other, crew.Takes anyone other loop → other = call)
      (cancels : crew.Pending call ∨ crew.Cancelled loop) :
      Standing crew worker ⟨true, none⟩

structure WellRun (crew : Crew) : Prop where
  owners : crew.owners.length = crew.timeline.loops.length
  takes : ∀ worker call loop, crew.Takes worker call loop →
    crew.Owns worker loop
  standing : ∀ worker, crew.Standing worker (crew.gate worker)

variable {crew later : Crew} {worker call loop : Nat}

theorem gate_of_found {employed : Worker}
    (found : crew.workers[worker]? = some employed) :
    crew.gate worker = employed.gate := by
  rw [gate, found]

theorem gate_of_set {employed : Worker}
    (found : crew.workers[worker]? = some employed) {gate : Gate Nat}
    (workers : later.workers = crew.workers.set worker { employed with gate })
    (anyone : Nat) :
    later.gate anyone = if worker = anyone then gate else crew.gate anyone := by
  obtain ⟨bound, _⟩ := List.getElem?_eq_some_iff.mp found
  unfold Crew.gate
  rw [workers]
  by_cases same : worker = anyone
  · subst same
    rw [List.getElem?_set_self bound, if_pos rfl]
  · rw [List.getElem?_set_ne same, if_neg same]

theorem Answered.congr (answered : crew.Answered worker)
    (answers : later.answers worker = crew.answers worker) :
    later.Answered worker := by
  rwa [Answered, answers]

theorem Cancelled.step (cancelled : crew.Cancelled loop) (action : Action) :
    (crew.step action).Cancelled loop := by
  obtain ⟨held, found, cancelled⟩ := cancelled
  obtain ⟨deeds, after, foundAfter, meets⟩ := exists_meets found action
  refine ⟨after, foundAfter, ?_⟩
  cases meets with
  | spared => exact cancelled
  | cancelled => rfl
  | passed => exact cancelled
  | turned _ _ _ turn => rw [turn.cancelled, cancelled]

theorem Employs.congr (employs : crew.Employs worker loop)
    (owned : ∀ loop, later.Owns worker loop ↔ crew.Owns worker loop)
    (answered : crew.Answered worker → later.Answered worker) :
    later.Employs worker loop where
  owns := (owned loop).mpr employs.owns
  only other owns := employs.only other ((owned other).mp owns)
  answered := answered employs.answered

/-- What a worker's standing depends on. -/
structure Spares (crew later : Crew) (worker : Nat) : Prop where
  owned : ∀ loop, later.Owns worker loop ↔ crew.Owns worker loop
  unanswered : crew.answers worker = [] → later.answers worker = []
  answered : crew.Answered worker → later.Answered worker
  takes : ∀ anyone call loop, crew.Owns worker loop →
    (later.Takes anyone call loop ↔ crew.Takes anyone call loop)
  pending : ∀ call loop, crew.Takes worker call loop → crew.Pending call →
    later.Pending call ∨ later.Cancelled loop
  cancelled : ∀ loop, crew.Cancelled loop → later.Cancelled loop

theorem Standing.spared {gate : Gate Nat} (standing : crew.Standing worker gate)
    (spares : crew.Spares later worker) : later.Standing worker gate := by
  cases standing with
  | fresh loopless unanswered =>
      refine .fresh (fun loop owns => ?_) (spares.unanswered unanswered)
      exact loopless loop ((spares.owned loop).mp owns)
  | held employs free =>
      refine .held (employs.congr spares.owned spares.answered) ?_
      intro anyone call takes
      exact free anyone call ((spares.takes _ _ _ employs.owns).mp takes)
  | taken employs takes only cancels =>
      have same anyone call := spares.takes anyone call _ employs.owns
      refine .taken (employs.congr spares.owned spares.answered)
        ((same _ _).mpr takes)
        (fun anyone other later => only anyone other ((same _ _).mp later)) ?_
      rcases cancels with pending | cancelled
      · exact spares.pending _ _ takes pending
      · exact .inr (spares.cancelled _ cancelled)

/-- Steps after which the workers, their loops and what stops have taken are
the same. -/
theorem WellRun.congr (wellRun : crew.WellRun)
    (gates : ∀ worker, later.gate worker = crew.gate worker)
    (owners : later.owners = crew.owners) (starts : later.starts = crew.starts)
    (loops : later.timeline.loops.length = crew.timeline.loops.length)
    (takes : ∀ anyone call loop,
      later.Takes anyone call loop ↔ crew.Takes anyone call loop)
    (pending : ∀ worker call loop, crew.Takes worker call loop →
      crew.Pending call → later.Pending call ∨ later.Cancelled loop)
    (cancelled : ∀ loop, crew.Cancelled loop → later.Cancelled loop) :
    later.WellRun where
  owners := by rw [owners, loops, wellRun.owners]
  takes worker call loop taken := by
    rw [Owns, owners]
    exact wellRun.takes worker call loop ((takes _ _ _).mp taken)
  standing worker := by
    rw [gates]
    refine (wellRun.standing worker).spared
      ⟨?_, ?_, ?_, fun anyone call loop _ => takes anyone call loop,
        pending worker, cancelled⟩
    · simp only [Owns, owners, implies_true]
    · simp only [answers, starts, imp_self]
    · exact (·.congr (by rw [answers, starts, answers]))

private theorem takes_set {stop : StopCall} {stage : StopStage}
    (found : crew.stops[call]? = some stop)
    (stops : later.stops = crew.stops.set call { stop with stage }) (anyone : Nat)
    (other loop : Nat) :
    later.Takes anyone other loop ↔ crew.Takes anyone other loop := by
  obtain ⟨bound, _⟩ := List.getElem?_eq_some_iff.mp found
  unfold Takes
  rw [stops]
  by_cases same : call = other
  · subst same
    obtain ⟨worker, taken, reached⟩ := stop
    rw [List.getElem?_set_self bound, found]
    simp
  · rw [List.getElem?_set_ne same]

private theorem pending_set {stop : StopCall} {other : Nat}
    (different : call ≠ other) (stops : later.stops = crew.stops.set call stop)
    (pending : crew.Pending other) : later.Pending other := by
  obtain ⟨waiting, found, entered⟩ := pending
  refine ⟨waiting, ?_, entered⟩
  rwa [stops, List.getElem?_set_ne different]

private theorem WellRun.leave (wellRun : crew.WellRun) (call : Nat) :
    (crew.leave call).WellRun := by
  unfold Crew.leave
  split
  · exact wellRun
  rename_i stop found
  split
  · rename_i mayLeave
    refine wellRun.congr (fun _ => rfl) rfl rfl rfl (takes_set found rfl) ?_
      fun _ => id
    intro worker other loop takes pending
    by_cases same : call = other
    · -- A stop does not leave before it has cancelled what it has taken.
      subst same
      obtain ⟨stage, taken⟩ := takes
      obtain ⟨waiting, held, entered⟩ := pending
      rw [found] at taken held
      cases taken
      cases held
      cases entered
      cases mayLeave
    · exact .inl (pending_set same rfl pending)
  · exact wellRun

theorem cancelled_cancelTaken
    (found : crew.stops[call]? = some ⟨worker, some loop, .entered⟩)
    (bound : loop < crew.timeline.loops.length) :
    (crew.cancelTaken call).Cancelled loop := by
  have held := List.getElem?_eq_getElem bound
  refine ⟨{ crew.timeline.loops[loop] with cancelled := true }, ?_, rfl⟩
  rw [cancelTaken_of_entered found]
  exact (Timeline.getElem?_cancelLoops held _).trans (by simp)

private theorem WellRun.cancelTaken (wellRun : crew.WellRun) (call : Nat) :
    (crew.cancelTaken call).WellRun := by
  rcases crew.cancelTaken_eq call with same | ⟨worker, loop, found⟩
  · rwa [same]
  have cancels := cancelTaken_of_entered found
  have owned := wellRun.takes worker call loop ⟨_, found⟩
  obtain ⟨bound, _⟩ := List.getElem?_eq_some_iff.mp owned
  rw [wellRun.owners] at bound
  have cancelled := cancelled_cancelTaken found bound
  refine wellRun.congr (fun _ => by rw [cancels]; rfl) (by rw [cancels])
    (by rw [cancels]) ?_ (takes_set found (by rw [cancels])) ?_
    fun _ already => already.step (.cancelTaken call)
  · rw [cancels]
    exact List.length_mapIdx
  · intro worker other taken takes pending
    by_cases same : call = other
    · subst same
      obtain ⟨stage, takes⟩ := takes
      rw [found] at takes
      cases takes
      exact .inr cancelled
    · exact .inl (pending_set same (by rw [cancels]) pending)

section Stop

variable {employed : Worker}

private theorem takes_stop (found : crew.workers[worker]? = some employed)
    (anyone other loop : Nat) :
    (crew.stop worker).Takes anyone other loop ↔
      crew.Takes anyone other loop ∨
        other = crew.stops.length ∧ anyone = worker ∧
          employed.gate.running = some loop := by
  simp only [Takes, stop_of_found found, getElem?_concat_eq_some_iff,
    exists_or, StopCall.mk.injEq]
  grind

private theorem pending_stop (found : crew.workers[worker]? = some employed)
    {other : Nat} (pending : crew.Pending other) :
    (crew.stop worker).Pending other := by
  obtain ⟨stop, held, entered⟩ := pending
  refine ⟨stop, ?_, entered⟩
  rw [stop_of_found found]
  obtain ⟨bound, _⟩ := List.getElem?_eq_some_iff.mp held
  rw [List.getElem?_append_left bound, held]

theorem Standing.owns {gate : Gate Nat} (standing : crew.Standing worker gate)
    (running : gate.running = some loop) : crew.Owns worker loop := by
  cases standing with
  | fresh => cases running
  | held employs =>
      cases running
      exact employs.owns
  | taken => cases running

private theorem Standing.stopped {gate : Gate Nat}
    (standing : crew.Standing worker gate)
    (owned : ∀ loop, later.Owns worker loop ↔ crew.Owns worker loop)
    (answers : later.answers worker = crew.answers worker)
    (takes : ∀ anyone call loop, later.Takes anyone call loop ↔
      crew.Takes anyone call loop ∨ call = crew.stops.length ∧
        anyone = worker ∧ gate.running = some loop)
    (pending : ∀ call, crew.Pending call → later.Pending call)
    (cancelled : ∀ loop, crew.Cancelled loop → later.Cancelled loop)
    (entered : later.Pending crew.stops.length) :
    later.Standing worker { gate with running := none } := by
  have answered (before : crew.Answered worker) := before.congr answers
  cases standing with
  | fresh loopless unanswered =>
      exact .fresh (fun loop owns => loopless loop ((owned loop).mp owns))
        (answers.trans unanswered)
  | held employs free =>
      refine .taken (employs.congr owned answered)
        ((takes _ _ _).mpr (.inr ⟨rfl, rfl, rfl⟩)) ?_ (.inl entered)
      intro anyone other taken
      rcases (takes _ _ _).mp taken with before | ⟨new, _⟩
      · exact absurd before (free anyone other)
      · exact new
  | taken employs taken only cancels =>
      refine .taken (employs.congr owned answered)
        ((takes _ _ _).mpr (.inl taken)) ?_
        (cancels.imp (pending _) (cancelled _))
      intro anyone other takenLater
      rcases (takes _ _ _).mp takenLater with before | ⟨_, _, running⟩
      · exact only anyone other before
      · cases running

private theorem WellRun.stop (wellRun : crew.WellRun) (worker : Nat) :
    (crew.stop worker).WellRun := by
  cases found : crew.workers[worker]? with
  | none => rwa [stop_of_absent found]
  | some employed =>
  have stops := stop_of_found found
  have standing := wellRun.standing worker
  rw [gate_of_found found] at standing
  have takes := takes_stop found
  have gates := gate_of_set found (congrArg Crew.workers stops)
  have owned (anyone loop : Nat) :
      (crew.stop worker).Owns anyone loop ↔ crew.Owns anyone loop := by
    simp only [Owns, stops]
  have answers (anyone : Nat) :
      (crew.stop worker).answers anyone = crew.answers anyone := by
    simp only [Crew.answers, stops]
  have cancelled (loop : Nat) (already : crew.Cancelled loop) :=
    already.step (.stop worker)
  refine ⟨by rw [stops, wellRun.owners], ?_, fun anyone => ?_⟩
  · intro anyone call loop taken
    rw [owned]
    rcases (takes _ _ _).mp taken with before | ⟨_, rfl, running⟩
    · exact wellRun.takes anyone call loop before
    · exact standing.owns running
  · rw [gates]
    by_cases same : worker = anyone
    · subst same
      rw [if_pos rfl]
      refine standing.stopped (owned worker) (answers worker) takes
        (fun _ => pending_stop found) cancelled ?_
      exact ⟨⟨worker, employed.gate.running, .entered⟩, by simp [stops], rfl⟩
    · rw [if_neg same]
      refine (wellRun.standing anyone).spared
        ⟨owned anyone, (answers anyone).trans, (·.congr (answers anyone)), ?_,
          fun _ _ _ pending => .inl (pending_stop found pending), cancelled⟩
      intro other call loop owns
      refine (takes _ _ _).trans (or_iff_left ?_)
      rintro ⟨_, _, running⟩
      have both := (standing.owns running).symm.trans owns
      exact same (Option.some.inj both)

end Stop

section Start

variable {employed : Worker} {token : String}

theorem answers_append {answer : Bool}
    (starts : later.starts = crew.starts ++ [(worker, answer)]) (anyone : Nat) :
    later.answers anyone =
      crew.answers anyone ++ if worker = anyone then [answer] else [] := by
  unfold answers
  rw [starts, List.filter_append, List.map_append]
  by_cases same : worker = anyone <;> simp [same]

theorem owns_append (owners : later.owners = crew.owners ++ [worker])
    (anyone loop : Nat) :
    later.Owns anyone loop ↔
      crew.Owns anyone loop ∨ loop = crew.owners.length ∧ anyone = worker := by
  simp only [Owns, owners, getElem?_concat_eq_some_iff]

private theorem Standing.refused {gate : Gate Nat}
    (standing : crew.Standing worker gate) (started : gate.started = true)
    (owners : later.owners = crew.owners) (stops : later.stops = crew.stops)
    (starts : later.starts = crew.starts ++ [(worker, false)])
    (cancelled : ∀ loop, crew.Cancelled loop → later.Cancelled loop) :
    later.Standing worker gate := by
  have answers := answers_append starts worker
  rw [if_pos rfl] at answers
  have unanswered (none : crew.answers worker = []) :
      ¬crew.Answered worker := by
    rintro ⟨refusals, answered⟩
    rw [none] at answered
    cases answered
  refine standing.spared ⟨?_, ?_, ?_, ?_, ?_, cancelled⟩
  · simp only [Owns, owners, implies_true]
  · intro none
    cases standing with
    | fresh => cases started
    | held employs => exact absurd employs.answered (unanswered none)
    | taken employs => exact absurd employs.answered (unanswered none)
  · rintro ⟨refusals, answered⟩
    refine ⟨refusals + 1, ?_⟩
    rw [answers, answered, List.replicate_succ']
    rfl
  · simp only [Takes, stops, implies_true]
  · simp only [Pending, stops]
    exact fun _ _ _ pending => .inl pending

private theorem Standing.begun {gate : Gate Nat}
    (standing : crew.Standing worker gate) (fresh : gate.started = false)
    (wellRun : crew.WellRun)
    (owners : later.owners = crew.owners ++ [worker])
    (stops : later.stops = crew.stops)
    (starts : later.starts = crew.starts ++ [(worker, true)]) :
    later.Standing worker ⟨true, some crew.timeline.loops.length⟩ := by
  have owned := owns_append owners worker
  have answers := answers_append starts worker
  rw [← wellRun.owners]
  cases standing with
  | held => cases fresh
  | taken => cases fresh
  | fresh loopless unanswered =>
      refine .held ⟨(owned _).mpr (.inr ⟨rfl, rfl⟩), ?_, 0, ?_⟩ ?_
      · intro other owns
        rcases (owned other).mp owns with before | ⟨new, _⟩
        · exact absurd before (loopless other)
        · exact new
      · rw [answers, unanswered, if_pos rfl]
        rfl
      · -- No stop can have taken a loop that was not there.
        intro anyone call takes
        rw [Takes, stops] at takes
        have owns := wellRun.takes anyone call _ takes
        obtain ⟨bound, _⟩ := List.getElem?_eq_some_iff.mp owns
        exact Nat.lt_irrefl _ bound

private theorem spares_start {anyone : Nat} {answer : Bool}
    (different : worker ≠ anyone)
    (owned : ∀ loop, later.Owns anyone loop ↔ crew.Owns anyone loop)
    (stops : later.stops = crew.stops)
    (starts : later.starts = crew.starts ++ [(worker, answer)])
    (cancelled : ∀ loop, crew.Cancelled loop → later.Cancelled loop) :
    crew.Spares later anyone := by
  have answers := answers_append starts anyone
  rw [if_neg different, List.append_nil] at answers
  refine ⟨owned, answers.trans, (·.congr answers), ?_, ?_, cancelled⟩
  · simp only [Takes, stops, implies_true]
  · simp only [Pending, stops]
    exact fun _ _ _ pending => .inl pending

private theorem WellRun.start (wellRun : crew.WellRun) (worker : Nat)
    (token : String) : (crew.start worker token).WellRun := by
  cases found : crew.workers[worker]? with
  | none => rwa [start_of_absent found]
  | some employed =>
  have standing := wellRun.standing worker
  rw [gate_of_found found] at standing
  have cancelled (loop : Nat) (already : crew.Cancelled loop) :=
    already.step (.start worker token)
  cases started : employed.gate.started with
  | true =>
      have begins : crew.start worker token = _ :=
        start_of_started found started
      have gates (anyone : Nat) :
          (crew.start worker token).gate anyone = crew.gate anyone := by
        rw [begins]
        rfl
      refine ⟨?_, ?_, fun anyone => ?_⟩
      · rw [begins]
        exact wellRun.owners
      · simp only [Takes, Owns, begins]
        exact wellRun.takes
      · rw [gates]
        by_cases same : worker = anyone
        · subst same
          rw [gate_of_found found]
          exact standing.refused started (by rw [begins]) (by rw [begins])
            (by rw [begins]) cancelled
        · exact (wellRun.standing anyone).spared
            (spares_start same (by simp only [Owns, begins, implies_true])
              (by rw [begins]) (by rw [begins]) cancelled)
  | false =>
      have begins : crew.start worker token = _ :=
        start_of_fresh found started
      have owned : ∀ anyone loop, (crew.start worker token).Owns anyone loop ↔
          _ := owns_append (by rw [begins])
      have gates := gate_of_set found (congrArg Crew.workers begins)
      refine ⟨?_, ?_, fun anyone => ?_⟩
      · rw [begins]
        simp [Timeline.spawn, wellRun.owners]
      · intro anyone call loop takes
        rw [Takes, begins] at takes
        exact (owned _ _).mpr (.inl (wellRun.takes _ _ _ takes))
      · rw [gates]
        by_cases same : worker = anyone
        · subst same
          rw [if_pos rfl]
          exact standing.begun started wellRun (by rw [begins]) (by rw [begins])
            (by rw [begins])
        · rw [if_neg same]
          refine (wellRun.standing anyone).spared
            (spares_start same (fun loop => ?_) (by rw [begins])
              (by rw [begins]) cancelled)
          refine (owned anyone loop).trans (or_iff_left ?_)
          exact fun new => same new.2.symm

end Start

theorem gate_hire (settings : CleanupSettings) (worker : Nat) :
    (crew.step (.hire settings)).gate worker = crew.gate worker := by
  simp only [gate, Crew.step]
  rcases Nat.lt_or_ge worker crew.workers.length with old | new
  · rw [List.getElem?_append_left old]
  · rw [List.getElem?_append_right new, List.getElem?_eq_none new]
    cases worker - crew.workers.length <;> rfl

/-- Turns, time and others change the timeline only. -/
private theorem WellRun.timeline (wellRun : crew.WellRun) {timeline : Timeline}
    (loops : timeline.loops.length = crew.timeline.loops.length)
    (cancelled : ∀ loop, crew.Cancelled loop →
      Cancelled { crew with timeline } loop) :
    WellRun { crew with timeline } :=
  wellRun.congr (fun _ => rfl) rfl rfl loops (fun _ _ _ => Iff.rfl)
    (fun _ _ _ _ pending => .inl pending) cancelled

theorem WellRun.step (wellRun : crew.WellRun) (action : Action) :
    (crew.step action).WellRun := by
  have cancelled (loop : Nat) (already : crew.Cancelled loop) :=
    already.step action
  cases action with
  | hire settings =>
      exact wellRun.congr (gate_hire settings) rfl rfl rfl
        (fun _ _ _ => Iff.rfl) (fun _ _ _ _ pending => .inl pending) cancelled
  | start worker token => exact wellRun.start worker token
  | stop worker => exact wellRun.stop worker
  | cancelTaken call => exact wellRun.cancelTaken call
  | leave call => exact wellRun.leave call
  | cancel token => exact wellRun.timeline (by exact List.length_mapIdx) cancelled
  | turn index => exact wellRun.timeline (Timeline.length_turn ..) cancelled
  | pass clock =>
      refine wellRun.timeline ?_ cancelled
      unfold Timeline.pass
      split <;> rfl
  | interfere world => exact wellRun.timeline rfl cancelled

theorem WellRun.run (wellRun : crew.WellRun) (actions : List Action) :
    (crew.run actions).WellRun := by
  induction actions generalizing crew with
  | nil => exact wellRun
  | cons action actions induction => exact induction (wellRun.step action)

theorem wellRun_ofWorld (world : World) : (ofWorld world).WellRun where
  owners := rfl
  takes _ _ _ := nofun
  standing _ := .fresh nofun rfl

/-! What lasts. -/

private theorem takes_cancelTaken (call anyone other loop : Nat) :
    (crew.cancelTaken call).Takes anyone other loop ↔
      crew.Takes anyone other loop := by
  rcases crew.cancelTaken_eq call with same | ⟨worker, taken, found⟩
  · rw [same]
  · exact takes_set found (by rw [cancelTaken_of_entered found]) ..

private theorem takes_leave (call anyone other loop : Nat) :
    (crew.leave call).Takes anyone other loop ↔
      crew.Takes anyone other loop := by
  unfold Crew.leave
  split
  · rfl
  · rename_i stop found
    split
    · exact takes_set found rfl ..
    · rfl

/-- What a stop has taken it keeps, and only a stop takes a loop. -/
theorem takes_step (action : Action) :
    (crew.step action).Takes worker call loop ↔
      crew.Takes worker call loop ∨ action = .stop worker ∧
        call = crew.stops.length ∧ (crew.gate worker).running = some loop := by
  cases action with
  | start anyone token =>
      rw [Takes, Crew.step, stops_start]
      exact (or_iff_left (by simp)).symm
  | cancelTaken other =>
      exact (takes_cancelTaken ..).trans (or_iff_left (by simp)).symm
  | leave other => exact (takes_leave ..).trans (or_iff_left (by simp)).symm
  | stop anyone =>
      simp only [Crew.step, Action.stop.injEq]
      cases found : crew.workers[anyone]? with
      | none =>
          rw [stop_of_absent found]
          refine (or_iff_left ?_).symm
          rintro ⟨rfl, _, running⟩
          rw [gate, found] at running
          cases running
      | some employed =>
          rw [takes_stop found]
          refine or_congr_right ?_
          constructor
          · rintro ⟨new, rfl, running⟩
            exact ⟨rfl, new, by rw [gate_of_found found, running]⟩
          · rintro ⟨rfl, new, running⟩
            rw [gate_of_found found] at running
            exact ⟨new, rfl, running⟩
  | _ => exact (or_iff_left (by simp)).symm

theorem Takes.run (takes : crew.Takes worker call loop) (actions : List Action) :
    (crew.run actions).Takes worker call loop := by
  induction actions generalizing crew with
  | nil => exact takes
  | cons action actions induction =>
      exact induction ((takes_step action).mpr (.inl takes))

theorem Owns.step (owns : crew.Owns worker loop) (action : Action) :
    (crew.step action).Owns worker loop := by
  cases action with
  | start anyone token =>
      simp only [Crew.step]
      cases found : crew.workers[anyone]? with
      | none => rwa [start_of_absent found]
      | some employed =>
          cases started : employed.gate.started with
          | true =>
              rw [start_of_started found started]
              exact owns
          | false =>
              rw [start_of_fresh found started]
              exact (owns_append rfl worker loop).mpr (.inl owns)
  | stop anyone =>
      simp only [Crew.step]
      cases found : crew.workers[anyone]? with
      | none => rwa [stop_of_absent found]
      | some employed =>
          rw [stop_of_found found]
          exact owns
  | cancelTaken call =>
      simp only [Crew.step]
      rcases crew.cancelTaken_eq call with same | ⟨anyone, taken, found⟩
      · rwa [same]
      · rw [cancelTaken_of_entered found]
        exact owns
  | leave call =>
      obtain ⟨stops, leaves⟩ := crew.leave_eq call
      rw [Crew.step, leaves]
      exact owns
  | _ => exact owns

theorem Owns.run (owns : crew.Owns worker loop) (actions : List Action) :
    (crew.run actions).Owns worker loop := by
  induction actions generalizing crew with
  | nil => exact owns
  | cons action actions induction => exact induction (owns.step action)

theorem WellRun.employs (wellRun : crew.WellRun)
    (owns : crew.Owns worker loop) : crew.Employs worker loop := by
  generalize same : crew.gate worker = gate
  have standing := wellRun.standing worker
  rw [same] at standing
  cases standing with
  | fresh loopless => exact absurd owns (loopless loop)
  | held employs => rwa [employs.only loop owns]
  | taken employs => rwa [employs.only loop owns]

end Crew

end FileCleanup.Simulation
