import FileCleanup.Proofs.Crew.Journal

namespace FileCleanup.Simulation

/-! One turn of a worker loop: all that it can do before it waits again. -/

/-- A batch that has fallen asleep sleeps as long as deletes take. -/
def Progress.SlowBy (delay : Nat) : Progress → Prop
  | .finished _ => True
  | .asleep sleep _ _ _ => sleep = delay ∧ 0 < delay

theorem slowBy_proceed (settings : CleanupSettings) (phase : Phase)
    (world : World) :
    (proceed settings phase world).1.SlowBy world.objects.delay := by
  induction phase, world using @proceed_induction settings with
  | finished outcome world =>
      rw [proceed_finished]
      trivial
  | asleep file rest result slow =>
      rw [proceed_asleep slow]
      exact ⟨rfl, Nat.pos_of_ne_zero slow⟩
  | @calls phase world request asks awake induction =>
      have heard := World.hears_perform
        (awake.imp_right (Phase.stored_of_request asks))
      rw [proceed_of_request asks awake]
      rwa [heard.delay] at induction

theorem slowBy_wakeUp (settings : CleanupSettings) (file : FileRecord)
    (rest : List FileRecord) (result : BatchResult) (world : World) :
    (wakeUp settings file rest result world).1.SlowBy world.objects.delay := by
  have finishes := world.still_finishDelete file.bucket file.storageKey
  unfold wakeUp
  generalize world.finishDelete file.bucket file.storageKey = finished
    at finishes ⊢
  obtain ⟨answer, woken⟩ := finished
  rw [← finishes.delay]
  cases answer with
  | ok => exact slowBy_proceed settings _ woken
  | error cause => exact slowBy_proceed settings _ woken

/-- All that a loop can do between two batches; `ticket` is the one for its
next timer, and deletes take `delay`. -/
inductive Loop.Pause (ticket now delay : Nat) (loop : Loop) :
    List Deed → Loop → Prop
  | stops (cancelled : loop.cancelled = true) :
      Pause ticket now delay loop [] { loop with activity := .stopped }
  | waits (uncancelled : loop.cancelled = false)
      (early : now < loop.ticker.due) : Pause ticket now delay loop [] loop
  | works (uncancelled : loop.cancelled = false)
      (due : loop.ticker.due ≤ now) {exchanges : List Exchange}
      {outcome : Except CleanupError BatchResult}
      (opens : Opens loop.settings exchanges (.finished outcome)) :
      Pause ticket now delay loop
        (.begins :: exchanges.map .speaks ++ [.ends outcome])
        { loop with
          ticker := loop.ticker.taken now, ticket, activity := .waiting }
  | sleeps (uncancelled : loop.cancelled = false)
      (due : loop.ticker.due ≤ now) (slow : 0 < delay)
      {exchanges : List Exchange} {file : FileRecord} {rest : List FileRecord}
      {result : BatchResult}
      (opens : Opens loop.settings exchanges (.asleep delay file rest result)) :
      Pause ticket now delay loop (.begins :: exchanges.map .speaks)
        { loop with
          ticker := loop.ticker.taken now, ticket
          activity := .deleting (now + delay) ticket file rest result }

/-- All that a loop can do when it can go on. -/
inductive Loop.Turn (ticket now delay : Nat) (loop : Loop) :
    List Deed → Loop → Prop
  | rests (stopped : loop.activity = .stopped) : Turn ticket now delay loop [] loop
  | starts {deeds : List Deed} {after : Loop}
      (starting : loop.activity = .starting)
      (pause : Pause ticket now delay
        { loop with
          ticker := .start now (loop.settings.intervalSeconds * 1000), ticket
          activity := .waiting }
        deeds after) : Turn ticket now delay loop deeds after
  | pauses {deeds : List Deed} {after : Loop}
      (waiting : loop.activity = .waiting)
      (pause : Pause ticket now delay loop deeds after) :
      Turn ticket now delay loop deeds after
  | sleepsOn {wake own : Nat} {file next : FileRecord}
      {rest others : List FileRecord} {result counted : BatchResult}
      {exchanges : List Exchange}
      (asleep : loop.activity = .deleting wake own file rest result)
      (slow : 0 < delay) (shorter : others.length < rest.length)
      (handles : HandlesUpTo (file :: rest) exchanges
        (.asleep delay next others counted)) :
      Turn ticket now delay loop (exchanges.map .speaks)
        { loop with
          activity := .deleting (now + delay) ticket next others counted }
  | wakes {wake own : Nat} {file : FileRecord} {rest : List FileRecord}
      {result : BatchResult} {exchanges : List Exchange}
      {outcome : Except CleanupError BatchResult} {deeds : List Deed}
      {after : Loop} (asleep : loop.activity = .deleting wake own file rest result)
      (handles : HandlesUpTo (file :: rest) exchanges (.finished outcome))
      (pause : Pause ticket now delay { loop with activity := .waiting } deeds
        after) :
      Turn ticket now delay loop (exchanges.map .speaks ++ .ends outcome :: deeds)
        after

namespace Loop

variable (loop : Loop) (ticket : Nat) (world : World)

theorem pause_between :
    Pause ticket world.clock world.objects.delay loop (loop.betweenDeeds world)
      (loop.between ticket world).1 := by
  unfold betweenDeeds between
  by_cases cancelled : loop.cancelled = true
  · rw [if_pos cancelled, if_pos cancelled]
    exact .stops cancelled
  rw [if_neg cancelled, if_neg cancelled]
  rw [Bool.not_eq_true] at cancelled
  by_cases due : loop.ticker.due ≤ world.clock
  · rw [if_pos due, if_pos due]
    have heard := World.hears_proceed loop.settings .releasing world
    have slow := slowBy_proceed loop.settings .releasing world
    have opens := said_releasing loop.settings world
    generalize proceed loop.settings .releasing world = progress
      at heard slow opens ⊢
    obtain ⟨progress, after⟩ := progress
    have same : after.clock = world.clock := heard.clock
    cases progress with
    | finished outcome => exact .works cancelled due opens
    | asleep delay file rest result =>
        obtain ⟨rfl, positive⟩ := slow
        simp only [settle, Progress.deeds, List.append_nil, same]
        exact .sleeps cancelled due positive opens
  · rw [if_neg due, if_neg due]
    exact .waits cancelled (Nat.lt_of_not_le due)

theorem turn_run :
    Turn ticket world.clock world.objects.delay loop (loop.deeds world)
      (loop.run ticket world).1 := by
  unfold deeds run
  cases active : loop.activity with
  | stopped => exact .rests active
  | starting =>
      exact .starts active (pause_between { loop with
        ticker := .start world.clock (loop.settings.intervalSeconds * 1000)
        ticket, activity := .waiting } ticket
        (world.tell (.workerStarted loop.settings)))
  | waiting => exact .pauses active (pause_between loop ticket world)
  | deleting wake own file rest result =>
      obtain ⟨_, heard, _⟩ :=
        World.hears_wakeUp loop.settings file rest result world
      have slow := slowBy_wakeUp loop.settings file rest result world
      obtain ⟨handling, exchanges, same, talk, handles⟩ :=
        said_wakeUp loop.settings file rest result world
      have whole := handles.cons handling
      rw [same, ← talk] at whole
      dsimp only
      generalize wakeUp loop.settings file rest result world = progress
        at heard slow handles whole ⊢
      obtain ⟨progress, after⟩ := progress
      cases progress with
      | finished outcome =>
          have told := World.hears_tellAll (LogEvent.ofOutcome outcome) after
          have pause := pause_between { loop with activity := .waiting } ticket
            (World.backend.tellAll (LogEvent.ofOutcome outcome) after)
          rw [told.clock, heard.clock, told.delay, heard.delay] at pause
          have turn := Turn.wakes active whole pause
          simp only [settle, Progress.deeds, List.append_assoc,
            List.singleton_append]
          exact turn
      | asleep delay next others counted =>
          obtain ⟨rfl, positive⟩ := slow
          obtain ⟨handlings, _, files⟩ := handles
          have shorter : others.length < rest.length := by
            rw [← files]
            simp only [Progress.files, List.length_append, List.length_cons]
            omega
          have same : after.clock = world.clock := heard.clock
          simp only [settle, Progress.deeds, List.append_nil, same]
          exact .sleepsOn active positive shorter whole

/-- The object whose delete a loop waits for. -/
def asked (loop : Loop) : List (String × String) :=
  match loop.activity with
  | .deleting _ _ file _ _ => [file.address]
  | _ => []

theorem hears_settle (progress : Progress × World) :
    World.Hears progress.2 [] [] (loop.settle ticket progress).2 ∧
      (loop.settle ticket progress).1.asked = progress.1.asked := by
  obtain ⟨progress, after⟩ := progress
  cases progress with
  | finished outcome => exact ⟨World.hears_tellAll _ after, rfl⟩
  | asleep delay file rest result => exact ⟨.silence after, rfl⟩

theorem hears_between (waiting : loop.activity = .waiting) :
    World.Hears world
      (deleted (spoken (loop.betweenDeeds world)) ++
        (loop.between ticket world).1.asked)
      (spoken (loop.betweenDeeds world)) (loop.between ticket world).2 := by
  unfold betweenDeeds between
  split
  · exact .told .workerStopped world
  split
  · obtain ⟨settles, asked⟩ := hears_settle
      { loop with ticker := loop.ticker.taken world.clock, ticket } ticket
      (proceed loop.settings .releasing world)
    have works :=
      (World.hears_proceed loop.settings .releasing world).trans settles
    rw [asked]
    simpa using works
  · rw [asked, waiting]
    exact .silence world

/-- A loop speaks of the delete that it has been waiting for and of each one that
it begins, up to the one that it goes on to wait for. -/
theorem hears_run :
    ∃ begun,
      World.Hears world begun (spoken (loop.deeds world))
        (loop.run ticket world).2 ∧
      loop.asked ++ begun = deleted (spoken (loop.deeds world)) ++
        (loop.run ticket world).1.asked := by
  have unasked (idle : loop.asked = []) {begun : List (String × String)}
      (heard : World.Hears world begun (spoken (loop.deeds world))
        (loop.run ticket world).2)
      (same : begun = deleted (spoken (loop.deeds world)) ++
        (loop.run ticket world).1.asked) :
      ∃ begun,
        World.Hears world begun (spoken (loop.deeds world))
          (loop.run ticket world).2 ∧
        loop.asked ++ begun = deleted (spoken (loop.deeds world)) ++
          (loop.run ticket world).1.asked :=
    ⟨begun, heard, by rw [idle, same, List.nil_append]⟩
  cases active : loop.activity with
  | stopped =>
      refine unasked (by rw [asked, active]) ?_ rfl
      simp only [deeds, run, active, asked]
      exact .silence world
  | starting =>
      refine unasked (by rw [asked, active]) ?_ rfl
      simp only [deeds, run, active]
      exact (World.Hears.told (.workerStarted loop.settings) world).trans
        (hears_between { loop with
          ticker := .start world.clock (loop.settings.intervalSeconds * 1000)
          ticket, activity := .waiting } ticket _ rfl)
  | waiting =>
      refine unasked (by rw [asked, active]) ?_ rfl
      simp only [deeds, run, active]
      exact hears_between loop ticket world active
  | deleting wake own file rest result =>
      obtain ⟨begun, wakes, same⟩ :=
        World.hears_wakeUp loop.settings file rest result world
      have waits : loop.asked = [file.address] := by rw [asked, active]
      simp only [deeds, run, active, waits]
      generalize wakeUp loop.settings file rest result world = progress
        at wakes same ⊢
      obtain ⟨progress, after⟩ := progress
      cases progress with
      | asleep delay next others counted =>
          refine ⟨begun, by simpa [settle] using wakes, ?_⟩
          simpa [settle, asked, Progress.asked] using same
      | finished outcome =>
          have told := World.hears_tellAll (LogEvent.ofOutcome outcome) after
          have goesOn := (wakes.trans told).trans
            (hears_between { loop with activity := .waiting } ticket _ rfl)
          refine ⟨_, by simpa [settle] using goesOn, ?_⟩
          simp only [Progress.asked, List.append_nil] at same
          simp [settle, ← same]

theorem clock_run : (loop.run ticket world).2.clock = world.clock := by
  obtain ⟨_, heard, _⟩ := loop.hears_run ticket world
  exact heard.clock

theorem delay_run :
    (loop.run ticket world).2.objects.delay = world.objects.delay := by
  obtain ⟨_, heard, _⟩ := loop.hears_run ticket world
  exact heard.delay

end Loop

end FileCleanup.Simulation
