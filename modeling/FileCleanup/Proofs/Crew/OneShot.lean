import FileCleanup.Proofs.Crew.Standing

namespace FileCleanup.Simulation.Crew

/-! A worker is started once, and its loop is always in the slot or in the
hands of one stop, which cancels it. -/

variable {crew : Crew} {worker call loop : Nat}

theorem run_append (crew : Crew) (earlier later : List Action) :
    crew.run (earlier ++ later) = (crew.run earlier).run later :=
  List.foldl_append

/-- The stop that has taken a loop has cancelled it, or that is its next step. -/
def Cancels (crew : Crew) (call loop : Nat) : Prop :=
  crew.Cancelled loop ∨
    crew.Pending call ∧ (crew.step (.cancelTaken call)).Cancelled loop

theorem WellRun.cancels (wellRun : crew.WellRun)
    (takes : crew.Takes worker call loop)
    (cancels : crew.Pending call ∨ crew.Cancelled loop) :
    crew.Cancels call loop := by
  refine cancels.symm.imp_right fun pending => ⟨pending, ?_⟩
  obtain ⟨bound, _⟩ := List.getElem?_eq_some_iff.mp
    (wellRun.takes worker call loop takes)
  rw [wellRun.owners] at bound
  obtain ⟨stage, found⟩ := takes
  obtain ⟨stop, held, entered⟩ := pending
  rw [found] at held
  cases held
  cases entered
  exact cancelled_cancelTaken found bound

theorem WellRun.fresh_or_employed (wellRun : crew.WellRun) (worker : Nat) :
    (crew.gate worker).started = false ∧ crew.answers worker = [] ∧
        (∀ loop, ¬crew.Owns worker loop) ∨
      (crew.gate worker).started = true ∧
        ∃ loop, crew.Employs worker loop := by
  generalize same : crew.gate worker = gate
  have standing := wellRun.standing worker
  rw [same] at standing
  cases standing with
  | fresh loopless unanswered => exact .inl ⟨rfl, unanswered, loopless⟩
  | held employs => exact .inr ⟨rfl, _, employs⟩
  | taken employs => exact .inr ⟨rfl, _, employs⟩

theorem WellRun.slot_or_stop (wellRun : crew.WellRun)
    (owns : crew.Owns worker loop) :
    (crew.gate worker).running = some loop ∧
        (∀ anyone call, ¬crew.Takes anyone call loop) ∨
      (crew.gate worker).running = none ∧
        ∃ call, crew.Takes worker call loop ∧
          (∀ anyone other, crew.Takes anyone other loop → other = call) ∧
          crew.Cancels call loop := by
  generalize same : crew.gate worker = gate
  have standing := wellRun.standing worker
  rw [same] at standing
  cases standing with
  | fresh loopless => exact absurd owns (loopless loop)
  | held employs free =>
      cases employs.only loop owns
      exact .inl ⟨rfl, free⟩
  | taken employs takes only cancels =>
      cases employs.only loop owns
      exact .inr ⟨rfl, _, takes, only, wellRun.cancels takes cancels⟩

theorem WellRun.cancels_of_takes (wellRun : crew.WellRun)
    (takes : crew.Takes worker call loop) : crew.Cancels call loop := by
  have owns := wellRun.takes worker call loop takes
  rcases wellRun.slot_or_stop owns with ⟨_, free⟩ | ⟨_, other, _, only, cancels⟩
  · exact absurd takes (free worker call)
  · rwa [only worker call takes]

theorem Answered.ne_nil (answered : crew.Answered worker) :
    crew.answers worker ≠ [] := by
  obtain ⟨refusals, answers⟩ := answered
  rw [answers]
  exact List.cons_ne_nil _ _

theorem WellRun.fresh_of_unanswered (wellRun : crew.WellRun)
    {employed : Worker} (found : crew.workers[worker]? = some employed)
    (unanswered : crew.answers worker = []) : employed.gate.started = false := by
  rw [← gate_of_found found]
  rcases wellRun.fresh_or_employed worker with
    ⟨fresh, _, _⟩ | ⟨_, _, employs⟩
  · exact fresh
  · exact absurd unanswered employs.answered.ne_nil

theorem WellRun.answers_start (wellRun : crew.WellRun) {employed : Worker}
    (found : crew.workers[worker]? = some employed) (token : String) :
    (crew.start worker token).answers worker =
      crew.answers worker ++ [decide (crew.answers worker = [])] := by
  have answers (answer : Bool) (starts : (crew.start worker token).starts =
      crew.starts ++ [(worker, answer)]) := answers_append starts worker
  rcases wellRun.fresh_or_employed worker with
    ⟨fresh, unanswered, _⟩ | ⟨started, loop, employs⟩
  · rw [gate_of_found found] at fresh
    rw [answers true (by rw [start_of_fresh found fresh])]
    simp [unanswered]
  · rw [gate_of_found found] at started
    rw [answers false (by rw [start_of_started found started])]
    simp [employs.answered.ne_nil]

/-- The first start lets a loop go, which no stop can have taken. -/
theorem WellRun.held_start (wellRun : crew.WellRun) {employed : Worker}
    (found : crew.workers[worker]? = some employed)
    (unanswered : crew.answers worker = []) (token : String) :
    (crew.step (.start worker token)).Owns worker crew.timeline.loops.length ∧
      ∀ anyone call, ¬(crew.step (.start worker token)).Takes anyone call
        crew.timeline.loops.length := by
  rw [← wellRun.owners]
  constructor
  · have fresh := wellRun.fresh_of_unanswered found unanswered
    have owners : (crew.start worker token).owners =
        crew.owners ++ [worker] := by rw [start_of_fresh found fresh]
    exact (owns_append owners worker _).mpr (.inr ⟨rfl, rfl⟩)
  · intro anyone call takes
    rcases (takes_step _).mp takes with before | ⟨stops, _⟩
    · have owns := wellRun.takes anyone call _ before
      obtain ⟨bound, _⟩ := List.getElem?_eq_some_iff.mp owns
      exact Nat.lt_irrefl _ bound
    · cases stops

/-- Only a stop on its worker takes a loop out of the slot. -/
theorem WellRun.free_run (wellRun : crew.WellRun)
    (owns : crew.Owns worker loop)
    (free : ∀ anyone call, ¬crew.Takes anyone call loop)
    (actions : List Action) (unstopped : .stop worker ∉ actions) :
    ∀ anyone call, ¬(crew.run actions).Takes anyone call loop := by
  induction actions generalizing crew with
  | nil => exact free
  | cons action actions induction =>
      rw [List.mem_cons, not_or] at unstopped
      refine induction (wellRun.step action) (owns.step action) ?_ unstopped.2
      intro anyone call takes
      rcases (takes_step action).mp takes with before | ⟨stops, _, running⟩
      · exact free anyone call before
      · have same := ((wellRun.standing anyone).owns running).symm.trans owns
        cases same
        exact unstopped.1 stops.symm

theorem WellRun.takes_stop_run (wellRun : crew.WellRun) {employed : Worker}
    (found : crew.workers[worker]? = some employed)
    (unanswered : crew.answers worker = []) (token : String)
    {between : List Action} (unstopped : .stop worker ∉ between)
    (later : List Action) :
    (crew.run (.start worker token :: between ++ .stop worker :: later)).Takes
      worker (crew.run (.start worker token :: between)).stops.length
      crew.timeline.loops.length := by
  have begun := wellRun.step (.start worker token)
  obtain ⟨owns, free⟩ := wellRun.held_start found unanswered token
  have owned := owns.run between
  have held := begun.free_run owns free between unstopped
  rcases (begun.run between).slot_or_stop owned with ⟨slot, _⟩ | ⟨_, call, takes, _⟩
  · rw [run_append]
    exact Takes.run ((takes_step _).mpr (.inr ⟨rfl, rfl, slot⟩)) later
  · exact absurd takes (held worker call)

/-- Whatever starts, stops and other steps there are, the first start of a
worker is the one that is accepted and it lets the one loop go; that loop is in
the slot, or one stop has it and cancels it, and this is the first stop after
the start. -/
theorem started_once (world : World) (actions : List Action) (worker : Nat) :
    let crew := (ofWorld world).run actions
    crew.owners.length = crew.timeline.loops.length ∧
    (crew.answers worker = [] ∧ (∀ loop, ¬crew.Owns worker loop) ∨
      crew.Answered worker ∧ ∃! loop, crew.Owns worker loop) ∧
    (∀ loop, crew.Owns worker loop →
      (crew.gate worker).running = some loop ∧
          (∀ anyone call, ¬crew.Takes anyone call loop) ∨
        (crew.gate worker).running = none ∧
          ∃ call, crew.Takes worker call loop ∧
            (∀ anyone other, crew.Takes anyone other loop → other = call) ∧
            crew.Cancels call loop) ∧
    (worker < crew.workers.length → ∀ token,
      (crew.step (.start worker token)).answers worker =
          crew.answers worker ++ [decide (crew.answers worker = [])] ∧
        (crew.answers worker = [] → ∀ between later,
          .stop worker ∉ between →
            let loop := crew.timeline.loops.length
            let call := (crew.run (.start worker token :: between)).stops.length
            let stopped :=
              crew.run (.start worker token :: between ++ .stop worker :: later)
            stopped.Owns worker loop ∧ stopped.Takes worker call loop ∧
              stopped.Cancels call loop)) := by
  intro crew
  have wellRun : crew.WellRun := (wellRun_ofWorld world).run actions
  refine ⟨wellRun.owners, ?_, fun loop => wellRun.slot_or_stop,
    fun bound token => ?_⟩
  · rcases wellRun.fresh_or_employed worker with
      ⟨_, unanswered, loopless⟩ | ⟨_, loop, employs⟩
    · exact .inl ⟨unanswered, loopless⟩
    · exact .inr ⟨employs.answered, loop, employs.owns, employs.only⟩
  · have found := List.getElem?_eq_getElem bound
    refine ⟨wellRun.answers_start found token, ?_⟩
    intro unanswered between later unstopped loop call stopped
    have takes : stopped.Takes worker call loop :=
      wellRun.takes_stop_run found unanswered token unstopped later
    have ended : stopped.WellRun := wellRun.run _
    exact ⟨ended.takes worker call loop takes, takes, ended.cancels_of_takes takes⟩

/-- A stop that comes too early, and two that come after two starts. -/
theorem started_once_sample :
    let crew := (ofWorld Sample.world).run [.hire .standard, .stop 0]
    let stopped := crew.run
      [.start 0 "main", .start 0 "other", .stop 0, .stop 0]
    0 < crew.workers.length ∧ crew.answers 0 = [] ∧
      (crew.step (.start 0 "main")).answers 0 = [true] ∧
      stopped.answers 0 = [true, false] ∧ stopped.Takes 0 1 0 ∧
      stopped.Cancels 1 0 ∧ ¬stopped.Takes 0 2 0 := by
  intro crew stopped
  have hired : 0 < crew.workers.length := by decide
  obtain ⟨_, _, _, starts⟩ :=
    started_once Sample.world [.hire .standard, .stop 0] 0
  obtain ⟨answers, stops⟩ := starts hired "main"
  have unstopped : Action.stop 0 ∉ [.start 0 "other"] := by simp
  obtain ⟨_, takes, cancels⟩ :=
    stops rfl [.start 0 "other"] [.stop 0] unstopped
  refine ⟨hired, rfl, answers, rfl, takes, cancels, ?_⟩
  rintro ⟨stage, found⟩
  cases found

end FileCleanup.Simulation.Crew
