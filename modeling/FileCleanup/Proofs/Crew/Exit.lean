import FileCleanup.Proofs.Crew.History

namespace FileCleanup.Simulation.Crew

/-! A worker whose loop has ended does nothing more. -/

variable {crew : Crew} {worker : Nat}

def Ended (crew : Crew) (loop : Nat) : Prop :=
  ∃ held, crew.timeline.loops[loop]? = some held ∧ held.activity = .stopped

/-- The loop of a worker has ended. -/
def Exited (crew : Crew) (worker : Nat) : Prop :=
  ∃ loop, crew.Owns worker loop ∧ crew.Ended loop

/-- In the course of `later` the worker begins nothing, calls nothing and tells
nothing. -/
def Silent (crew : Crew) (worker : Nat) (later : List Action) : Prop :=
  crew.history worker later = [] ∧
    ∀ between index rest, later = between ++ .turn index :: rest →
      (crew.run between).Owns worker index →
        (crew.run (between ++ [.turn index])).timeline.world =
          (crew.run between).timeline.world

theorem Meets.of_stopped {index : Nat} {held after : Loop} {action : Action}
    {deeds : List Deed} (meets : crew.Meets index held action deeds after)
    (stopped : held.activity = .stopped) :
    after.activity = .stopped ∧ deeds = [] := by
  cases meets with
  | spared | cancelled | passed => exact ⟨stopped, rfl⟩
  | turned _ _ _ turn =>
      cases turn with
      | rests => exact ⟨stopped, rfl⟩
      | starts active | pauses active | sleepsOn active | wakes active =>
          rw [stopped] at active
          cases active

theorem Ended.step {loop : Nat} (ended : crew.Ended loop) (action : Action) :
    (crew.step action).Ended loop := by
  obtain ⟨held, found, stopped⟩ := ended
  obtain ⟨deeds, after, foundAfter, meets⟩ := exists_meets found action
  exact ⟨after, foundAfter, (meets.of_stopped stopped).1⟩

theorem Exited.step (exited : crew.Exited worker) (action : Action) :
    (crew.step action).Exited worker := by
  obtain ⟨loop, owns, ended⟩ := exited
  exact ⟨loop, owns.step action, ended.step action⟩

theorem Exited.deeds_eq_nil (exited : crew.Exited worker)
    (wellRun : crew.WellRun) (action : Action) :
    crew.deeds worker action = [] := by
  obtain ⟨loop, owns, held, found, stopped⟩ := exited
  obtain ⟨deeds, after, _, meets⟩ := exists_meets found action
  rw [wellRun.deeds_of_meets owns found meets, (meets.of_stopped stopped).2]
  rfl

theorem Exited.run (exited : crew.Exited worker) (actions : List Action) :
    (crew.run actions).Exited worker := by
  induction actions generalizing crew with
  | nil => exact exited
  | cons action actions induction => exact induction (exited.step action)

theorem Exited.history_eq_nil (exited : crew.Exited worker)
    (wellRun : crew.WellRun) (later : List Action) :
    crew.history worker later = [] := by
  induction later generalizing crew with
  | nil => rfl
  | cons action later induction =>
      rw [history, exited.deeds_eq_nil wellRun, List.nil_append]
      exact induction (exited.step action) (wellRun.step action)

theorem Exited.world_turn (exited : crew.Exited worker)
    (wellRun : crew.WellRun) {index : Nat} (owns : crew.Owns worker index) :
    (crew.step (.turn index)).timeline.world = crew.timeline.world := by
  obtain ⟨other, owned, held, found, stopped⟩ := exited
  rw [(wellRun.employs owns).only other owned] at found
  by_cases ready : index ∈ crew.timeline.ready
  · simp only [Crew.step, Timeline.turn_of_ready found ready, Loop.run, stopped]
  · simp only [Crew.step, Timeline.turn_of_unready ready]

theorem Exited.silent (exited : crew.Exited worker) (wellRun : crew.WellRun)
    (later : List Action) : crew.Silent worker later := by
  refine ⟨exited.history_eq_nil wellRun later, ?_⟩
  intro between index rest _ owns
  rw [run_append]
  exact (exited.run between).world_turn (wellRun.run between) owns

end FileCleanup.Simulation.Crew
