import FileCleanup.Proofs.Crew.Step
import FileCleanup.Proofs.Interleaving.Loops

namespace FileCleanup.Simulation.Interleaving

/-! Worker loops beside each other, whatever is started and stopped, are an
interleaving of their batches: what holds after every run of interleaved batches
holds while workers run them. -/

variable {state : Interleaving}

/-- The batches in which the loops of a timeline are asleep are under way, each
at a place of its own. -/
structure Tracks (state : Interleaving) (timeline : Timeline)
    (place : Nat → Option Nat) : Prop where
  world : state.world = timeline.world
  carries : ∀ index loop, timeline.loops[index]? = some loop →
    Carries state loop (place index)
  apart : ∀ left right index, place left = some index →
    place right = some index → left = right
  bound : ∀ loop index, place loop = some index → index < state.flights.length

namespace Tracks

variable {timeline : Timeline} {place : Nat → Option Nat}

theorem ne_newPlace (tracks : Tracks state timeline place) {index other : Nat}
    {later : Interleaving} {newPlace : Option Nat}
    (goes : Goes state later (place index) newPlace) (different : other ≠ index)
    {taken : Nat} (old : place other = some taken) : newPlace ≠ some taken := by
  intro new
  rcases goes.fresh taken new with same | beyond
  · exact different (tracks.apart other index taken old same)
  · exact Nat.not_le.mpr (tracks.bound other taken old) beyond

theorem set (tracks : Tracks state timeline place) {index : Nat}
    {loop after : Loop} (found : timeline.loops[index]? = some loop)
    {later : Interleaving} {newPlace : Option Nat}
    (goes : Goes state later (place index) newPlace)
    (carries : Carries later after newPlace) (ticket : Nat) :
    Tracks later
      { timeline with
        world := later.world
        loops := timeline.loops.set index after
        tickets := ticket }
      (Function.update place index newPlace) where
  world := rfl
  carries := by
    intro other held member
    by_cases same : other = index
    · subst same
      rw [getElem?_set_found found] at member
      cases member
      rw [Function.update_self]
      exact carries
    · rw [List.getElem?_set_ne (Ne.symm same)] at member
      rw [Function.update_of_ne same]
      intro flight asleep
      obtain ⟨taken, old, underWay⟩ :=
        tracks.carries other held member flight asleep
      refine ⟨taken, old, goes.others taken flight ?_ underWay⟩
      exact fun shared => same (tracks.apart other index taken old shared)
  apart := by
    intro left right taken leftPlace rightPlace
    by_cases leftSame : left = index <;> by_cases rightSame : right = index
    · rw [leftSame, rightSame]
    · rw [leftSame, Function.update_self] at leftPlace
      rw [Function.update_of_ne rightSame] at rightPlace
      exact absurd leftPlace (tracks.ne_newPlace goes rightSame rightPlace)
    · rw [Function.update_of_ne leftSame] at leftPlace
      rw [rightSame, Function.update_self] at rightPlace
      exact absurd rightPlace (tracks.ne_newPlace goes leftSame leftPlace)
    · rw [Function.update_of_ne leftSame] at leftPlace
      rw [Function.update_of_ne rightSame] at rightPlace
      exact tracks.apart left right taken leftPlace rightPlace
  bound := by
    intro other taken held
    by_cases same : other = index
    · rw [same, Function.update_self] at held
      exact goes.bound taken held
    · rw [Function.update_of_ne same] at held
      exact Nat.lt_of_lt_of_le (tracks.bound other taken held) goes.grows

end Tracks

/-- A run from `start` leads to the world and the batches of `timeline`. -/
def Mirrors (start : Interleaving) (timeline : Timeline) : Prop :=
  ∃ state place, Reaches start state ∧ Tracks state timeline place

namespace Mirrors

variable {start : Interleaving} {timeline : Timeline}

/-- What holds after every run in which only batches call holds of a timeline. -/
theorem exists_run (mirrors : Mirrors start timeline) :
    ∃ moves, (∀ call, .call call ∉ moves) ∧
      (start.run moves).world = timeline.world := by
  obtain ⟨state, place, ⟨moves, own, rfl⟩, tracks⟩ := mirrors
  exact ⟨moves, own, tracks.world⟩

theorem ofWorld (world : World) :
    Mirrors (ofWorld world) (Crew.ofWorld world).timeline := by
  refine ⟨_, fun _ => none, .refl _, rfl, ?_, nofun, nofun⟩
  intro index loop member
  cases member

/-- Which loops are ready, and which tokens are cancelled, does not matter. -/
theorem congr (mirrors : Mirrors start timeline) {other : Timeline}
    (world : other.world = timeline.world) (loops : other.loops = timeline.loops) :
    Mirrors start other := by
  obtain ⟨state, place, reaches, tracks⟩ := mirrors
  refine ⟨state, place, reaches, tracks.world.trans world.symm, ?_, tracks.apart,
    tracks.bound⟩
  rw [loops]
  exact tracks.carries

theorem runLoop (mirrors : Mirrors start timeline) (index : Nat) :
    Mirrors start (timeline.runLoop index) := by
  obtain ⟨state, place, reaches, tracks⟩ := mirrors
  unfold Timeline.runLoop
  cases found : timeline.loops[index]? with
  | none => exact ⟨state, place, reaches, tracks⟩
  | some loop =>
      obtain ⟨later, newPlace, goes, world, carries⟩ :=
        follows_run (tracks.carries index loop found) timeline.tickets
      rw [tracks.world] at world carries
      have tracked := tracks.set found goes carries (timeline.tickets + 1)
      rw [world] at tracked
      exact ⟨later, Function.update place index newPlace,
        reaches.trans goes.reaches, tracked⟩

theorem turn (mirrors : Mirrors start timeline) (index : Nat) :
    Mirrors start (timeline.turn index) := by
  unfold Timeline.turn
  split
  · have idle : Mirrors start
        { timeline with ready := timeline.ready.erase index } :=
      mirrors.congr rfl rfl
    exact idle.runLoop index
  · exact mirrors

theorem reach (mirrors : Mirrors start timeline) (time : Nat) :
    Mirrors start (timeline.reach time) := by
  obtain ⟨state, place, reaches, tracks⟩ := mirrors
  have passes := Reaches.step state
    (.passTime state.world.origin time) nofun
  refine ⟨_, place, reaches.trans passes, ?_, tracks.carries, tracks.apart,
    tracks.bound⟩
  simp only [Interleaving.step, Timeline.reach, tracks.world]

theorem pass (mirrors : Mirrors start timeline) (clock : Nat) :
    Mirrors start (timeline.pass clock) := by
  unfold Timeline.pass
  split
  · exact mirrors.reach clock
  · exact mirrors

theorem tell (mirrors : Mirrors start timeline) (event : LogEvent) :
    Mirrors start (timeline.tell event) := by
  obtain ⟨state, place, reaches, tracks⟩ := mirrors
  have tells := Reaches.step state (.tell event) nofun
  exact ⟨_, place, reaches.trans tells,
    congrArg (World.tell event) tracks.world, tracks.carries, tracks.apart,
    tracks.bound⟩

theorem spawn (mirrors : Mirrors start timeline) (settings : CleanupSettings)
    (token : String) : Mirrors start (timeline.spawn settings token) := by
  obtain ⟨state, place, reaches, tracks⟩ := mirrors
  refine ⟨state, place, reaches, tracks.world, ?_, tracks.apart, tracks.bound⟩
  intro index loop member
  rcases Nat.lt_or_ge index timeline.loops.length with old | new
  · have before : timeline.loops[index]? = some loop := by
      rw [← member]
      exact (List.getElem?_append_left old).symm
    exact tracks.carries index loop before
  · rw [Timeline.spawn, List.getElem?_append_right new] at member
    have starting := List.mem_singleton.mp (List.mem_of_getElem? member)
    subst starting
    exact carries_of_awake rfl state (place index)

theorem cancelLoops (mirrors : Mirrors start timeline)
    (chosen : Nat → Loop → Bool) :
    Mirrors start (timeline.cancelLoops chosen) := by
  obtain ⟨state, place, reaches, tracks⟩ := mirrors
  refine ⟨state, place, reaches, tracks.world, ?_, tracks.apart, tracks.bound⟩
  intro index loop member
  rw [Timeline.cancelLoops, List.getElem?_mapIdx] at member
  obtain ⟨before, found, rfl⟩ := Option.map_eq_some_iff.mp member
  intro flight asleep
  refine tracks.carries index before found flight ?_
  rw [← asleep]
  split <;> rfl

theorem cancelToken (mirrors : Mirrors start timeline) (token : String) :
    Mirrors start (timeline.cancelToken token) :=
  (mirrors.cancelLoops _).congr rfl rfl

theorem step {crew : Crew} (mirrors : Mirrors start crew.timeline)
    {action : Action} (own : ∀ world, action ≠ .interfere world) :
    Mirrors start (crew.step action).timeline := by
  cases action with
  | hire settings => exact mirrors
  | start worker token =>
      change Mirrors start (crew.start worker token).timeline
      rcases crew.timeline_start worker token with
        same | told | ⟨settings, spawned⟩
      · rwa [same]
      · rw [told]
        exact mirrors.tell _
      · rw [spawned]
        exact mirrors.spawn settings token
  | stop worker =>
      change Mirrors start (crew.stop worker).timeline
      rwa [crew.timeline_stop]
  | cancelTaken call =>
      change Mirrors start (crew.cancelTaken call).timeline
      rcases crew.cancelTaken_eq call with same | ⟨worker, loop, found⟩
      · rwa [same]
      · rw [Crew.cancelTaken_of_entered found]
        exact mirrors.cancelLoops _
  | leave call =>
      change Mirrors start (crew.leave call).timeline
      rwa [crew.timeline_leave]
  | cancel token => exact mirrors.cancelToken token
  | turn index => exact mirrors.turn index
  | pass clock => exact mirrors.pass clock
  | interfere world => exact absurd rfl (own world)

theorem run {crew : Crew} (mirrors : Mirrors start crew.timeline)
    {actions : List Action} (own : ∀ world, .interfere world ∉ actions) :
    Mirrors start (crew.run actions).timeline := by
  induction actions generalizing crew with
  | nil => exact mirrors
  | cons action actions induction =>
      refine induction (mirrors.step fun world same => ?_) fun world member =>
        own world (List.mem_cons_of_mem action member)
      exact own world (same ▸ List.mem_cons_self)

end Mirrors

/-- Whatever a crew does with stores that it has for itself, its batches do. -/
theorem exists_run_eq_crew (world : World) {actions : List Action}
    (own : ∀ other, .interfere other ∉ actions) :
    ∃ moves, (∀ call, .call call ∉ moves) ∧
      ((ofWorld world).run moves).world =
        ((Crew.ofWorld world).run actions).timeline.world :=
  ((Mirrors.ofWorld world).run own).exists_run

end FileCleanup.Simulation.Interleaving
