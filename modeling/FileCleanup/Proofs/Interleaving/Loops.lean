import FileCleanup.Proofs.Interleaving.WholeBatch
import FileCleanup.Simulation.Timeline

namespace FileCleanup.Simulation

/-! What a worker loop does up to its next wait, as moves of its batches. -/

section Proceed

variable {settings : CleanupSettings} {world : World}

theorem proceed_finished (outcome : Except CleanupError BatchResult) :
    proceed settings (.finished outcome) world = (.finished outcome, world) := by
  rw [proceed]
  rfl

theorem proceed_asleep (slow : world.objects.delay ≠ 0) (file : FileRecord)
    (rest : List FileRecord) (result : BatchResult) :
    proceed settings (.deleting file rest result) world =
      (.asleep world.objects.delay file rest result,
        (world.tell (.deletingFile file)).beginDelete file.bucket
          file.storageKey) := by
  rw [proceed]
  simp [Phase.due, slow]
  rfl

theorem proceed_of_request {phase : Phase} {request : Phase.Request}
    (asks : phase.due settings = .inr request)
    (awake : world.objects.delay = 0 ∨
      ∀ file rest result, phase ≠ .deleting file rest result) :
    proceed settings phase world =
      proceed settings (request.perform World.backend world).1
        (request.perform World.backend world).2 := by
  rw [proceed]
  split
  · rename_i ends
    rw [asks] at ends
    cases ends
  · rename_i other
    rw [asks] at other
    cases other
    split
    · rename_i file rest result _
      rcases awake with instant | other
      · rw [if_pos instant]
      · exact absurd rfl (other file rest result)
    · rfl

/-- What holds where a batch stops, and before each call that it makes without a
wait if it holds after the call, holds of every batch. -/
theorem proceed_induction {motive : Phase → World → Prop}
    (finished : ∀ outcome world, motive (.finished outcome) world)
    (asleep : ∀ {world} file rest result, world.objects.delay ≠ 0 →
      motive (.deleting file rest result) world)
    (calls : ∀ {phase world request}, phase.due settings = .inr request →
      (world.objects.delay = 0 ∨
        ∀ file rest result, phase ≠ .deleting file rest result) →
      motive (request.perform World.backend world).1
        (request.perform World.backend world).2 →
      motive phase world)
    (phase : Phase) (world : World) : motive phase world := by
  induction phase, world using proceed.induct settings with
  | case1 phase world outcome ends =>
      cases phase <;> cases ends
      exact finished _ world
  | case2 world request file rest result asks instant next induction =>
      exact calls asks (.inl instant) induction
  | case3 world request file rest result asks slow =>
      exact asleep file rest result slow
  | case4 phase world request next asks other induction =>
      refine calls asks (.inr ?_) induction
      rintro file rest result rfl
      exact other file rest result asks rfl HEq.rfl

end Proceed

/-- The stage of a batch that has come to `progress`. -/
def Progress.stage : Progress → Stage
  | .finished outcome => .between (.finished outcome)
  | .asleep _ file rest result => .deleting file rest result

namespace Interleaving

variable {settings : CleanupSettings} {index : Nat}

/-- A batch up to the first delete that takes time. -/
theorem exists_run_proceed {phase : Phase} (world : World)
    {flights : List Flight}
    (found : flights[index]? = some ⟨settings, .between phase⟩) :
    ∃ moves, Unaided moves ∧ run ⟨world, flights⟩ moves =
      ⟨(proceed settings phase world).2, flights.set index
        ⟨settings, (proceed settings phase world).1.stage⟩⟩ := by
  induction phase, world using @proceed_induction settings
    generalizing flights with
  | finished outcome world =>
      refine ⟨[], ⟨nofun, nofun⟩, ?_⟩
      obtain ⟨bound, here⟩ := List.getElem?_eq_some_iff.mp found
      rw [proceed_finished]
      simp only [run, List.foldl_nil, Progress.stage, ← here,
        List.set_getElem_self]
  | @asleep world file rest result slow =>
      refine ⟨[.proceed index], ⟨by simp, by simp⟩, ?_⟩
      rw [proceed_asleep slow]
      change step ⟨world, flights⟩ (.proceed index) = _
      rw [step_proceed ⟨world, flights⟩ found]
      rfl
  | @calls phase world request asks awake induction =>
      obtain ⟨first, firstUnaided, steps⟩ :=
        exists_run_step ⟨world, flights⟩ found asks
      obtain ⟨others, othersUnaided, runs⟩ :=
        induction (getElem?_set_found found _)
      refine ⟨first ++ others, firstUnaided.append othersUnaided, ?_⟩
      rw [run_append, steps, runs, List.set_set, proceed_of_request asks awake]

theorem exists_run_wakeUp (world : World) {flights : List Flight}
    {file : FileRecord} {rest : List FileRecord} {result : BatchResult}
    (found : flights[index]? = some ⟨settings, .deleting file rest result⟩) :
    ∃ moves, Unaided moves ∧ run ⟨world, flights⟩ moves =
      ⟨(wakeUp settings file rest result world).2, flights.set index
        ⟨settings, (wakeUp settings file rest result world).1.stage⟩⟩ := by
  have ends := step_proceed ⟨world, flights⟩ found
  have resumes (phase : Phase) (after : World)
      (steps : step ⟨world, flights⟩ (.proceed index) =
        ⟨after, flights.set index ⟨settings, .between phase⟩⟩) :
      ∃ moves, Unaided moves ∧ run ⟨world, flights⟩ moves =
        ⟨(proceed settings phase after).2, flights.set index
          ⟨settings, (proceed settings phase after).1.stage⟩⟩ := by
    obtain ⟨moves, unaided, runs⟩ :=
      exists_run_proceed after (getElem?_set_found found _)
    refine ⟨.proceed index :: moves, ⟨by simp [unaided.launches],
      by simp [unaided.calls]⟩, ?_⟩
    change run (step ⟨world, flights⟩ (.proceed index)) moves = _
    rw [steps, runs, List.set_set]
  unfold wakeUp
  simp only [Flight.step] at ends
  cases finished : world.finishDelete file.bucket file.storageKey with
  | mk answer after =>
      rw [finished] at ends
      cases answer with
      | ok => exact resumes (.finalizing file rest result) after ends
      | error cause =>
          exact resumes (.recordingFailure file cause rest result) after ends

/-- A run in which nobody calls but the batches leads to `later`. -/
def Reaches (state later : Interleaving) : Prop :=
  ∃ moves, (∀ call, .call call ∉ moves) ∧ state.run moves = later

namespace Reaches

theorem refl (state : Interleaving) : Reaches state state :=
  ⟨[], nofun, rfl⟩

theorem trans {first second third : Interleaving}
    (left : Reaches first second) (right : Reaches second third) :
    Reaches first third := by
  obtain ⟨moves, own, rfl⟩ := left
  obtain ⟨others, othersOwn, rfl⟩ := right
  refine ⟨moves ++ others, ?_, run_append first moves others⟩
  intro call member
  rcases List.mem_append.mp member with inMoves | inOthers
  · exact own call inMoves
  · exact othersOwn call inOthers

theorem step (state : Interleaving) (move : Move)
    (own : ∀ call, move ≠ .call call) : Reaches state (state.step move) := by
  refine ⟨[move], ?_, rfl⟩
  intro call member
  exact own call (List.mem_singleton.mp member).symm

theorem tellAll (events : List LogEvent) (state : Interleaving) :
    Reaches state { state with
      world := World.backend.tellAll events state.world } := by
  induction events generalizing state with
  | nil => exact refl state
  | cons event events induction =>
      exact (step state (.tell event) nofun).trans (induction _)

end Reaches

end Interleaving

/-- The batch in which a loop is asleep. -/
def Loop.asleep? (loop : Loop) : Option Flight :=
  match loop.activity with
  | .deleting _ _ file rest result =>
    some ⟨loop.settings, .deleting file rest result⟩
  | _ => none

namespace Interleaving

/-- If `loop` is asleep, its batch is the one at `place`. -/
def Carries (state : Interleaving) (loop : Loop) (place : Option Nat) : Prop :=
  ∀ flight, loop.asleep? = some flight →
    ∃ index, place = some index ∧ state.flights[index]? = some flight

theorem carries_of_awake {loop : Loop} (awake : loop.asleep? = none)
    (state : Interleaving) (place : Option Nat) : Carries state loop place := by
  intro flight asleep
  rw [awake] at asleep
  cases asleep

/-- A run that touches no batch but the one of a loop, and those that the loop
begins. -/
structure Goes (state later : Interleaving) (place newPlace : Option Nat) :
    Prop where
  reaches : Reaches state later
  others : ∀ index flight, place ≠ some index →
    state.flights[index]? = some flight →
      later.flights[index]? = some flight
  fresh : ∀ index, newPlace = some index →
    place = some index ∨ state.flights.length ≤ index
  grows : state.flights.length ≤ later.flights.length
  bound : ∀ index, newPlace = some index → index < later.flights.length

namespace Goes

variable {state later : Interleaving} {place newPlace : Option Nat}

theorem trans {last : Interleaving} {lastPlace : Option Nat}
    (left : Goes state later place newPlace)
    (right : Goes later last newPlace lastPlace) :
    Goes state last place lastPlace where
  reaches := left.reaches.trans right.reaches
  others index flight other found := by
    refine right.others index flight ?_ (left.others index flight other found)
    intro taken
    rcases left.fresh index taken with same | new
    · exact other same
    · obtain ⟨inside, _⟩ := List.getElem?_eq_some_iff.mp found
      omega
  fresh index last := by
    rcases right.fresh index last with same | new
    · exact left.fresh index same
    · exact .inr (Nat.le_trans left.grows new)
  grows := Nat.le_trans left.grows right.grows
  bound := right.bound

theorem of_flights_eq (reaches : Reaches state later)
    (same : later.flights = state.flights) (place : Option Nat) :
    Goes state later place none where
  reaches := reaches
  others index flight other found := by rwa [same]
  fresh := nofun
  grows := Nat.le_of_eq (congrArg List.length same.symm)
  bound := nofun

theorem of_set {index : Nat} {flight : Flight} {world : World}
    (reaches : Reaches state ⟨world, state.flights.set index flight⟩)
    (inside : index < state.flights.length) :
    Goes state ⟨world, state.flights.set index flight⟩ (some index)
      (some index) where
  reaches := reaches
  others other found different held := by
    have apart : index ≠ other := fun same => different (congrArg some same)
    rwa [List.getElem?_set_ne apart]
  fresh _ same := .inl same
  grows := Nat.le_of_eq (List.length_set ..).symm
  bound other same := by
    cases same
    rwa [List.length_set]

theorem of_launch {settings : CleanupSettings} {flight : Flight} {world : World}
    (reaches : Reaches (state.step (.launch settings))
      ⟨world, (state.flights ++ [Flight.launched settings]).set
        state.flights.length flight⟩) (place : Option Nat) :
    Goes state ⟨world, (state.flights ++ [Flight.launched settings]).set
      state.flights.length flight⟩ place (some state.flights.length) where
  reaches := (Reaches.step state (.launch settings) nofun).trans reaches
  others index _ _ found := by
    obtain ⟨inside, _⟩ := List.getElem?_eq_some_iff.mp found
    have apart : state.flights.length ≠ index := Nat.ne_of_gt inside
    rw [List.getElem?_set_ne apart, List.getElem?_append_left inside]
    exact found
  fresh index same := .inr (Nat.le_of_eq (Option.some.inj same))
  grows := by simp
  bound index same := by
    cases same
    simp

end Goes

/-- A run after which the loop and the world are as in `result`. -/
def Follows (state : Interleaving) (place : Option Nat)
    (result : Loop × World) : Prop :=
  ∃ later newPlace, Goes state later place newPlace ∧
    later.world = result.2 ∧ Carries later result.1 newPlace

variable {state : Interleaving} {place : Option Nat}

theorem Goes.follows {later : Interleaving} {newPlace : Option Nat}
    {result : Loop × World} (goes : Goes state later place newPlace)
    (follows : Follows later newPlace result) : Follows state place result := by
  obtain ⟨last, lastPlace, onward, world, carries⟩ := follows
  exact ⟨last, lastPlace, goes.trans onward, world, carries⟩

theorem follows_settle {loop : Loop} {progress : Progress × World}
    (same : state.world = progress.2)
    (found : state.flights[index]? = some ⟨loop.settings, progress.1.stage⟩)
    (ticket : Nat) : Follows state (some index) (loop.settle ticket progress) := by
  obtain ⟨progress, world⟩ := progress
  subst same
  cases progress with
  | finished outcome =>
      refine ⟨_, none, .of_flights_eq (.tellAll (LogEvent.ofOutcome outcome) state)
        rfl _, rfl, carries_of_awake rfl _ _⟩
  | asleep delay file rest result =>
      obtain ⟨inside, _⟩ := List.getElem?_eq_some_iff.mp found
      refine ⟨state, some index, ⟨.refl state, fun _ _ _ held => held,
        fun _ same => .inl same, Nat.le_refl _, ?_⟩, rfl, ?_⟩
      · intro other same
        cases same
        exact inside
      · intro flight asleep
        cases asleep
        exact ⟨index, rfl, found⟩

theorem follows_between {loop : Loop} (awake : loop.asleep? = none)
    (ticket : Nat) (state : Interleaving) (place : Option Nat) :
    Follows state place (loop.between ticket state.world) := by
  unfold Loop.between
  split
  · exact ⟨_, none,
      .of_flights_eq (.step state (.tell .workerStopped) nofun) rfl _, rfl,
      carries_of_awake rfl _ _⟩
  split
  · have found : (state.flights ++ [Flight.launched loop.settings])[
        state.flights.length]? = some ⟨loop.settings, .between .releasing⟩ := by
      simp [Flight.launched]
    obtain ⟨moves, unaided, runs⟩ := exists_run_proceed state.world found
    have reaches : Reaches (state.step (.launch loop.settings)) _ :=
      ⟨moves, unaided.calls, runs⟩
    have goes := Goes.of_launch reaches place
    refine goes.follows (follows_settle rfl ?_ ticket)
    exact getElem?_set_found found _
  · exact ⟨state, none, .of_flights_eq (.refl state) rfl _, rfl,
      carries_of_awake awake _ _⟩

/-- Whatever a loop does when it can go on, its batches do. -/
theorem follows_run {loop : Loop} (carries : Carries state loop place)
    (ticket : Nat) : Follows state place (loop.run ticket state.world) := by
  unfold Loop.run
  split
  · rename_i stopped
    have awake : loop.asleep? = none := by rw [Loop.asleep?, stopped]
    exact ⟨state, none, .of_flights_eq (.refl state) rfl _, rfl,
      carries_of_awake awake _ _⟩
  · have told := Reaches.step state
      (.tell (.workerStarted loop.settings)) nofun
    exact (Goes.of_flights_eq told rfl place).follows
      (follows_between rfl ticket _ none)
  · rename_i waiting
    have awake : loop.asleep? = none := by rw [Loop.asleep?, waiting]
    exact follows_between awake ticket state place
  · rename_i wake own file rest result asleep
    obtain ⟨index, rfl, found⟩ := carries
      ⟨loop.settings, .deleting file rest result⟩ (by rw [Loop.asleep?, asleep])
    obtain ⟨inside, _⟩ := List.getElem?_eq_some_iff.mp found
    obtain ⟨moves, unaided, runs⟩ := exists_run_wakeUp state.world found
    have reaches : Reaches state _ := ⟨moves, unaided.calls, runs⟩
    refine (Goes.of_set reaches inside).follows ?_
    let progress := wakeUp loop.settings file rest result state.world
    have settles : Follows
        ⟨progress.2, state.flights.set index ⟨loop.settings, progress.1.stage⟩⟩
        (some index) (loop.settle ticket progress) :=
      follows_settle rfl (getElem?_set_found found _) ticket
    obtain ⟨later, newPlace, goes, world, carries⟩ := settles
    dsimp only
    split
    · rename_i waiting
      have awake : (loop.settle ticket progress).1.asleep? = none := by
        rw [Loop.asleep?, waiting]
      refine goes.follows ?_
      rw [← world]
      exact follows_between awake ticket later newPlace
    · exact ⟨later, newPlace, goes, world, carries⟩

end Interleaving

end FileCleanup.Simulation
