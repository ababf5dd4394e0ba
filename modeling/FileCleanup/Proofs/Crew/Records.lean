import FileCleanup.Proofs.Crew.Batches

namespace FileCleanup.Simulation

/-! What the journal takes up in the turns of one worker: the calls that the
worker's history speaks of, and no others. -/

def Deed.storeCall? : Deed → Option Call
  | .speaks exchange =>
    if exchange.call.isStored then some exchange.call else none
  | _ => none

theorem filter_isStored_spoken (deeds : List Deed) :
    ((spoken deeds).map Exchange.call).filter Call.isStored =
      deeds.filterMap Deed.storeCall? := by
  induction deeds with
  | nil => rfl
  | cons deed deeds induction =>
      cases deed with
      | begins | ends => exact induction
      | speaks exchange =>
          rw [List.filterMap_cons, ← induction]
          cases stored : exchange.call.isStored <;>
            simp [spoken, Deed.exchange?, Deed.storeCall?, stored]

/-- The calls of the record store in a history, each with its instant. -/
def storedCalls (history : List (Nat × Deed)) : List (Nat × Call) :=
  history.filterMap fun (time, deed) => deed.storeCall?.map (Prod.mk time)

@[simp] theorem storedCalls_append (earlier later : List (Nat × Deed)) :
    storedCalls (earlier ++ later) = storedCalls earlier ++ storedCalls later :=
  List.filterMap_append

theorem storedCalls_timed (now : Nat) (deeds : List Deed) :
    storedCalls (deeds.map (Prod.mk now)) =
      (deeds.filterMap Deed.storeCall?).map (Prod.mk now) := by
  rw [storedCalls, List.filterMap_map, List.map_filterMap]
  rfl

theorem map_snd_storedCalls (history : List (Nat × Deed)) :
    (storedCalls history).map Prod.snd =
      (history.map Prod.snd).filterMap Deed.storeCall? := by
  rw [storedCalls, List.filterMap_map, List.map_filterMap]
  refine List.filterMap_congr fun entry _ => ?_
  simp [Function.comp_def]

/-- The instants at which stale claims are released, which is the first thing in
a batch. -/
def releases (calls : List (Nat × Call)) : List Nat :=
  calls.filterMap fun
    | (time, .releaseStaleClaims _) => some time
    | _ => none

@[simp] theorem releases_append (earlier later : List (Nat × Call)) :
    releases (earlier ++ later) = releases earlier ++ releases later :=
  List.filterMap_append

theorem releases_handlings (now : Nat) (handlings : List Handling) :
    releases (storedCalls
      (((handlings.flatMap Handling.exchanges).map .speaks).map
        (Prod.mk now))) = [] := by
  induction handlings with
  | nil => rfl
  | cons handling handlings induction =>
      rw [List.flatMap_cons, List.map_append, List.map_append,
        storedCalls_append, releases_append, induction]
      cases handling <;> rfl

/-- What a batch says from its first call on begins with the only release. -/
theorem Opens.releases_eq {settings : CleanupSettings}
    {exchanges : List Exchange} {progress : Progress}
    (opens : Opens settings exchanges progress) (now : Nat) :
    releases (storedCalls ((exchanges.map .speaks).map (Prod.mk now))) =
      [now] := by
  obtain ⟨released, claimed, others, rfl, follows⟩ := opens
  have handled : ∃ handlings : List Handling,
      others = handlings.flatMap Handling.exchanges := by
    cases claimed with
    | ok files =>
        obtain ⟨handlings, same, _⟩ := follows
        exact ⟨handlings, same⟩
    | error cause => exact ⟨[], follows.1⟩
  obtain ⟨handlings, rfl⟩ := handled
  exact congrArg (List.cons now) (releases_handlings now handlings)

/-- In one turn as many batches begin as releases are made. -/
def BeginsAtReleases (deeds : List Deed) : Prop :=
  ∀ now : Nat, beginnings (deeds.map (Prod.mk now)) =
    releases (storedCalls (deeds.map (Prod.mk now)))

theorem BeginsAtReleases.append {earlier later : List Deed}
    (left : BeginsAtReleases earlier) (right : BeginsAtReleases later) :
    BeginsAtReleases (earlier ++ later) := by
  intro now
  rw [List.map_append, beginnings_append, storedCalls_append, releases_append,
    left now, right now]

theorem Opens.begins_at_releases {settings : CleanupSettings}
    {exchanges : List Exchange} {progress : Progress}
    (opens : Opens settings exchanges progress) :
    BeginsAtReleases (.begins :: exchanges.map .speaks) := by
  intro now
  change now :: beginnings ((exchanges.map .speaks).map (Prod.mk now)) =
    releases (storedCalls ((exchanges.map .speaks).map (Prod.mk now)))
  rw [opens.releases_eq, List.map_map, beginnings_speaks]

theorem HandlesUpTo.begins_at_releases {files : List FileRecord}
    {exchanges : List Exchange} {progress : Progress}
    (handles : HandlesUpTo files exchanges progress) :
    BeginsAtReleases (exchanges.map .speaks) := by
  obtain ⟨handlings, rfl, _⟩ := handles
  intro now
  rw [releases_handlings, List.map_map, beginnings_speaks]

namespace Loop

variable {held after : Loop} {deeds : List Deed} {ticket now delay : Nat}

theorem begins_at_releases_nil : BeginsAtReleases [] := fun _ => rfl

theorem begins_at_releases_ends (outcome : Except CleanupError BatchResult) :
    BeginsAtReleases [.ends outcome] := fun _ => rfl

theorem Pause.begins_at_releases
    (pause : held.Pause ticket now delay deeds after) :
    BeginsAtReleases deeds := by
  cases pause with
  | stops | waits => exact begins_at_releases_nil
  | @works _ _ exchanges outcome opens =>
      exact opens.begins_at_releases.append (begins_at_releases_ends outcome)
  | sleeps _ _ _ opens => exact opens.begins_at_releases

theorem Turn.begins_at_releases
    (turn : held.Turn ticket now delay deeds after) :
    BeginsAtReleases deeds := by
  cases turn with
  | rests => exact begins_at_releases_nil
  | starts _ pause | pauses _ pause => exact pause.begins_at_releases
  | sleepsOn _ _ _ handles => exact handles.begins_at_releases
  | @wakes _ _ _ _ _ exchanges outcome others _ _ handles pause =>
      exact handles.begins_at_releases.append
        ((begins_at_releases_ends outcome).append pause.begins_at_releases)

end Loop

namespace Crew

/-- The entries that a part of the journal gains in a turn of the worker's loop,
each with the instant of the turn. -/
def gains {Entry : Type} (part : Journal → Array Entry) (crew : Crew)
    (worker : Nat) : Action → List (Nat × Entry)
  | .turn index =>
    if crew.owners[index]? = some worker then
      let before := part crew.timeline.world.journal
      let after := part (crew.step (.turn index)).timeline.world.journal
      (after.toList.drop before.size).map (Prod.mk crew.clock)
    else []
  | _ => []

def noted {Entry : Type} (part : Journal → Array Entry) (crew : Crew)
    (worker : Nat) : List Action → List (Nat × Entry)
  | [] => []
  | action :: actions =>
    crew.gains part worker action ++ (crew.step action).noted part worker actions

/-- The calls of the record store that are noted in the turns of a worker. -/
abbrev storeCalls : Crew → Nat → List Action → List (Nat × Call) :=
  noted Journal.calls

/-- The deletes of objects that are noted in the turns of a worker. -/
abbrev deleteCalls : Crew → Nat → List Action → List (Nat × (String × String)) :=
  noted Journal.deletes

/-- The object whose delete the loop of a worker waits for. -/
def asked (crew : Crew) (worker : Nat) : List (String × String) :=
  match crew.owners.idxOf? worker with
  | none => []
  | some index => (crew.timeline.loops[index]?).elim [] Loop.asked

/-- The objects are kept in memory in the course of `actions`. -/
def InMemory (crew : Crew) (actions : List Action) : Prop :=
  ∀ between, between <+: actions → (crew.run between).timeline.world.InMemory

/-- A turn of the loop at `index` does to the world what the worker does in it.
Each delete that the loop has been waiting for or begins is over at the end, but
for the one that it then waits for. -/
def Hears (crew : Crew) (worker index : Nat) : Prop :=
  let said := spoken ((crew.deeds worker (.turn index)).map Prod.snd)
  let after := crew.step (.turn index)
  ∃ begun, World.Hears crew.timeline.world begun said after.timeline.world ∧
    crew.asked worker ++ begun = deleted said ++ after.asked worker

/-- The history of a worker is what its turns do to the world, and what the
journal takes up in them.  A batch begins with its release, and a delete is noted
when it begins and spoken of when it is over. -/
structure Recorded (crew : Crew) (worker : Nat) (actions : List Action) :
    Prop where
  turns : ∀ between index rest, actions = between ++ .turn index :: rest →
    (crew.run between).Owns worker index → (crew.run between).Hears worker index
  calls : crew.storeCalls worker actions =
    storedCalls (crew.history worker actions)
  begins : beginnings (crew.history worker actions) =
    releases (crew.storeCalls worker actions)
  deletes : crew.InMemory actions →
    crew.asked worker ++ (crew.deleteCalls worker actions).map Prod.snd =
      deleted (spoken ((crew.history worker actions).map Prod.snd)) ++
        (crew.run actions).asked worker

variable {crew : Crew} {worker index : Nat} {held : Loop} {action : Action}
  {actions : List Action}

theorem asked_of_loopless (loopless : ∀ loop, ¬crew.Owns worker loop) :
    crew.asked worker = [] := by
  have absent : crew.owners.idxOf? worker = none := by
    rw [List.idxOf?_eq_none_iff]
    intro member
    obtain ⟨index, owns⟩ := List.getElem?_of_mem member
    exact loopless index owns
  rw [asked, absent]

theorem WellRun.asked_eq (wellRun : crew.WellRun)
    (owns : crew.Owns worker index)
    (found : crew.timeline.loops[index]? = some held) :
    crew.asked worker = held.asked := by
  have here : crew.owners.idxOf? worker = some index := by
    obtain ⟨bound, same⟩ := List.getElem?_eq_some_iff.mp owns
    refine List.idxOf?_eq_some_iff.mpr ⟨bound, same, fun other earlier owned => ?_⟩
    have again : crew.Owns worker other :=
      List.getElem?_eq_some_iff.mpr ⟨Nat.lt_trans earlier bound, owned⟩
    exact Nat.ne_of_lt earlier ((wellRun.employs owns).only other again)
  simp only [asked, here, found]
  rfl

/-- A turn of the worker's loop does to the world what the worker does in it. -/
theorem WellRun.hears_turn (wellRun : crew.WellRun)
    (owns : crew.Owns worker index) : crew.Hears worker index := by
  simp only [Hears]
  obtain ⟨held, found⟩ := wellRun.exists_loop owns
  by_cases ready : index ∈ crew.timeline.ready
  · have goes : crew.deeds worker (.turn index) =
        (held.deeds crew.timeline.world).map (Prod.mk crew.clock) := by
      simp only [deeds, found]
      exact if_pos ⟨ready, owns⟩
    obtain ⟨begun, heard, same⟩ :=
      held.hears_run crew.timeline.tickets crew.timeline.world
    have turns := Timeline.turn_of_ready found ready
    have after : (crew.step (.turn index)).timeline.loops[index]? =
        some (held.run crew.timeline.tickets crew.timeline.world).1 := by
      obtain ⟨bound, _⟩ := List.getElem?_eq_some_iff.mp found
      rw [Crew.step, turns]
      exact List.getElem?_set_self bound
    rw [goes, map_snd_timed, wellRun.asked_eq owns found,
      (wellRun.step _).asked_eq (owns.step _) after]
    refine ⟨begun, ?_, same⟩
    rw [Crew.step, turns]
    exact heard
  · have rests : crew.deeds worker (.turn index) = [] :=
      if_neg fun goes => ready goes.1
    have same : crew.step (.turn index) = crew := by
      rw [Crew.step, Timeline.turn_of_unready ready]
    rw [rests, same]
    exact ⟨[], .silence _, List.append_nil _⟩

theorem exists_deeds_timed (crew : Crew) (worker : Nat) (action : Action) :
    ∃ done : List Deed,
      crew.deeds worker action = done.map (Prod.mk crew.clock) := by
  cases action with
  | turn index =>
      simp only [deeds]
      split
      · split
        · exact ⟨_, rfl⟩
        · exact ⟨[], rfl⟩
      · exact ⟨[], rfl⟩
  | _ => exact ⟨[], rfl⟩

/-- The step is a turn of the worker's loop. -/
def Turns (crew : Crew) (worker : Nat) (action : Action) : Prop :=
  ∃ index, action = .turn index ∧ crew.Owns worker index

/-- A worker does nothing but in the turns of its loop. -/
theorem deeds_of_not_turns (rests : ¬crew.Turns worker action) :
    crew.deeds worker action = [] := by
  cases action with
  | turn index => exact if_neg fun goes => rests ⟨index, rfl, goes.2⟩
  | _ => rfl

theorem gains_of_not_turns {Entry : Type} (part : Journal → Array Entry)
    (rests : ¬crew.Turns worker action) :
    crew.gains part worker action = [] := by
  cases action with
  | turn index => exact if_neg fun owns => rests ⟨index, rfl, owns⟩
  | _ => rfl

theorem gains_of_grown {Entry : Type} {part : Journal → Array Entry}
    (owns : crew.Owns worker index) {entries : List Entry}
    (grown : (part (crew.step (.turn index)).timeline.world.journal).toList =
      (part crew.timeline.world.journal).toList ++ entries) :
    crew.gains part worker (.turn index) =
      entries.map (Prod.mk crew.clock) := by
  have size : (part crew.timeline.world.journal).size =
      (part crew.timeline.world.journal).toList.length := rfl
  refine (if_pos owns).trans ?_
  rw [grown, size, List.drop_left]

theorem WellRun.asked_of_not_turns (wellRun : crew.WellRun)
    (rests : ¬crew.Turns worker action) :
    (crew.step action).asked worker = crew.asked worker := by
  by_cases owned : ∃ index, crew.Owns worker index
  · obtain ⟨index, owns⟩ := owned
    obtain ⟨held, found⟩ := wellRun.exists_loop owns
    obtain ⟨deeds, after, foundAfter, meets⟩ := exists_meets found action
    rw [wellRun.asked_eq owns found,
      (wellRun.step action).asked_eq (owns.step action) foundAfter]
    cases meets with
    | spared | passed | cancelled => rfl
    | turned goes => exact absurd ⟨index, goes.1, owns⟩ rests
  · have loopless := not_exists.mp owned
    rw [asked_of_loopless loopless]
    -- The loop of a first start has begun nothing.
    by_cases started : ∃ index, (crew.step action).Owns worker index
    · obtain ⟨index, owns⟩ := started
      obtain ⟨held, found⟩ := (wellRun.step action).exists_loop owns
      have starting := wellRun.starting_of_loopless loopless owns found
      rw [(wellRun.step action).asked_eq owns found, Loop.asked, starting]
    · exact asked_of_loopless (not_exists.mp started)

theorem WellRun.gains_calls (wellRun : crew.WellRun) (worker : Nat)
    (action : Action) :
    crew.gains Journal.calls worker action =
      storedCalls (crew.deeds worker action) := by
  by_cases turns : crew.Turns worker action
  · obtain ⟨index, rfl, owns⟩ := turns
    obtain ⟨begun, heard, _⟩ := wellRun.hears_turn owns
    have grown := heard.calls
    obtain ⟨done, timed⟩ := crew.exists_deeds_timed worker (.turn index)
    rw [timed, map_snd_timed, filter_isStored_spoken] at grown
    rw [timed, storedCalls_timed]
    exact gains_of_grown owns grown
  · rw [gains_of_not_turns _ turns, deeds_of_not_turns turns]
    rfl

theorem WellRun.gains_deletes (wellRun : crew.WellRun) (worker : Nat)
    (action : Action) (memory : crew.timeline.world.InMemory) :
    crew.asked worker ++
        (crew.gains Journal.deletes worker action).map Prod.snd =
      deleted (spoken ((crew.deeds worker action).map Prod.snd)) ++
        (crew.step action).asked worker := by
  by_cases turns : crew.Turns worker action
  · obtain ⟨index, rfl, owns⟩ := turns
    obtain ⟨begun, heard, same⟩ := wellRun.hears_turn owns
    rw [gains_of_grown owns (heard.deletes memory), ← same, List.map_map]
    exact congrArg (_ ++ ·) (List.map_id begun)
  · rw [gains_of_not_turns _ turns, deeds_of_not_turns turns,
      wellRun.asked_of_not_turns turns]
    exact List.append_nil _

/-- In a step of the crew too, batches begin when releases are made. -/
theorem beginnings_deeds (crew : Crew) (worker : Nat) (action : Action) :
    beginnings (crew.deeds worker action) =
      releases (storedCalls (crew.deeds worker action)) := by
  cases action with
  | turn index =>
      simp only [deeds]
      split
      · split
        · rename_i loop _
          exact (loop.turn_run crew.timeline.tickets
            crew.timeline.world).begins_at_releases crew.clock
        · rfl
      · rfl
  | _ => rfl

theorem beginnings_history (crew : Crew) (worker : Nat)
    (actions : List Action) :
    beginnings (crew.history worker actions) =
      releases (storedCalls (crew.history worker actions)) := by
  induction actions generalizing crew with
  | nil => rfl
  | cons action actions induction =>
      rw [history, beginnings_append, storedCalls_append, releases_append,
        crew.beginnings_deeds worker action, induction]

theorem WellRun.noted_calls (wellRun : crew.WellRun) (worker : Nat)
    (actions : List Action) :
    crew.storeCalls worker actions =
      storedCalls (crew.history worker actions) := by
  induction actions generalizing crew with
  | nil => rfl
  | cons action actions induction =>
      rw [storeCalls, noted, history, storedCalls_append,
        wellRun.gains_calls worker action]
      exact congrArg (_ ++ ·) (induction (wellRun.step action))

theorem WellRun.noted_deletes (wellRun : crew.WellRun) (worker : Nat)
    {actions : List Action} (memory : crew.InMemory actions) :
    crew.asked worker ++ (crew.deleteCalls worker actions).map Prod.snd =
      deleted (spoken ((crew.history worker actions).map Prod.snd)) ++
        (crew.run actions).asked worker := by
  induction actions generalizing crew with
  | nil => exact List.append_nil _
  | cons action actions induction =>
      have first := wellRun.gains_deletes worker action
        (memory [] (List.nil_prefix))
      have others := induction (wellRun.step action) fun between within =>
        memory (action :: between) (List.cons_prefix_cons.mpr ⟨rfl, within⟩)
      rw [deleteCalls, noted, history, List.map_append, List.map_append,
        spoken_append, deleted_append, ← List.append_assoc, first,
        List.append_assoc, List.append_assoc]
      exact congrArg (_ ++ ·) others

theorem WellRun.recorded (wellRun : crew.WellRun) (worker : Nat)
    (actions : List Action) : crew.Recorded worker actions where
  turns between _ _ _ owns := (wellRun.run between).hears_turn owns
  calls := wellRun.noted_calls worker actions
  begins := by
    rw [wellRun.noted_calls worker actions, beginnings_history]
  deletes := wellRun.noted_deletes worker

end Crew

end FileCleanup.Simulation
