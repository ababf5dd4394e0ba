import FileCleanup.Proofs.Crew.History

namespace FileCleanup.Simulation

/-! The deeds of a worker, read as its batches. -/

def Progress.outcome? : Progress → Option (Except CleanupError BatchResult)
  | .finished outcome => some outcome
  | .asleep _ _ _ _ => none

theorem Progress.deeds_eq (progress : Progress) :
    progress.deeds = progress.outcome?.toList.map .ends := by
  cases progress <;> rfl

/-- A batch as far as it has got. -/
structure Batch where
  released : Except Report Nat
  claimed : Except Report (List FileRecord)
  handlings : List Handling
  outcome : Option (Except CleanupError BatchResult)

namespace Batch

def files (batch : Batch) : List FileRecord :=
  match batch.claimed with
  | .ok files => files
  | .error _ => []

/-- What follows the claim. -/
def tail (handlings : List Handling)
    (outcome : Option (Except CleanupError BatchResult)) : List Deed :=
  (handlings.flatMap Handling.exchanges).map .speaks ++
    outcome.toList.map .ends

def deeds (settings : CleanupSettings) (batch : Batch) : List Deed :=
  .begins ::
    .speaks ⟨.releaseStaleClaims settings.staleClaimAge, batch.released⟩ ::
      .speaks ⟨.claimExpired settings.batchSize, batch.claimed⟩ ::
        tail batch.handlings batch.outcome

/-- Of the files that the batch has claimed `pending` are left, and it ends when
none is. -/
structure Leaves (batch : Batch) (pending : List FileRecord) : Prop where
  handled : batch.handlings.map Handling.file ++ pending = batch.files
  ended : batch.outcome.isSome = pending.isEmpty

def goesOn (batch : Batch) (more : List Handling)
    (outcome : Option (Except CleanupError BatchResult)) : Batch :=
  { batch with handlings := batch.handlings ++ more, outcome }

variable {batch : Batch} {pending : List FileRecord} {more : List Handling}
  {outcome : Option (Except CleanupError BatchResult)}
  {settings : CleanupSettings}

theorem deeds_goesOn (unended : batch.outcome = none) :
    (batch.goesOn more outcome).deeds settings =
      batch.deeds settings ++ tail more outcome := by
  simp [deeds, tail, goesOn, unended]

theorem tail_append {more further : List Handling} :
    tail (more ++ further) outcome =
      tail more none ++ tail further outcome := by
  simp [tail]

theorem Leaves.unended {file : FileRecord} {rest : List FileRecord}
    (leaves : batch.Leaves (file :: rest)) : batch.outcome = none := by
  have ended := leaves.ended
  rwa [List.isEmpty_cons, Option.isSome_eq_false_iff,
    Option.isNone_iff_eq_none] at ended

theorem isSome_outcome? (progress : Progress) :
    progress.outcome?.isSome = progress.files.isEmpty := by
  cases progress <;> rfl

theorem Leaves.goesOn {files : List FileRecord} {exchanges : List Exchange}
    {progress : Progress} (leaves : batch.Leaves files)
    (handles : HandlesUpTo files exchanges progress) :
    ∃ more, exchanges.map .speaks ++ progress.deeds =
        tail more progress.outcome? ∧
      (batch.goesOn more progress.outcome?).Leaves progress.files := by
  obtain ⟨more, rfl, rfl⟩ := handles
  refine ⟨more, ?_, ?_, isSome_outcome? progress⟩
  · rw [progress.deeds_eq, tail]
  · refine Eq.trans ?_ leaves.handled
    simp [Batch.goesOn]

end Batch

theorem Opens.exists_batch {settings : CleanupSettings}
    {exchanges : List Exchange} {progress : Progress}
    (opens : Opens settings exchanges progress) :
    ∃ batch : Batch, batch.deeds settings =
        .begins :: exchanges.map .speaks ++ progress.deeds ∧
      batch.Leaves progress.files := by
  obtain ⟨released, claimed, others, rfl, follows⟩ := opens
  rw [progress.deeds_eq]
  cases claimed with
  | ok files =>
      obtain ⟨handlings, rfl, same⟩ := follows
      exact ⟨⟨released, .ok files, handlings, progress.outcome?⟩, by
        simp [Batch.deeds, Batch.tail], same, Batch.isSome_outcome? progress⟩
  | error cause =>
      obtain ⟨rfl, rfl⟩ := follows
      exact ⟨⟨released, .error cause, [], some (.error (.claim cause))⟩,
        rfl, rfl, rfl⟩

namespace Loop

/-- The files that are left of the batch that a loop is in. -/
def files (loop : Loop) : List FileRecord :=
  match loop.activity with
  | .deleting _ _ file rest _ => file :: rest
  | _ => []

/-- All that a loop has done so far were batches, and the last one may still
be under way. -/
inductive InBatches (loop : Loop) (deeds : List Deed) : Prop
  | between {batches : List Batch} (idle : loop.files = [])
      (whole : ∀ batch ∈ batches, batch.Leaves [])
      (same : deeds = batches.flatMap (Batch.deeds loop.settings))
  | within {batches : List Batch} {batch : Batch} (busy : loop.files ≠ [])
      (whole : ∀ batch ∈ batches, batch.Leaves [])
      (leaves : batch.Leaves loop.files)
      (same : deeds = (batches ++ [batch]).flatMap (Batch.deeds loop.settings))

variable {loop after : Loop} {deeds more : List Deed}
  {ticket now delay : Nat}

private theorem whole_concat {batches : List Batch} {batch : Batch}
    (whole : ∀ batch ∈ batches, batch.Leaves []) (leaves : batch.Leaves []) :
    ∀ each ∈ batches ++ [batch], each.Leaves [] := by
  intro each member
  rcases List.mem_append.mp member with old | new
  · exact whole each old
  · rwa [List.mem_singleton.mp new]

theorem inBatches_of_pause (pause : loop.Pause ticket now delay more after)
    (idle : loop.files = []) {batches : List Batch}
    (whole : ∀ batch ∈ batches, batch.Leaves []) :
    after.InBatches
      (batches.flatMap (Batch.deeds loop.settings) ++ more) := by
  cases pause with
  | stops => exact .between rfl whole (List.append_nil _)
  | waits => exact .between idle whole (List.append_nil _)
  | works _ _ opens =>
      obtain ⟨batch, same, leaves⟩ := opens.exists_batch
      refine .between rfl (whole_concat whole leaves) ?_
      simpa [Progress.deeds] using same.symm
  | sleeps _ _ _ opens =>
      obtain ⟨batch, same, leaves⟩ := opens.exists_batch
      refine .within (by simp [files]) whole leaves ?_
      simpa [Progress.deeds] using same.symm

theorem InBatches.exists_whole (inBatches : loop.InBatches deeds)
    (idle : loop.files = []) :
    ∃ batches : List Batch, (∀ batch ∈ batches, batch.Leaves []) ∧
      deeds = batches.flatMap (Batch.deeds loop.settings) := by
  cases inBatches with
  | between _ whole same => exact ⟨_, whole, same⟩
  | within busy => exact absurd idle busy

theorem InBatches.exists_open (inBatches : loop.InBatches deeds)
    (busy : loop.files ≠ []) :
    ∃ (batches : List Batch) (batch : Batch),
      (∀ batch ∈ batches, batch.Leaves []) ∧ batch.Leaves loop.files ∧
      deeds = batches.flatMap (Batch.deeds loop.settings) ++
        batch.deeds loop.settings := by
  cases inBatches with
  | between idle => exact absurd idle busy
  | within _ whole leaves same => exact ⟨_, _, whole, leaves, by simpa using same⟩

theorem files_of_asleep {wake own : Nat} {file : FileRecord}
    {rest : List FileRecord} {result : BatchResult}
    (asleep : loop.activity = .deleting wake own file rest result) :
    loop.files = file :: rest := by
  rw [files, asleep]

theorem InBatches.turn (inBatches : loop.InBatches deeds)
    (turn : loop.Turn ticket now delay more after) :
    after.InBatches (deeds ++ more) := by
  cases turn with
  | rests => rwa [List.append_nil]
  | starts starting pause =>
      obtain ⟨batches, whole, rfl⟩ :=
        inBatches.exists_whole (by rw [files, starting])
      exact inBatches_of_pause pause rfl whole
  | pauses waiting pause =>
      have idle : loop.files = [] := by rw [files, waiting]
      obtain ⟨batches, whole, rfl⟩ := inBatches.exists_whole idle
      exact inBatches_of_pause pause idle whole
  | sleepsOn asleep _ _ handles =>
      have busy := files_of_asleep asleep
      obtain ⟨batches, batch, whole, leaves, rfl⟩ :=
        inBatches.exists_open (by simp [busy])
      rw [busy] at leaves
      have unended := leaves.unended
      obtain ⟨further, same, leaves⟩ := leaves.goesOn handles
      refine .within (by simp [files]) whole leaves ?_
      simpa [Batch.deeds_goesOn unended, Progress.deeds] using same
  | wakes asleep handles pause =>
      have busy := files_of_asleep asleep
      obtain ⟨batches, batch, whole, leaves, rfl⟩ :=
        inBatches.exists_open (by simp [busy])
      rw [busy] at leaves
      have unended := leaves.unended
      obtain ⟨further, same, leaves⟩ := leaves.goesOn handles
      have goesOn := inBatches_of_pause pause rfl (whole_concat whole leaves)
      simpa [Batch.deeds_goesOn unended, ← same, Progress.deeds] using goesOn

end Loop

namespace Crew

/-- All that a worker has done so far were the batches of its loop. -/
inductive InBatches (worker : Nat) (crew : Crew)
    (history : List (Nat × Deed)) : Prop
  | loopless (loopless : ∀ loop, ¬crew.Owns worker loop)
      (unheard : history = []) : InBatches worker crew history
  | employed {index : Nat} {held : Loop} (owns : crew.Owns worker index)
      (found : crew.timeline.loops[index]? = some held)
      (batches : held.InBatches (history.map Prod.snd)) :
      InBatches worker crew history

variable {crew : Crew} {worker index : Nat} {held : Loop} {action : Action}
  {history : List (Nat × Deed)}

theorem WellRun.starting_of_loopless (wellRun : crew.WellRun)
    (loopless : ∀ loop, ¬crew.Owns worker loop)
    (owns : (crew.step action).Owns worker index)
    (found : (crew.step action).timeline.loops[index]? = some held) :
    held.activity = .starting := by
  have missing : crew.timeline.loops[index]? = none := by
    rw [List.getElem?_eq_none_iff, ← wellRun.owners,
      ← List.getElem?_eq_none_iff]
    by_contra present
    obtain ⟨other, before⟩ := Option.ne_none_iff_exists'.mp present
    have after : (crew.step action).Owns other index := Owns.step before action
    cases after.symm.trans owns
    exact loopless index before
  obtain ⟨_, token, employed, rfl, hired, fresh⟩ :=
    started_of_missing missing found
  rw [(spawned_of_fresh hired fresh token).1,
    getElem?_concat_eq_some_iff, missing] at found
  rcases found with old | ⟨_, rfl⟩
  · cases old
  · rfl

theorem WellRun.exists_loop (wellRun : crew.WellRun)
    (owns : crew.Owns worker index) :
    ∃ held, crew.timeline.loops[index]? = some held := by
  obtain ⟨bound, _⟩ := List.getElem?_eq_some_iff.mp owns
  rw [wellRun.owners] at bound
  exact ⟨_, List.getElem?_eq_getElem bound⟩

theorem InBatches.step (inBatches : InBatches worker crew history)
    (wellRun : crew.WellRun) (action : Action) :
    InBatches worker (crew.step action)
      (history ++ crew.deeds worker action) := by
  cases inBatches with
  | loopless loopless unheard =>
      rw [unheard, deeds_of_loopless loopless, List.append_nil]
      -- The step can be the first start, whose loop has yet to begin.
      by_cases owned : ∃ index, (crew.step action).Owns worker index
      · obtain ⟨index, owns⟩ := owned
        obtain ⟨held, found⟩ := (wellRun.step action).exists_loop owns
        have starting := wellRun.starting_of_loopless loopless owns found
        have idle : held.files = [] := by rw [Loop.files, starting]
        have whole : ∀ batch ∈ ([] : List Batch), batch.Leaves [] := nofun
        exact .employed owns found (.between idle whole rfl)
      · exact .loopless (not_exists.mp owned) rfl
  | @employed index held owns found batches =>
      obtain ⟨deeds, after, foundAfter, meets⟩ := exists_meets found action
      rw [wellRun.deeds_of_meets owns found meets]
      refine .employed (owns.step action) foundAfter ?_
      rw [List.map_append, map_snd_timed]
      cases meets with
      | spared | passed => rwa [List.append_nil]
      | cancelled =>
          rw [List.append_nil]
          cases batches with
          | between idle whole same => exact .between idle whole same
          | within busy whole leaves same =>
              exact .within busy whole leaves same
      | turned _ _ _ turn => exact batches.turn turn

theorem InBatches.run (inBatches : InBatches worker crew history)
    (wellRun : crew.WellRun) (actions : List Action) :
    InBatches worker (crew.run actions)
      (history ++ crew.history worker actions) :=
  history_induction worker
    (fun wellRun inBatches action => inBatches.step wellRun action) wellRun
    inBatches actions

theorem inBatches_ofWorld (world : World) (worker : Nat) :
    InBatches worker (ofWorld world) [] := .loopless nofun rfl

end Crew

end FileCleanup.Simulation
