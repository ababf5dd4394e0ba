import FileCleanup.Proofs.Crew.Exit
import FileCleanup.Proofs.Crew.Records

namespace FileCleanup.Simulation

/-! What a cancelled worker still does. -/

/-- The call that the delete of a file's object calls for. -/
def Handling.update : Handling → Call
  | .finalized file _ => .softDelete file.id
  | .postponed file _ _ => .recordFailedAttempt file.id

theorem storeCalls_handlings (handlings : List Handling) :
    ((handlings.flatMap Handling.exchanges).map Deed.speaks).filterMap
      Deed.storeCall? = handlings.map Handling.update := by
  induction handlings with
  | nil => rfl
  | cons handling handlings induction =>
      rw [List.flatMap_cons, List.map_append, List.filterMap_append, induction]
      cases handling <;> rfl

theorem deleted_handlings (handlings : List Handling) :
    deleted (handlings.flatMap Handling.exchanges) =
      handlings.map fun handling => handling.file.address := by
  induction handlings with
  | nil => rfl
  | cons handling handlings induction =>
      rw [List.flatMap_cons, deleted_append, induction]
      cases handling <;> rfl

namespace Loop

/-- What a loop has done since it was `before` when it was cancelled: it has
gone on with the batch that it was in, and with nothing else. -/
inductive WindsUp (before : Loop) (deeds : List Deed) (held : Loop) : Prop
  | idle (idle : before.files = []) (rests : held.files = [])
      (silent : deeds = [])
  | busy {more : List Handling}
      {outcome : Option (Except CleanupError BatchResult)}
      (busy : before.files ≠ []) (same : deeds = Batch.tail more outcome)
      (handled : more.map Handling.file ++ held.files = before.files)
      (ended : outcome.isSome = held.files.isEmpty)

variable {before held after : Loop} {deeds more : List Deed}
  {ticket now delay : Nat}

theorem Pause.of_cancelled (pause : held.Pause ticket now delay deeds after)
    (cancelled : held.cancelled = true) :
    deeds = [] ∧ after = { held with activity := .stopped } := by
  cases pause with
  | stops => exact ⟨rfl, rfl⟩
  | waits uncancelled | works uncancelled | sleeps uncancelled =>
      rw [cancelled] at uncancelled
      cases uncancelled

/-- A turn of a cancelled loop: either it ends, unless it has ended already, or
the batch that it is in goes on. -/
theorem Turn.of_cancelled (turn : held.Turn ticket now delay deeds after)
    (cancelled : held.cancelled = true) :
    held.files = [] ∧ deeds = [] ∧ after.activity = .stopped ∨
      ∃ exchanges progress, held.files ≠ [] ∧
        HandlesUpTo held.files exchanges progress ∧
        deeds = exchanges.map .speaks ++ progress.deeds ∧
        after.files = progress.files ∧
        (progress.files = [] → after.activity = .stopped) := by
  cases turn with
  | rests stopped => exact .inl ⟨by rw [files, stopped], rfl, stopped⟩
  | starts starting pause =>
      obtain ⟨rfl, rfl⟩ := pause.of_cancelled cancelled
      exact .inl ⟨by rw [files, starting], rfl, rfl⟩
  | pauses waiting pause =>
      obtain ⟨rfl, rfl⟩ := pause.of_cancelled cancelled
      exact .inl ⟨by rw [files, waiting], rfl, rfl⟩
  | sleepsOn asleep _ _ handles =>
      rw [files_of_asleep asleep]
      exact .inr ⟨_, _, List.cons_ne_nil _ _, handles,
        (List.append_nil _).symm, rfl,
        fun empty => absurd empty (List.cons_ne_nil _ _)⟩
  | wakes asleep handles pause =>
      obtain ⟨rfl, rfl⟩ := pause.of_cancelled cancelled
      rw [files_of_asleep asleep]
      exact .inr ⟨_, _, List.cons_ne_nil _ _, handles, rfl, rfl, fun _ => rfl⟩

theorem WindsUp.turn (winds : before.WindsUp deeds held)
    (cancelled : held.cancelled = true)
    (turn : held.Turn ticket now delay more after) :
    before.WindsUp (deeds ++ more) after := by
  rcases turn.of_cancelled cancelled with
    ⟨done, rfl, stopped⟩ | ⟨exchanges, progress, going, handles, rfl, left, _⟩
  · have rests : after.files = [] := by rw [files, stopped]
    rw [List.append_nil]
    cases winds with
    | idle idle _ silent => exact .idle idle rests silent
    | busy busy same handled ended =>
        rw [done] at handled ended
        exact .busy busy same (by rwa [rests]) (by rwa [rests])
  · cases winds with
    | idle _ rests => exact absurd rests going
    | @busy earlier outcome busy same handled ended =>
        obtain ⟨further, rfl, pending⟩ := handles
        have unended : outcome = none := by
          rw [List.isEmpty_eq_false_iff.mpr going] at ended
          simpa using ended
        have onward : deeds ++ ((further.flatMap Handling.exchanges).map
            .speaks ++ progress.deeds) =
            Batch.tail (earlier ++ further) progress.outcome? := by
          rw [same, unended, progress.deeds_eq, Batch.tail_append]
          rfl
        refine .busy busy onward ?_ ?_
        · rw [← handled, ← pending, left, List.map_append, List.append_assoc]
        · rw [left, Batch.isSome_outcome?]

theorem windsUp_refl (held : Loop) : held.WindsUp [] held := by
  by_cases idle : held.files = []
  · exact .idle idle idle rfl
  · have pending : held.files.isEmpty = false := by simpa using idle
    have silent : [] = Batch.tail [] none := rfl
    exact .busy idle silent rfl pending.symm

theorem WindsUp.begins_not_mem (winds : before.WindsUp deeds held) :
    .begins ∉ deeds := by
  cases winds with
  | idle _ _ silent => simp [silent]
  | busy _ same => simp [same, Batch.tail]

/-- The files that a cancelled loop has handled since then. -/
theorem WindsUp.exists_handled (winds : before.WindsUp deeds held) :
    ∃ handled : List Handling,
      spoken deeds = handled.flatMap Handling.exchanges ∧
      deeds.filterMap Deed.storeCall? = handled.map Handling.update ∧
      handled.map Handling.file ++ held.files = before.files := by
  cases winds with
  | idle idle rests silent =>
      subst silent
      exact ⟨[], rfl, rfl, by rw [idle, rests]; rfl⟩
  | @busy more outcome busy same handled ended =>
      refine ⟨more, ?_, ?_, handled⟩
      · rw [same, Batch.tail, spoken_append, spoken_speaks]
        cases outcome <;> exact List.append_nil _
      · rw [same, Batch.tail, List.filterMap_append, storeCalls_handlings]
        cases outcome <;> simp [Deed.storeCall?]

/-- A loop that had done `before` when it was `held` and `after` since then has
made whole batches, and of the one that it was in nothing is left but the files
of `last`. -/
inductive CarriesOn (held last : Loop) (before after : List Deed) : Prop
  | idle {batches : List Batch} (idle : held.files = [])
      (whole : ∀ batch ∈ batches, batch.Leaves [])
      (same : before = batches.flatMap (Batch.deeds held.settings))
      (silent : after = [])
  | busy {batches : List Batch} {batch : Batch} {more : List Handling}
      {outcome : Option (Except CleanupError BatchResult)}
      (busy : held.files ≠ []) (whole : ∀ batch ∈ batches, batch.Leaves [])
      (leaves : batch.Leaves held.files)
      (same : before =
        (batches ++ [batch]).flatMap (Batch.deeds held.settings))
      (goesOn : before ++ after = (batches ++ [batch.goesOn more outcome]).flatMap
        (Batch.deeds held.settings))
      (left : (batch.goesOn more outcome).Leaves last.files)

theorem InBatches.carriesOn {last : Loop} (inBatches : held.InBatches deeds)
    (winds : held.WindsUp more last) : held.CarriesOn last deeds more := by
  cases winds with
  | idle idle _ silent =>
      obtain ⟨batches, whole, same⟩ := inBatches.exists_whole idle
      exact .idle idle whole same silent
  | @busy further outcome busy same handled ended =>
      obtain ⟨batches, batch, whole, leaves, together⟩ :=
        inBatches.exists_open busy
      have unended : batch.outcome = none := by
        have ended := leaves.ended
        rw [List.isEmpty_eq_false_iff.mpr busy] at ended
        simpa using ended
      have left : (batch.goesOn further outcome).Leaves last.files := by
        refine ⟨Eq.trans ?_ leaves.handled, ended⟩
        rw [← handled]
        simp [Batch.goesOn]
      refine .busy busy whole leaves (by simpa using together) ?_ left
      rw [together, same, List.flatMap_append, List.flatMap_singleton,
        Batch.deeds_goesOn unended, List.append_assoc]

/-- When a cancelled loop has ended at the latest, if no delete takes longer
than `slowest`. -/
def latestEnd (loop : Loop) (clock slowest : Nat) : Nat :=
  match loop.activity with
  | .deleting wake _ _ rest _ => wake + rest.length * slowest
  | _ => clock

end Loop

namespace Crew

variable {crew : Crew} {worker index : Nat} {before held after : Loop}
  {action : Action} {history : List (Nat × Deed)} {deeds : List Deed}

/-- Deletes take no longer than `slowest` in the course of `later`. -/
def NeverSlower (crew : Crew) (slowest : Nat) (later : List Action) : Prop :=
  ∀ between, between <+: later →
    (crew.run between).timeline.world.objects.delay ≤ slowest

theorem NeverSlower.tail {slowest : Nat} {later : List Action}
    (never : crew.NeverSlower slowest (action :: later)) :
    (crew.step action).NeverSlower slowest later :=
  fun between within => never (action :: between)
    (List.cons_prefix_cons.mpr ⟨rfl, within⟩)

theorem latestEnd_step {slowest : Nat}
    (cancelled : held.cancelled = true) (prompt : crew.Prompt index held)
    (meets : crew.Meets index held action deeds after)
    (quick : (crew.step action).timeline.world.objects.delay ≤ slowest) :
    after.activity = .stopped ∨
      after.latestEnd (crew.step action).clock slowest ≤
        held.latestEnd crew.clock slowest := by
  cases meets with
  | spared _ clock => exact .inr (Nat.le_of_eq (by rw [clock]))
  | cancelled _ clock => exact .inr (Nat.le_of_eq (by rw [clock]; rfl))
  | passed _ unready =>
      cases active : held.activity with
      | stopped => exact .inl rfl
      | deleting => exact .inr (by simp [Loop.latestEnd, active])
      | starting | waiting =>
          simp only [Prompt, active, unready] at prompt
          simp [cancelled] at prompt
  | turned _ _ clock turn =>
      cases turn with
      | rests stopped => exact .inl stopped
      | starts _ pause | pauses _ pause | wakes _ _ pause =>
          obtain ⟨_, rfl⟩ := pause.of_cancelled cancelled
          exact .inl rfl
      | @sleepsOn wake _ _ _ rest others _ _ _ asleep slow shorter =>
          right
          -- The next delete may take `slowest`, but one less is to come.
          have early : crew.clock ≤ wake := by
            simp only [Prompt, asleep] at prompt
            exact prompt.1
          have fewer := Nat.mul_le_mul_right slowest
            (Nat.succ_le_of_lt shorter)
          rw [Nat.succ_mul] at fewer
          simp only [Loop.latestEnd, asleep]
          omega

theorem stopped_or_latestEnd_run {slowest bound : Nat} (alert : crew.Alert)
    (found : crew.timeline.loops[index]? = some held)
    (cancelled : held.cancelled = true)
    (ending : held.activity = .stopped ∨
      held.latestEnd crew.clock slowest ≤ bound)
    {later : List Action} (never : crew.NeverSlower slowest later) :
    ∃ last, (crew.run later).timeline.loops[index]? = some last ∧
      last.cancelled = true ∧ (last.activity = .stopped ∨
        last.latestEnd (crew.run later).clock slowest ≤ bound) := by
  induction later generalizing crew held with
  | nil => exact ⟨held, found, cancelled, ending⟩
  | cons action later induction =>
      obtain ⟨deeds, after, foundAfter, meets⟩ := exists_meets found action
      have quick := never [action] (by simp)
      have stays : after.cancelled = true := by
        cases meets with
        | cancelled => rfl
        | turned _ _ _ turn => rwa [turn.cancelled]
        | spared | passed => exact cancelled
      have nearer : after.activity = .stopped ∨
          after.latestEnd (crew.step action).clock slowest ≤ bound := by
        rcases ending with stopped | bounded
        · exact .inl (meets.of_stopped stopped).1
        · have prompt := alert index held found
          exact (latestEnd_step cancelled prompt meets quick).imp_right
            fun later => Nat.le_trans later bounded
      exact induction (alert.step action) foundAfter stays nearer never.tail

theorem stopped_of_over {slowest bound : Nat} (prompt : crew.Prompt index held)
    (cancelled : held.cancelled = true)
    (ending : held.activity = .stopped ∨
      held.latestEnd crew.clock slowest ≤ bound)
    (passed : crew.Over bound) : held.activity = .stopped := by
  rcases ending with stopped | bounded
  · exact stopped
  cases active : held.activity with
  | stopped => rfl
  | starting =>
      simp only [Prompt, active] at prompt
      simp only [Loop.latestEnd, active] at bounded
      exact absurd passed (not_over (Nat.le_refl _) (fun _ => prompt) bounded)
  | waiting =>
      simp only [Prompt, active] at prompt
      simp only [Loop.latestEnd, active] at bounded
      have ready := prompt cancelled
      exact absurd passed (not_over (Nat.le_refl _) (fun _ => ready) bounded)
  | deleting wake own file rest result =>
      simp only [Prompt, active] at prompt
      simp only [Loop.latestEnd, active] at bounded
      have sooner := Nat.le_trans (Nat.le_add_right wake _) bounded
      exact absurd passed (not_over prompt.1 prompt.2 sooner)

theorem Meets.windsUp (meets : crew.Meets index held action deeds after)
    (cancelled : held.cancelled = true) {earlier : List Deed}
    (winds : before.WindsUp earlier held) :
    after.cancelled = true ∧ before.WindsUp (earlier ++ deeds) after := by
  cases meets with
  | spared | passed => exact ⟨cancelled, by rwa [List.append_nil]⟩
  | cancelled =>
      rw [List.append_nil]
      refine ⟨rfl, ?_⟩
      cases winds with
      | idle idle rests silent => exact .idle idle rests silent
      | busy busy same handled ended => exact .busy busy same handled ended
  | turned _ _ _ turn =>
      exact ⟨by rwa [turn.cancelled], winds.turn cancelled turn⟩

/-- The loop of a worker was `before` when it was cancelled. -/
structure Winds (before : Loop) (worker index : Nat) (crew : Crew)
    (history : List (Nat × Deed)) : Prop where
  owns : crew.Owns worker index
  winds : ∃ held, crew.timeline.loops[index]? = some held ∧
    held.cancelled = true ∧ before.WindsUp (history.map Prod.snd) held

theorem Winds.step (winds : Winds before worker index crew history)
    (wellRun : crew.WellRun) (action : Action) :
    Winds before worker index (crew.step action)
      (history ++ crew.deeds worker action) := by
  obtain ⟨owns, held, found, cancelled, winds⟩ := winds
  obtain ⟨deeds, after, foundAfter, meets⟩ := exists_meets found action
  have goesOn := meets.windsUp cancelled winds
  rw [wellRun.deeds_of_meets owns found meets]
  refine ⟨owns.step action, after, foundAfter, goesOn.1, ?_⟩
  rw [List.map_append, map_snd_timed]
  exact goesOn.2

theorem Winds.run (winds : Winds before worker index crew history)
    (wellRun : crew.WellRun) (actions : List Action) :
    Winds before worker index (crew.run actions)
      (history ++ crew.history worker actions) :=
  history_induction worker
    (fun wellRun winds action => winds.step wellRun action) wellRun winds
    actions

/-- The steps that cancel a worker. -/
inductive CancelledBy (crew : Crew) (worker : Nat) : Action → Prop
  /-- The token that it was started with is cancelled. -/
  | token {index : Nat} {held : Loop} (owns : crew.Owns worker index)
      (found : crew.timeline.loops[index]? = some held) :
      CancelledBy crew worker (.cancel held.token)
  /-- A stop that has taken its loop goes on. -/
  | stop {call index : Nat}
      (entered : crew.stops[call]? = some ⟨worker, some index, .entered⟩) :
      CancelledBy crew worker (.cancelTaken call)
  /-- It is started on a token that is already cancelled. -/
  | start {employed : Worker} {token : String}
      (hired : crew.workers[worker]? = some employed)
      (unstarted : crew.answers worker = [])
      (dead : crew.timeline.isCancelled token = true) :
      CancelledBy crew worker (.start worker token)

theorem CancelledBy.exists_loop (cancels : crew.CancelledBy worker action)
    (wellRun : crew.WellRun) :
    ∃ index held, (crew.step action).Owns worker index ∧
      (crew.step action).timeline.loops[index]? = some held ∧
      held.cancelled = true := by
  cases cancels with
  | @token index held owns found =>
      have after := Timeline.getElem?_cancelLoops found
        (fun _ loop => loop.token = held.token)
      exact ⟨index, _, owns, after, by simp⟩
  | @stop call index entered =>
      have owns := wellRun.takes worker call index ⟨_, entered⟩
      obtain ⟨bound, _⟩ := List.getElem?_eq_some_iff.mp owns
      rw [wellRun.owners] at bound
      obtain ⟨held, found, cancelled⟩ := cancelled_cancelTaken entered bound
      exact ⟨index, held, owns.step _, found, cancelled⟩
  | @start employed token hired unstarted dead =>
      have fresh := wellRun.fresh_of_unanswered hired unstarted
      have loops := (spawned_of_fresh hired fresh token).1
      have spawned := congrArg (·[crew.timeline.loops.length]?) loops
      exact ⟨_, _, (wellRun.held_start hired unstarted token).1,
        spawned.trans List.getElem?_concat_length, dead⟩

theorem Exited.gains_eq_nil {Entry : Type} (exited : crew.Exited worker)
    (wellRun : crew.WellRun) (part : Journal → Array Entry) (action : Action) :
    crew.gains part worker action = [] := by
  by_cases turns : crew.Turns worker action
  · obtain ⟨index, rfl, owns⟩ := turns
    have same := exited.world_turn wellRun owns
    exact gains_of_grown owns (by rw [same, List.append_nil])
  · exact gains_of_not_turns part turns

theorem Exited.noted_eq_nil {Entry : Type} (exited : crew.Exited worker)
    (wellRun : crew.WellRun) (part : Journal → Array Entry)
    (later : List Action) : crew.noted part worker later = [] := by
  induction later generalizing crew with
  | nil => rfl
  | cons action later induction =>
      rw [noted, exited.gains_eq_nil wellRun, List.nil_append]
      exact induction (exited.step action) (wellRun.step action)

/-- From its cancellation on a worker begins no batch.  The batch that it is in
is carried through: each file that it has claimed is handled, in time, and the
calls for this are all that the journal takes up of the worker.  Then its loop
ends, and the worker is silent for ever. -/
theorem cancelled_worker_winds_up (world : World) (first : List Action)
    {worker : Nat} {action : Action}
    (cancels : ((ofWorld world).run first).CancelledBy worker action)
    (later : List Action) :
    let cancelled := (ofWorld world).run (first ++ [action])
    let ended := cancelled.run later
    let before :=
      ((ofWorld world).history worker (first ++ [action])).map Prod.snd
    let after := (cancelled.history worker later).map Prod.snd
    (ofWorld world).Recorded worker (first ++ [action]) ∧
    cancelled.Recorded worker later ∧
    ∃ index held last, cancelled.Employs worker index ∧
      ended.Employs worker index ∧
      cancelled.timeline.loops[index]? = some held ∧
      ended.timeline.loops[index]? = some last ∧
      .begins ∉ after ∧ held.CarriesOn last before after ∧
      (∃ handled : List Handling,
        spoken after = handled.flatMap Handling.exchanges ∧
        handled.map Handling.file ++ last.files = held.files ∧
        (cancelled.storeCalls worker later).map Prod.snd =
          handled.map Handling.update ∧
        (cancelled.InMemory later →
          cancelled.asked worker ++
              (cancelled.deleteCalls worker later).map Prod.snd =
            (handled.map fun handling => handling.file.address) ++
              ended.asked worker)) ∧
      (∀ slowest, cancelled.NeverSlower slowest later →
        ended.Over (held.latestEnd cancelled.clock slowest) →
          last.activity = .stopped) ∧
      (last.activity = .stopped → last.files = [] ∧ ended.asked worker = [] ∧
        ∀ more, ended.Silent worker more ∧
          ended.storeCalls worker more = [] ∧
          ended.deleteCalls worker more = []) := by
  intro cancelled ended before after
  have one : cancelled = ((ofWorld world).run first).step action :=
    run_append ..
  have reached : cancelled.Reached := ⟨world, _, rfl⟩
  have wellRun := reached.wellRun
  have endedWell : ended.WellRun := wellRun.run later
  obtain ⟨index, held, owns, found, dead⟩ :=
    cancels.exists_loop ((wellRun_ofWorld world).run first)
  rw [← one] at owns found
  have start : Winds held worker index cancelled [] :=
    ⟨owns, held, found, dead, Loop.windsUp_refl held⟩
  obtain ⟨owned, last, foundLast, _, winds⟩ := start.run wellRun later
  have batches : held.InBatches before := by
    cases (inBatches_ofWorld world worker).run (wellRun_ofWorld world)
      (first ++ [action]) with
    | loopless loopless => exact absurd owns (loopless index)
    | employed owned heldToo batches =>
        cases (wellRun.employs owns).only _ owned
        rw [found] at heldToo
        cases heldToo
        exact batches
  have recorded := wellRun.recorded worker later
  refine ⟨(wellRun_ofWorld world).recorded worker _, recorded, index, held, last,
    wellRun.employs owns, endedWell.employs owned, found, foundLast,
    winds.begins_not_mem, batches.carriesOn winds, ?_, ?_, ?_⟩
  · obtain ⟨handled, talk, updates, files⟩ := winds.exists_handled
    refine ⟨handled, talk, files, ?_, fun memory => ?_⟩
    · rw [recorded.calls, map_snd_storedCalls]
      exact updates
    · rw [recorded.deletes memory, ← deleted_handlings, ← talk]
      rfl
  · intro slowest never passed
    obtain ⟨same, again, stays, ending⟩ := stopped_or_latestEnd_run
      reached.alert found dead (.inr (Nat.le_refl _)) never
    rw [foundLast] at again
    cases again
    have prompt := (reached.alert.run later) index last foundLast
    exact stopped_of_over prompt stays ending passed
  · intro stopped
    have exited : ended.Exited worker := ⟨index, owned, last, foundLast, stopped⟩
    refine ⟨by rw [Loop.files, stopped], ?_, fun more =>
      ⟨exited.silent endedWell more, exited.noted_eq_nil endedWell _ more,
        exited.noted_eq_nil endedWell _ more⟩⟩
    rw [endedWell.asked_eq owned foundLast, Loop.asked, stopped]

theorem cancelled_worker_winds_up_sample :
    let cancelled := (ofWorld (Sample.slow 60000)).run
      (Sample.working ++ [.stop 0] ++ [.cancelTaken 0])
    ((spoken ((cancelled.history 0 Sample.goingOn).map Prod.snd)).map
        Exchange.call =
      [.deleteObject "uploads" "a.txt", .softDelete (.ofNat 1)]) ∧
      cancelled.storeCalls 0 Sample.goingOn =
        [(360000, .softDelete (.ofNat 1))] ∧
      ∀ more, (cancelled.run Sample.goingOn).Silent 0 more := by
  have entered : ((ofWorld (Sample.slow 60000)).run
      (Sample.working ++ [.stop 0])).stops[0]? =
      some ⟨0, some 0, .entered⟩ := rfl
  have ends : (((ofWorld (Sample.slow 60000)).run (Sample.working ++
      [.stop 0] ++ [.cancelTaken 0])).run Sample.goingOn).timeline.loops.map
        Loop.isStopped = [true] := by decide +kernel
  refine ⟨by decide +kernel, by decide +kernel, ?_⟩
  obtain ⟨_, _, _, _, last, _, _, _, found, _, _, _, _, silent⟩ :=
    cancelled_worker_winds_up (Sample.slow 60000)
      (Sample.working ++ [.stop 0])
      (.stop entered) Sample.goingOn
  have member : last.isStopped ∈ List.map Loop.isStopped _ :=
    List.mem_map_of_mem (List.mem_of_getElem? found)
  rw [ends, List.mem_singleton] at member
  refine fun more => ((silent ?_).2.2 more).1
  cases active : last.activity with
  | stopped => rfl
  | starting | waiting | deleting => simp [Loop.isStopped, active] at member

end Crew

end FileCleanup.Simulation
