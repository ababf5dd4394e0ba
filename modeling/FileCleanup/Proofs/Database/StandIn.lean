import FileCleanup.Proofs.Batch.StandIn
import FileCleanup.Proofs.Database.ClaimedRows
import FileCleanup.Proofs.Database.Committed
import FileCleanup.Proofs.Store.Claims

namespace FileCleanup

open Time Simulation

/-! A record store in memory stands in for a database: where a server answers
as such a store would, a batch goes over the one as it goes over the other. -/

/-- How many records are not the same afterwards as they were before. -/
def RecordStore.countChanged (before after : RecordStore) : Nat :=
  before.records.countP fun record => after.get? record.id ≠ some record

/-- The server answers a call as the store would: a claim with the rows of the
files that it hands out, in any order, and any other call with the number of
records that it changes. -/
def Script.Answers (script : Script) (now : Instant) (store : RecordStore) :
    Call → Prop
  | .claimExpired limit => ∃ files after,
    store.claimExpired .none now limit = .ok (files, after) ∧
      (script.rows.map Row.decode).Perm (files.map .ok)
  | call => script.affected =
    store.countChanged (store.afterCall .none now call)

/-- What a server has to say if it is to act like `store` at one instant, when
these statements are sent to it.  When there is no script left it answers with
nothing. -/
inductive Serves (now : Instant) :
    RecordStore → List Script → List Statement → Prop
  | silence (store : RecordStore) (scripts : List Script) :
      Serves now store scripts []
  | transaction {store : RecordStore} {scripts : List Script}
      {statement : Statement} {statements : List Statement} (call : Call)
      (means : call.statement? = some statement)
      (answers : (scripts.headD .quiet).Answers now store call)
      (others : Serves now (store.afterCall .none now call) scripts.tail
        statements) :
      Serves now store scripts (statement :: statements)

/-- A statement that a call has sent is answered as the store answers the
call. -/
theorem Serves.of_stored {now : Instant} {store : RecordStore}
    {scripts : List Script} {call : Call} {calls : List Call}
    (stored : ∀ bucket key, call ≠ .deleteObject bucket key)
    (serves : Serves now store scripts
      ((call :: calls).filterMap Call.statement?)) :
    (scripts.headD .quiet).Answers now store call ∧
      Serves now (store.afterCall .none now call) scripts.tail
        (calls.filterMap Call.statement?) := by
  cases sends : call.statement? with
  | none =>
      cases call with
      | deleteObject bucket key => exact absurd rfl (stored bucket key)
      | _ => cases sends
  | some statement =>
      rw [List.filterMap_cons_some sends] at serves
      cases serves with
      | transaction _ means answers others =>
          cases Call.eq_of_statement? means sends
          exact ⟨answers, others⟩

namespace RecordStore

variable {store : RecordStore} {now : Instant}

theorem countChanged_self (store : RecordStore) :
    store.countChanged store = 0 := by
  refine List.countP_eq_zero.mpr fun record member => ?_
  simp [get?_of_mem member]

theorem releasedIf_eq_self_iff {cutoff : Instant} {record : FileRecord} :
    releasedIf cutoff now record = record ↔ ¬record.Stale cutoff := by
  unfold releasedIf
  split
  · rename_i stale
    refine iff_of_false (fun same => ?_) (not_not_intro stale)
    exact stale.leased.2 (congrArg FileRecord.claimedAt same).symm
  · rename_i fresh
    exact iff_of_true rfl fresh

/-- A release counts the records that it changes. -/
theorem countChanged_release {faults : StoreFaults} {age : Span} {count : Nat}
    {after : RecordStore}
    (releases : store.releaseStaleClaims faults now age = .ok (count, after)) :
    store.countChanged after = count := by
  unfold releaseStaleClaims at releases
  split at releases
  · cases releases
  split at releases
  · cases releases
  split at releases
  · cases releases
    exact store.countChanged_self
  split at releases
  case h_2 => cases releases
  case h_1 =>
    cases releases
    rw [← List.countP_eq_length_filter]
    refine List.countP_congr fun record member => ?_
    rw [decide_eq_true_eq, decide_eq_true_eq, get?_change, get?_of_mem member,
      Option.map_some, ne_eq, Option.some_inj, releasedIf_eq_self_iff, not_not]

theorem countChanged_recordFailedAttempt {id : Uuid}
    (known : (store.get? id).isSome) (now : Instant) :
    store.countChanged
      (store.afterCall .none now (.recordFailedAttempt id)) ≠ 0 := by
  obtain ⟨record, member, rfl⟩ := isSome_get?_iff.mp known
  refine Nat.ne_of_gt (List.countP_pos_iff.mpr ⟨record, member, ?_⟩)
  rw [decide_eq_true_eq, get?_recordFailedAttempt, if_pos ⟨rfl, rfl⟩,
    get?_of_mem member, Option.map_some, ne_eq, Option.some_inj]
  intro same
  have counts := congrArg FileRecord.failedAttempts same
  simp [FileRecord.withFailedAttempt] at counts

end RecordStore

namespace Session

variable {session : Session}

theorem scriptAt_zero (session : Session) :
    session.scriptAt 0 = session.scripts.headD .quiet := by
  rw [scriptAt, List.headD_eq_head?_getD, List.head?_eq_getElem?]

section Answers

variable {now : Instant} {store : RecordStore} (sound : session.Sound)
include sound

theorem affected_of_sound (statement : Statement) :
    (session.withTransaction
      (.ofStatement statement fun script => .ok script.affected)).1 =
        .ok (session.scriptAt 0).affected := by
  obtain ⟨_, succeeds, reads⟩ := session.withTransaction_ofStatement statement
    fun script => .ok script.affected
  rw [sound.commits_eq] at succeeds
  obtain ⟨count, answered⟩ := exists_eq_ok succeeds
  rw [answered, Except.ok.inj (reads count answered)]

theorem releaseStaleClaims_of_sound (age : Span) :
    (session.releaseStaleClaims age).1 =
      .ok (session.scriptAt 0).affected := by
  have affected := affected_of_sound sound (.releaseStaleClaims age)
  unfold releaseStaleClaims
  generalize session.withTransaction _ = answered at affected
  obtain ⟨result, after⟩ := answered
  cases affected
  rfl

theorem recordFailedAttempt_of_sound (id : Uuid)
    (hits : (session.scriptAt 0).affected ≠ 0) :
    (session.recordFailedAttempt id).1 = .ok () := by
  have affected := affected_of_sound sound (.recordFailedAttempt id)
  obtain ⟨fewer, more⟩ := Nat.exists_eq_succ_of_ne_zero hits
  rw [more] at affected
  unfold recordFailedAttempt
  generalize session.withTransaction _ = answered at affected
  obtain ⟨result, after⟩ := answered
  cases affected
  rfl

theorem softDelete_of_sound (id : Uuid) :
    (session.softDelete id).1 = .ok () := by
  have succeeds := session.isOk_softDelete id
  rw [sound.commits_eq] at succeeds
  obtain ⟨_, answered⟩ := exists_eq_ok succeeds
  exact answered

theorem claimExpired_of_answers {limit : Int}
    (answers : (session.scriptAt 0).Answers now store (.claimExpired limit)) :
    ∃ files, (session.claimExpired limit).1 = .ok files ∧
      files.Perm ((store.candidates now limit).map (·.claimed now)) ∧
      files.Pairwise fun first second => first.expiresNoLater second := by
  obtain ⟨_, _, claims, rows⟩ := answers
  cases claims
  have each : ∀ row ∈ (session.scriptAt 0).rows,
      ∃ file, row.decode = .ok file := by
    intro row member
    obtain ⟨file, _, decodes⟩ :=
      List.mem_map.mp (rows.mem_iff.mp (List.mem_map_of_mem member))
    exact ⟨file, decodes.symm⟩
  have readable : session.readable 0 = true := by
    obtain ⟨_, reads⟩ := Row.exists_mapM_decode each
    rw [Session.readable, reads]
    rfl
  have succeeds := session.isOk_claimExpired limit
  rw [sound.commits_eq, readable] at succeeds
  obtain ⟨files, claimed⟩ := exists_eq_ok succeeds
  obtain ⟨same, ordered⟩ := session.files_of_claimExpired limit claimed
  have chosen := (List.map_perm_map_iff fun _ _ => Except.ok.inj).mp
    (same.trans rows)
  exact ⟨files, claimed, chosen, ordered⟩

end Answers

end Session

/-- Files that come in another order lead to the same calls in another order. -/
theorem calls_handledExchanges_perm {settings : CleanupSettings}
    {failingKeys : List String} {left right : List FileRecord}
    (same : left.Perm right) (told released : Except Report Nat) :
    ((handledExchanges settings failingKeys told left).map
      Exchange.call).Perm
    ((handledExchanges settings failingKeys released right).map
      Exchange.call) := by
  have handled := (same.flatMap_right fun file =>
    (file.handling failingKeys).exchanges).map Exchange.call
  exact (handled.cons _).cons _

namespace Simulation.DatabaseWorld

/-- A database that acts like `store` for the calls to come, beside the objects
in `storage`. -/
structure Acts (now : Instant) (store : RecordStore) (storage : MemoryStorage)
    (calls : List Call) (world : DatabaseWorld) : Prop where
  sound : world.session.Sound
  storage : world.storage = storage
  serves : Serves now store world.session.scripts
    (calls.filterMap Call.statement?)

theorem standsIn (now : Instant) : backend.StandsIn now (Acts now) where
  tell _ _ _ _ _ acts :=
    ⟨⟨acts.sound.isOpen, acts.sound.scripts⟩, acts.storage, acts.serves⟩
  fits {call store storage calls world} acts := by
    obtain ⟨sound, rfl, serves⟩ := acts
    have answers (stored : ∀ bucket key, call ≠ .deleteObject bucket key) :
        (world.session.scriptAt 0).Answers now store call := by
      rw [Session.scriptAt_zero]
      exact (serves.of_stored stored).1
    cases call with
    | releaseStaleClaims age =>
        intro count after releases
        have affected : (world.session.scriptAt 0).affected = _ :=
          answers (by simp)
        refine (Session.releaseStaleClaims_of_sound sound age).trans ?_
        rw [affected, RecordStore.afterCall, releases]
        exact congrArg Except.ok (RecordStore.countChanged_release releases)
    | claimExpired limit =>
        exact Session.claimExpired_of_answers sound (answers (by simp))
    | deleteObject bucket key => rfl
    | recordFailedAttempt id =>
        intro known
        have affected : (world.session.scriptAt 0).affected = _ :=
          answers (by simp)
        refine Session.recordFailedAttempt_of_sound sound id ?_
        rw [affected]
        exact RecordStore.countChanged_recordFailedAttempt known now
    | softDelete id => exact Session.softDelete_of_sound sound id
  onward {call store storage calls world} acts := by
    obtain ⟨sound, rfl, serves⟩ := acts
    obtain ⟨bucket, key, rfl⟩ | stored := call.deletes_or_stored
    · exact ⟨sound, rfl, serves⟩
    · obtain ⟨later, kept⟩ := later_answer world stored
      rw [world.storage.afterCall_of_ne stored]
      refine ⟨sound.later later, kept, ?_⟩
      change Serves _ _ (answer call world).2.session.scripts _
      rw [later.scripts sound.isOpen, List.drop_one]
      exact (serves.of_stored stored).2

/-- What is sent in statements is what the calls come to. -/
theorem statements_eq {settings : CleanupSettings} {world : DatabaseWorld}
    (sound : world.session.Sound) :
    world.statements settings =
      ((batchExchanges settings backend world).map Exchange.call).filterMap
        Call.statement? := by
  obtain ⟨outcome, after, _, talk⟩ := exists_talk settings backend world
  rw [statements, runBatch, run_watched talk sound, Phase.run_finished]
  exact filterMap_carriedOut _

/-- All that goes out in a batch that claims `files` at a server that fails
nothing: two transactions, and then for each file the delete of its object and
the transaction with the update that this calls for. -/
def handled (settings : CleanupSettings) (world : DatabaseWorld)
    (files : List FileRecord) : List Deed :=
  transaction (.releaseStaleClaims settings.staleClaimAge) .commit ++
    transaction (.claimExpired settings.batchSize) .commit ++
      files.flatMap fun file =>
        .delete file.bucket file.storageKey ::
          transaction (world.closing file) .commit

theorem carriedOut_handled (settings : CleanupSettings) (world : DatabaseWorld)
    (released : Except Report Nat) (files : List FileRecord) :
    (handledExchanges settings world.storage.failingKeys released
      files).flatMap carriedOut = world.handled settings files := by
  have each (file : FileRecord) :
      (file.handling world.storage.failingKeys).exchanges.flatMap carriedOut =
        .delete file.bucket file.storageKey ::
          transaction (world.closing file) .commit := by
    unfold FileRecord.handling closing
    split <;> rfl
  simp only [handledExchanges, handled, List.flatMap_cons, List.flatMap_assoc,
    each]
  rfl

end Simulation.DatabaseWorld

namespace FileRecord

theorem expiresAt_eq_of_expiresNoLater {left right : FileRecord}
    (before : left.expiresNoLater right) (after : right.expiresNoLater left) :
    left.expiresAt = right.expiresAt := by
  unfold expiresNoLater at before after
  generalize left.expiresAt = left at *
  generalize right.expiresAt = right at *
  cases left <;> cases right
  case none.none => rfl
  case some.some =>
    simp only [decide_eq_true_eq, Instant.le_iff] at before after
    exact congrArg some (Instant.key_injective (by omega))
  all_goals contradiction

/-- Files that do not expire together are ordered by expiry in one way only. -/
theorem eq_of_expiresNoLater {left right : List FileRecord}
    (same : left.Perm right)
    (leftOrdered : left.Pairwise fun first second =>
      first.expiresNoLater second)
    (rightOrdered : right.Pairwise fun first second =>
      first.expiresNoLater second)
    (apart : (right.map (·.expiresAt)).Nodup) : left = right := by
  refine List.Perm.eq_of_pairwise ?_ leftOrdered rightOrdered same
  intro first second firstMember secondMember before after
  exact List.inj_on_of_nodup_map apart (same.mem_iff.mp firstMember)
    secondMember (expiresAt_eq_of_expiresNoLater before after)

end FileRecord

/-- A record store in memory stands in for a database.  If the server commits
everything and answers what is sent to it as the store would act at that instant,
a batch over the database reports what a batch over the store does, leaves the
same objects, and sends a statement for each of the calls that the other one
makes, the update of a claimed record in a transaction after the delete of its
object; and it does all this in the same order if no two of the files expire
together. -/
theorem database_acts_like_memory {settings : CleanupSettings} {world : World}
    {storage : MemoryStorage} {database : DatabaseWorld}
    (faultless : world.faults = .none) (memory : world.objects = .memory storage)
    (undelayed : storage.delay = 0) (sound : database.session.Sound)
    (beside : database.storage = storage)
    (serves : Serves world.now world.store database.session.scripts
      (database.statements settings)) :
    ∃ result after left released claimed told returned,
      runBatch settings World.backend world = (.ok result, after) ∧
      runBatch settings DatabaseWorld.backend database = (.ok result, left) ∧
      runBatch settings DatabaseWorld.watched (database, []) =
        (.ok result, left, database.handled settings returned) ∧
      (database.statements settings).Perm
        (((batchExchanges settings World.backend world).map
          Exchange.call).filterMap Call.statement?) ∧
      after.objects = .memory left.storage ∧
      batchExchanges settings World.backend world =
        handledExchanges settings storage.failingKeys released claimed ∧
      batchExchanges settings DatabaseWorld.backend database =
        handledExchanges settings storage.failingKeys told returned ∧
      ((∃ counted, world.store.releaseStaleClaims .none world.now
          settings.staleClaimAge = .ok counted) →
        told = released) ∧
      returned.Perm claimed ∧
      ((claimed.map (·.expiresAt)).Nodup → returned = claimed) := by
  subst beside
  rw [DatabaseWorld.statements_eq sound] at serves
  obtain ⟨released, claimed, after, later, counted, chosen, ordered, said, runs,
    acts⟩ := (World.standsIn world.now).runBatch_eq settings
      ⟨rfl, faultless, memory, undelayed, rfl⟩
  obtain ⟨told, returned, left, _, otherCounted, otherChosen, otherOrdered,
    otherSaid, otherRuns, otherActs⟩ :=
      (DatabaseWorld.standsIn world.now).runBatch_eq settings
        ⟨sound, rfl, serves⟩
  have same := otherChosen.trans chosen.symm
  rw [handledResult_perm database.storage.failingKeys same] at otherRuns
  obtain ⟨_, _, goes, talk⟩ :=
    exists_talk settings DatabaseWorld.backend database
  rw [otherRuns] at goes
  cases goes
  have sent := DatabaseWorld.run_watched talk sound []
  rw [Phase.run_finished, otherSaid, DatabaseWorld.carriedOut_handled] at sent
  refine ⟨_, after, left, released, claimed, told, returned, runs, otherRuns,
    sent, ?_, ?_, said, otherSaid, ?_, same,
    FileRecord.eq_of_expiresNoLater same otherOrdered ordered⟩
  · rw [DatabaseWorld.statements_eq sound, otherSaid, said]
    exact (calls_handledExchanges_perm same told released).filterMap _
  · rw [acts.objects, otherActs.storage, database.storage.without_perm same]
  · rintro ⟨⟨count, middle⟩, releases⟩
    rw [counted count middle releases, otherCounted count middle releases]

namespace Simulation.Sample

/-- The object of one of two files that expired together cannot be deleted. -/
def tied : World :=
  { pair with objects := .memory (storage.failDeletesFor "a.txt") }

/-- A server that returns the rows of a claim the other way round. -/
def reversed : Session :=
  .start [.quiet,
    { Script.quiet with
      rows := [.ofRecord (late.claimed tied.now),
        .ofRecord (expired.claimed tied.now)] },
    { Script.quiet with affected := 1 },
    { Script.quiet with affected := 1 }]

def tiedDatabase : DatabaseWorld :=
  ⟨reversed, storage.failDeletesFor "a.txt", []⟩

theorem calls_tiedDatabase :
    (batchExchanges .standard DatabaseWorld.backend tiedDatabase).map
        Exchange.call =
      [.releaseStaleClaims CleanupSettings.standard.staleClaimAge,
        .claimExpired CleanupSettings.standard.batchSize,
        .deleteObject "uploads" "c.txt", .softDelete late.id,
        .deleteObject "uploads" "a.txt", .recordFailedAttempt expired.id] := by
  obtain ⟨_, _, _, talk⟩ :=
    exists_talk .standard DatabaseWorld.backend tiedDatabase
  obtain ⟨_, said, released⟩ := talk.exists_exchange rfl
  obtain ⟨_, rfl, claimed⟩ :=
    @Phase.Converses.exists_exchange _ _ _ .claiming _ _ _ _ rfl _ released
  -- The rows are in order as they come.
  have ordered : [late.claimed tied.now, expired.claimed tied.now].Pairwise
      fun first second => first.expiresNoLater second := by decide
  generalize answers : Phase.Request.answered _ _
    (Phase.Request.perform _ _ tiedDatabase).2 = answer at claimed said
  have files : answer = .ok [late.claimed tied.now, expired.claimed tied.now] :=
    answers.symm.trans
      (congrArg Except.ok (List.mergeSort_of_pairwise ordered))
  cases files
  obtain ⟨_, rfl, deleted⟩ := claimed.exists_exchange rfl
  obtain ⟨_, rfl, finalized⟩ := deleted.exists_exchange rfl
  obtain ⟨_, rfl, refused⟩ := finalized.exists_exchange rfl
  obtain ⟨_, rfl, counted⟩ := refused.exists_exchange rfl
  cases counted with
  | silence =>
      rw [said]
      rfl
  | exchange asks => cases asks

theorem sound_reversed : reversed.Sound where
  isOpen := rfl
  scripts script member := by
    simp only [reversed, Session.start, List.mem_cons, List.not_mem_nil,
      or_false] at member
    rcases member with rfl | rfl | rfl | rfl <;> exact ⟨rfl, rfl, rfl⟩

theorem serves_reversed :
    Serves tied.now tied.store reversed.scripts
      (tiedDatabase.statements .standard) := by
  have released : tied.store.afterCall .none tied.now
      (.releaseStaleClaims CleanupSettings.standard.staleClaimAge) =
        tied.store := rfl
  have candidates : tied.store.candidates tied.now
      CleanupSettings.standard.batchSize = [expired, late] :=
    claimOrder_pair.candidates _
  have claimed : tied.store.afterCall .none tied.now
      (.claimExpired CleanupSettings.standard.batchSize) =
        ⟨[expired.claimed tied.now, late.claimed tied.now], by decide⟩ := by
    apply RecordStore.eq_of_records
    rw [RecordStore.records_claim rfl, candidates]
    rfl
  have rows : ([late.claimed tied.now, expired.claimed tied.now].map
      Except.ok).Perm (([expired, late].map (·.claimed tied.now)).map
        (Except.ok : FileRecord → Except DatabaseError FileRecord)) :=
    .swap _ _ _
  rw [DatabaseWorld.statements_eq sound_reversed, calls_tiedDatabase]
  refine .transaction (.releaseStaleClaims _) rfl (by decide : _ = _) ?_
  rw [released]
  refine .transaction (.claimExpired _) rfl ⟨_, _, rfl, candidates ▸ rows⟩ ?_
  rw [claimed]
  exact .transaction (.softDelete late.id) rfl (by decide : _ = _)
    (.transaction (.recordFailedAttempt expired.id) rfl (by decide : _ = _)
      (.silence _ _))

end Simulation.Sample

open Simulation.Sample in
theorem database_acts_like_memory_sample :
    (runBatch .standard DatabaseWorld.backend tiedDatabase).1 =
      (runBatch .standard World.backend tied).1 := by
  obtain ⟨_, _, _, _, _, _, _, runs, otherRuns, _⟩ :=
    @database_acts_like_memory .standard tied (storage.failDeletesFor "a.txt")
      tiedDatabase rfl rfl rfl sound_reversed rfl serves_reversed
  rw [runs, otherRuns]

end FileCleanup
