import FileCleanup.Proofs.Batch.Timed

namespace FileCleanup

open Time Simulation

/-! A backlog of expired files, worked off batch by batch from its front. -/

/-- Whether a batch can make the call for these files.  Deletes of objects
change no record, so any will do. -/
def Call.Handles (files : List FileRecord) : Call → Prop
  | .releaseStaleClaims _ => False
  | .claimExpired _ => False
  | .deleteObject _ _ => True
  | .recordFailedAttempt id => id ∈ files.map (·.id)
  | .softDelete id => id ∈ files.map (·.id)

theorem Handling.handles {handling : Handling} {files : List FileRecord}
    (member : handling.file.id ∈ files.map (·.id)) :
    ∀ exchange ∈ handling.exchanges, exchange.call.Handles files := by
  intro exchange spoken
  cases handling with
  | finalized file answer =>
      rcases List.mem_pair.mp spoken with rfl | rfl
      · exact True.intro
      · exact member
  | postponed file cause answer =>
      rcases List.mem_pair.mp spoken with rfl | rfl
      · exact True.intro
      · exact member

theorem BatchResult.eq_none_of_total {result : BatchResult}
    (nothing : result.total = 0) : result = .none := by
  obtain ⟨processed, failed⟩ := Nat.add_eq_zero_iff.mp nothing
  cases result
  cases processed
  cases failed
  rfl

namespace FileRecord

/-- Deleted, or under a lease that began at `instant`. -/
def TakenAt (instant : Instant) (record : FileRecord) : Prop :=
  record.Live → record.claimedAt = some instant

variable {now instant : Instant} {call : Call} {files : List FileRecord}
  {record later : FileRecord}

theorem TakenAt.not_claimable (taken : record.TakenAt instant) :
    ¬record.Claimable now := by
  intro claimable
  cases claimable.2.1.symm.trans (taken claimable.1)

theorem TakenAt.not_stale {age : Span} (forward : 0 ≤ age.nanos)
    (taken : record.TakenAt now) :
    record.hasStaleClaim? now age ≠ some true := by
  intro stale
  have leased : record.Leased := by
    by_contra unleased
    rw [hasStaleClaim?, if_neg unleased] at stale
    cases stale
  obtain ⟨cutoff, led, stale⟩ := stale_of_hasStaleClaim? leased stale
  have older := stale.2
  rw [ClaimedBefore, taken stale.1] at older
  exact Int.not_lt.mpr (Instant.minus?_le forward led) older

theorem Change.takenAt (change : Change now call record later)
    (handles : call.Handles files) (taken : record.TakenAt instant) :
    later.TakenAt instant := by
  cases change with
  | kept => exact taken
  | released => exact handles.elim
  | claimed => exact handles.elim
  | counted => exact taken
  | deleted => exact fun live => absurd live (not_live_softDeleted now record)

theorem Change.eq_of_apart (change : Change now call record later)
    (handles : call.Handles files) (apart : record.id ∉ files.map (·.id)) :
    later = record := by
  cases change with
  | kept => rfl
  | released => exact handles.elim
  | claimed => exact handles.elim
  | counted => exact absurd handles apart
  | deleted => exact absurd handles apart

end FileRecord

namespace RecordStore

/-- Of the records in `before`, a batch that began at `instant` has taken up
`files` and no others. -/
structure TakenUp (instant : Instant) (files : List FileRecord)
    (before after : RecordStore) : Prop where
  kept : ∀ record ∈ before.records, record ∉ files → record ∈ after.records
  taken : ∀ record ∈ after.records,
    record ∈ before.records ∧ record ∉ files ∨ record.TakenAt instant

variable {store before after : RecordStore} {faults : StoreFaults}
  {now instant : Instant} {files : List FileRecord}

theorem takenUp_claim (sound : faults.claim = false) (limit : Int) :
    TakenUp now (store.candidates now limit) store
      (store.afterCall faults now (.claimExpired limit)) where
  kept record member other := by
    rw [records_claim sound]
    exact List.mem_map.mpr ⟨record, member, if_neg other⟩
  taken later member := by
    rw [records_claim sound] at member
    obtain ⟨record, stored, rfl⟩ := List.mem_map.mp member
    by_cases candidate : record ∈ store.candidates now limit
    · rw [if_pos candidate]
      exact .inr fun _ => rfl
    · rw [if_neg candidate]
      exact .inl ⟨stored, candidate⟩

theorem id_not_mem_of_not_mem (stored : ∀ file ∈ files, file ∈ store.records)
    {record : FileRecord} (member : record ∈ store.records)
    (other : record ∉ files) : record.id ∉ files.map (·.id) := by
  intro listed
  obtain ⟨file, fileMember, same⟩ := List.mem_map.mp listed
  rw [eq_of_mem_of_id_eq (stored file fileMember) member same] at fileMember
  exact other fileMember

theorem TakenUp.afterCall (taken : TakenUp instant files before store)
    (stored : ∀ file ∈ files, file ∈ before.records) {call : Call}
    (handles : call.Handles files) :
    TakenUp instant files before (store.afterCall faults now call) where
  kept record member other := by
    obtain ⟨later, laterMember, change⟩ := (changes_afterCall store faults now
      call).exists_after (taken.kept record member other)
    have apart := id_not_mem_of_not_mem stored member other
    rw [change.eq_of_apart handles apart] at laterMember
    exact laterMember
  taken later laterMember := by
    obtain ⟨record, member, change⟩ := (changes_afterCall store faults now
      call).exists_before laterMember
    rcases taken.taken record member with ⟨stays, other⟩ | takenAt
    · have apart := id_not_mem_of_not_mem stored stays other
      rw [change.eq_of_apart handles apart]
      exact .inl ⟨stays, other⟩
    · exact .inr (change.takenAt handles takenAt)

/-- What was at the front of the backlog has left it. -/
theorem TakenUp.claimOrder_drop {order : List FileRecord} {count : Nat}
    (taken : TakenUp instant (order.take count) before after)
    (claims : ClaimOrder now before.records order) :
    ClaimOrder now after.records (order.drop count) := by
  apply claims.drop
  intro record
  constructor
  · intro ⟨member, claimable⟩
    rcases taken.taken record member with ⟨stays, other⟩ | takenAt
    · exact ⟨⟨stays, claimable⟩, other⟩
    · exact absurd claimable takenAt.not_claimable
  · intro ⟨⟨member, claimable⟩, other⟩
    exact ⟨taken.kept record member other, claimable⟩

end RecordStore

/-- What the next batch of `size` takes of a backlog, when some `batches` of
that size are done. -/
def portion {Item : Type} (size : Nat) (backlog : List Item) (batches : Nat) :
    List Item :=
  (backlog.drop (batches * size)).take size

section Portion

variable {Item : Type} (size : Nat) (backlog : List Item) (batches : Nat)

theorem portion_zero : portion size backlog 0 = backlog.take size := by
  rw [portion, Nat.zero_mul, List.drop_zero]

theorem portion_succ :
    portion size backlog (batches + 1) =
      portion size (backlog.drop size) batches := by
  rw [portion, portion, List.drop_drop, Nat.succ_mul, Nat.add_comm]

theorem length_portion :
    (portion size backlog batches).length =
      min size (backlog.length - batches * size) := by
  rw [portion, List.length_take, List.length_drop]

theorem flatMap_portion :
    (List.range batches).flatMap (portion size backlog) =
      backlog.take (batches * size) := by
  induction batches with
  | zero => rw [Nat.zero_mul, List.take_zero, List.range_zero, List.flatMap_nil]
  | succ batches induction =>
      rw [List.range_succ, List.flatMap_append, induction,
        List.flatMap_singleton, Nat.succ_mul, List.take_add]
      rfl

/-- So many batches have room for the whole backlog. -/
theorem le_div_mul (length : Nat) {size : Nat} (room : 0 < size) :
    length ≤ (length + size - 1) / size * size := by
  have whole := Nat.div_add_mod (length + size - 1) size
  have rest := Nat.mod_lt (length + size - 1) room
  rw [Nat.mul_comm] at whole
  omega

end Portion

namespace Simulation.World

variable {settings : CleanupSettings}

theorem takenUp_of_converses {instant : Instant} {files : List FileRecord}
    {before : RecordStore} {phase last : Phase} {world after : World}
    {exchanges : List Exchange}
    (talk : Phase.Converses settings backend phase world exchanges last after)
    (handles : ∀ exchange ∈ exchanges, exchange.call.Handles files)
    (stored : ∀ file ∈ files, file ∈ before.records)
    (taken : before.TakenUp instant files world.store) :
    before.TakenUp instant files after.store := by
  induction talk with
  | silence => exact taken
  | exchange asks _ induction =>
      apply induction fun exchange spoken =>
        handles exchange (List.mem_cons_of_mem _ spoken)
      rw [store_perform]
      exact taken.afterCall stored (handles _ List.mem_cons_self)

/-- A batch claims `files`, in their order, and handles them one after the
other. -/
def Attempts (settings : CleanupSettings) (world : World)
    (files : List FileRecord) (result : BatchResult) : Prop :=
  ∃ (handlings : List Handling) (said : List (Instant × Exchange))
      (after : World),
    Claims settings world (files.map (·.claimed world.now)) said after ∧
    said.map Prod.snd = handlings.flatMap Handling.exchanges ∧
    handlings.map Handling.file = files.map (·.claimed world.now) ∧
    (runBatch settings backend world).1 = .ok result

/-- A batch takes up as many files as it has room for, those that expired first
before all others. -/
theorem attempts_front {world : World} {order : List FileRecord}
    (sound : world.faults.claim = false) (fresh : Fresh settings world)
    (claims : ClaimOrder world.now world.store.records order) :
    let front := order.take settings.batchSize.toNat
    ∃ result, Attempts settings world front result ∧
      result.total = front.length ∧
      world.store.TakenUp world.now front
        (runBatch settings backend world).2.store := by
  intro front
  have released : world.releasedStore settings = world.store :=
    RecordStore.afterCall_release_fresh fresh
  obtain ⟨answer, middle, opens, beside, store⟩ :=
    comes_claimed settings (claimed_of_fresh settings sound fresh claims)
  obtain ⟨handlings, after, files, talk⟩ := Phase.converses_next settings
    backend middle .none (front.map (·.claimed world.now))
  obtain ⟨said, same, closes⟩ := comes_of_converses settings talk
  have comes := opens.trans closes
  have ids : handlings.map (·.file.id) = front.map (·.id) := by
    have ids := congrArg (List.map FileRecord.id) files
    rwa [List.map_map, List.map_map] at ids
  refine ⟨_, ⟨handlings, said, after, comes.claims, same, files,
    congrArg Prod.fst comes.runs⟩, ?_, ?_⟩
  · have total := Handling.total_foldl_counted handlings .none
    have lengths := congrArg List.length ids
    rw [List.length_map, List.length_map] at lengths
    rw [total, lengths]
    exact Nat.zero_add _
  · rw [comes.runs]
    apply takenUp_of_converses talk
    · intro exchange spoken
      obtain ⟨handling, member, spoken⟩ := List.mem_flatMap.mp spoken
      refine handling.handles ?_ exchange spoken
      rw [← ids]
      exact List.mem_map_of_mem member
    · intro file member
      exact (claims.mem_iff.mp (List.mem_of_mem_take member)).1
    · rw [store, released]
      have taken : world.store.TakenUp world.now _ _ :=
        RecordStore.takenUp_claim sound settings.batchSize
      rwa [claims.candidates] at taken

/-- Batches of one service in these worlds, each with the records that the
batch before has left.  None fails to claim, and meanwhile no lease goes stale
and nothing expires that had not expired at `start`. -/
structure Drains (settings : CleanupSettings) (start : Instant)
    (worlds : List World) : Prop where
  follows : worlds.IsChain fun world next =>
    next.store = (runBatch settings backend world).2.store ∧
      world.now ≤ next.now
  sound : ∀ world ∈ worlds, world.faults.claim = false
  fresh : ∀ world ∈ worlds, Fresh settings world
  expired : ∀ world ∈ worlds, ∀ record ∈ world.store.records,
    record.Expired world.now → record.Expired start

namespace Drains

variable {start : Instant} {world next : World} {later : List World}
  {order : List FileRecord}

theorem tail (drains : Drains settings start (world :: later)) :
    Drains settings start later where
  follows := drains.follows.of_cons
  sound := fun next member => drains.sound next (List.mem_cons_of_mem _ member)
  fresh := fun next member => drains.fresh next (List.mem_cons_of_mem _ member)
  expired := fun next member =>
    drains.expired next (List.mem_cons_of_mem _ member)

/-- Until its batch a world has nothing new to claim. -/
theorem claimable_iff (drains : Drains settings start (world :: later))
    (since : start ≤ world.now) {record : FileRecord}
    (member : record ∈ world.store.records) :
    record.Claimable world.now ↔ record.Claimable start := by
  have expired : record.Expired world.now ↔ record.Expired start :=
    ⟨drains.expired world List.mem_cons_self record member,
      fun expired => expired.mono since⟩
  rw [FileRecord.Claimable, FileRecord.Claimable, expired]

theorem attempts_first (drains : Drains settings start (world :: later))
    (since : start ≤ world.now)
    (claims : ClaimOrder start world.store.records order) :
    let front := order.take settings.batchSize.toNat
    ∃ result, Attempts settings world front result ∧
      result.total = front.length ∧
      world.store.TakenUp world.now front
        (runBatch settings backend world).2.store :=
  attempts_front (drains.sound world List.mem_cons_self)
    (drains.fresh world List.mem_cons_self)
    (claims.congr fun _ member => drains.claimable_iff since member)

theorem attempts (drains : Drains settings start (world :: later))
    (since : start ≤ world.now)
    (claims : ClaimOrder start world.store.records order) {batch : Nat}
    (found : (world :: later)[batch]? = some next) :
    let files := portion settings.batchSize.toNat order batch
    ∃ result, Attempts settings next files result ∧
      result.total = files.length := by
  induction batch generalizing world later order with
  | zero =>
      cases found
      obtain ⟨result, attempts, total, _⟩ := drains.attempts_first since claims
      rw [portion_zero]
      exact ⟨result, attempts, total⟩
  | succ batch induction =>
      cases later with
      | nil => cases found
      | cons second later =>
          obtain ⟨_, _, _, taken⟩ := drains.attempts_first since claims
          obtain ⟨⟨store, passes⟩, _⟩ :=
            List.isChain_cons_cons.mp drains.follows
          -- What is claimable at the start is left without its front, also for
          -- the files that the batch could not finish.
          rw [← store] at taken
          rw [portion_succ]
          exact induction drains.tail (Int.le_trans since passes)
            (taken.claimOrder_drop claims) found

end Drains

/-- A backlog is worked off from its front, whatever else fails than claims.
Each batch attempts the files that come next, as many as it has room for, until
each was attempted once and nothing is left to attempt. -/
theorem backlog_drained {settings : CleanupSettings}
    (accepted : settings.validate = .ok ()) {first : World}
    {later : List World}
    (drains : Drains settings first.now (first :: later))
    {backlog : List FileRecord}
    (claims : ClaimOrder first.now first.store.records backlog) :
    let size := settings.batchSize.toNat
    let needed := (backlog.length + size - 1) / size
    (∀ batch world, (first :: later)[batch]? = some world →
      ∃ result, Attempts settings world (portion size backlog batch) result ∧
        result.total = min size (backlog.length - batch * size) ∧
        (needed ≤ batch →
          portion size backlog batch = [] ∧ result = .none)) ∧
      (List.range needed).flatMap (portion size backlog) = backlog ∧
      (backlog.map (·.id)).Nodup := by
  intro size needed
  obtain ⟨_, _, room, _⟩ := CleanupSettings.validate_eq_ok_iff.mp accepted
  have enough : backlog.length ≤ needed * size :=
    le_div_mul backlog.length (by omega)
  refine ⟨?_, ?_, claims.nodup_id first.store.distinct⟩
  · intro batch world found
    obtain ⟨result, attempts, total⟩ :=
      drains.attempts (Int.le_refl _) claims found
    rw [length_portion] at total
    refine ⟨result, attempts, total, ?_⟩
    intro done
    have past : backlog.length ≤ batch * size :=
      Nat.le_trans enough (Nat.mul_le_mul_right size done)
    rw [Nat.sub_eq_zero_of_le past, Nat.min_zero] at total
    refine ⟨?_, ?_⟩
    · rw [portion, List.drop_eq_nil_of_le past, List.take_nil]
    · exact BatchResult.eq_none_of_total total
  · rw [flatMap_portion, List.take_of_length_le enough]

/-- The same world with the records that a batch leaves. -/
def again (settings : CleanupSettings) (world : World) : World :=
  { world with store := (runBatch settings backend world).2.store }

/-- The leases of a batch are not stale at the instant at which it began. -/
theorem Fresh.again {world : World} (fresh : Fresh settings world)
    (sound : world.faults.claim = false) :
    Fresh settings (again settings world) := by
  intro record member
  obtain ⟨order, claims, _⟩ := world.store.exists_claimOrder world.now
  obtain ⟨_, _, _, taken⟩ := attempts_front sound fresh claims
  rcases taken.taken record member with ⟨stays, _⟩ | takenAt
  · exact fresh record stays
  · apply takenAt.not_stale
    exact Int.mul_nonneg (Int.natCast_nonneg _) (by decide)

def Sample.single : CleanupSettings :=
  { CleanupSettings.standard with batchSize := 1 }

/-- Three batches with room for one file each work off two files. -/
theorem backlog_drained_sample :
    let second := again Sample.single Sample.pair
    let third := again Sample.single second
    (∃ result, (runBatch Sample.single backend second).1 = .ok result ∧
      result.total = 1) ∧
    (runBatch Sample.single backend third).1 = .ok .none := by
  intro second third
  have firstFresh : Fresh Sample.single Sample.pair := by
    unfold Fresh
    decide
  have secondFresh : Fresh Sample.single second := firstFresh.again rfl
  have thirdFresh : Fresh Sample.single third := secondFresh.again rfl
  have all {holds : World → Prop} (one : holds Sample.pair)
      (two : holds second) (three : holds third) :
      ∀ world ∈ [Sample.pair, second, third], holds world := by
    simp [one, two, three]
  have drains : Drains Sample.single Sample.pair.now
      [Sample.pair, second, third] := by
    refine ⟨?_, all rfl rfl rfl, all firstFresh secondFresh thirdFresh,
      all (fun _ _ => id) (fun _ _ => id) (fun _ _ => id)⟩
    have next (world : World) :
        (again Sample.single world).store =
            (runBatch Sample.single backend world).2.store ∧
          world.now ≤ (again Sample.single world).now :=
      ⟨rfl, Int.le_refl world.now.key⟩
    exact .cons_cons (next Sample.pair) (.cons_cons (next second)
      (.singleton third))
  obtain ⟨batches, _⟩ :=
    backlog_drained rfl drains Sample.claimOrder_pair
  obtain ⟨result, ⟨_, _, _, _, _, _, ends⟩, total, _⟩ := batches 1 second rfl
  obtain ⟨last, ⟨_, _, _, _, _, _, lastEnds⟩, _, empty⟩ := batches 2 third rfl
  obtain ⟨_, rfl⟩ := empty (by decide)
  exact ⟨⟨result, ends, total⟩, lastEnds⟩

end Simulation.World

end FileCleanup
