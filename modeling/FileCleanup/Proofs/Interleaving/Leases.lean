import FileCleanup.Proofs.Interleaving.Turns
import FileCleanup.Proofs.Store.ClaimOrder
import FileCleanup.Proofs.Time.Elapsed

namespace FileCleanup

open Time

/-! A file is under one lease at a time, whoever calls: only a release that
finds the lease too old lets another caller have the file. -/

namespace FileRecord

theorem Fate.dead {now : Instant} {exchange? : Option Exchange}
    {before after : FileRecord} (fate : Fate now exchange? before after)
    (dead : ¬before.Live) : ¬after.Live := by
  cases fate with
  | kept => exact dead
  | released _ _ stale => exact absurd stale.1 dead
  | claimed claimable => exact absurd claimable.1 dead
  | counted => exact dead
  | deleted live => exact absurd live dead

/-- Live and under a lease that began at `claim`. -/
def LeasedSince (claim : Instant) (record : FileRecord) : Prop :=
  record.Live ∧ record.claimedAt = some claim

end FileRecord

namespace Simulation.Interleaving

variable {state : Interleaving} {turn : Turn} {turns : List Turn} {id : Uuid}
  {claim : Instant}

/-- A claim returns the file. -/
def Returns (state : Interleaving) (turn : Turn) (id : Uuid) : Prop :=
  ∃ limit files, state.spoken? turn = some ⟨.claimExpired limit, .ok files⟩ ∧
    ∃ file ∈ files, file.id = id

/-- The file is soft-deleted, or was so before. -/
def Deletes (state : Interleaving) (turn : Turn) (id : Uuid) : Prop :=
  state.spoken? turn = some ⟨.softDelete id, .ok ()⟩

/-- Leases older than `age` are released, and so is the one on the file that
began at `claim`. -/
structure Releases (state : Interleaving) (turn : Turn) (id : Uuid)
    (claim : Instant) (age : Span) : Prop where
  spoken : ∃ count,
    state.spoken? turn = some ⟨.releaseStaleClaims age, .ok count⟩
  older : ∃ cutoff, state.world.now.minus? age = some cutoff ∧ claim < cutoff
  before : state.Stores id (·.LeasedSince claim)
  after : (state.take turn).Stores id (·.claimedAt = none)

theorem claimed_of_spoken {limit : Int} {files : List FileRecord}
    (spoken : state.spoken? turn = some ⟨.claimExpired limit, .ok files⟩) :
    files = (state.world.store.candidates state.world.now limit).map
        (·.claimed state.world.now) ∧
      (state.take turn).world.store.records =
        state.world.store.records.map fun record =>
          if record ∈ state.world.store.candidates state.world.now limit then
            record.claimed state.world.now
          else record := by
  cases turn with
  | insert record => cases spoken
  | move move =>
      obtain ⟨calls, answered⟩ := call?_of_exchange? spoken
      have files := World.files_of_claim answered.symm
      rw [take, store_step, calls]
      exact files

theorem nodup_of_spoken {limit : Int} {files : List FileRecord}
    (spoken : state.spoken? turn = some ⟨.claimExpired limit, .ok files⟩) :
    (files.map (·.id)).Nodup := by
  obtain ⟨order, claims, takes⟩ :=
    state.world.store.exists_claimOrder state.world.now
  have distinct := claims.nodup_id state.world.store.distinct
  have ids : files.map (·.id) = (order.map (·.id)).take limit.toNat := by
    rw [(claimed_of_spoken spoken).1, List.map_map, takes, ← List.map_take]
    rfl
  rw [ids]
  exact distinct.sublist (List.take_sublist _ _)

namespace Returns

theorem claimable (returns : state.Returns turn id) :
    state.Stores id (·.Claimable state.world.now) := by
  obtain ⟨limit, files, spoken, file, member, same⟩ := returns
  rw [(claimed_of_spoken spoken).1] at member
  obtain ⟨record, candidate, rfl⟩ := List.mem_map.mp member
  obtain ⟨stored, claimable⟩ := RecordStore.mem_candidates candidate
  exact ⟨record, stored, same, claimable⟩

theorem leased (returns : state.Returns turn id) :
    (state.take turn).Stores id (·.LeasedSince state.world.now) := by
  obtain ⟨limit, files, spoken, file, member, same⟩ := returns
  obtain ⟨rfl, records⟩ := claimed_of_spoken spoken
  obtain ⟨record, candidate, rfl⟩ := List.mem_map.mp member
  obtain ⟨stored, claimable⟩ := RecordStore.mem_candidates candidate
  refine ⟨record.claimed state.world.now, ?_, same, claimable.1, rfl⟩
  rw [records]
  exact List.mem_map.mpr ⟨record, stored, if_pos candidate⟩

end Returns

theorem dead_play (dead : state.Stores id (¬·.Live))
    (apart : Turn.Apart turns id) :
    (state.play turns).Stores id (¬·.Live) := by
  induction turns generalizing state with
  | nil => exact dead
  | cons turn turns induction =>
      obtain ⟨record, _, dead, later, member, same, fate⟩ := dead.take apart
      exact induction ⟨later, member, same, fate.dead dead⟩ apart.tail

/-- A leased file that is returned again has been released in between. -/
theorem exists_release (leased : state.Stores id (·.LeasedSince claim))
    (apart : Turn.Apart turns id)
    (advances : state.Advances turns)
    (returns : (state.play turns).Returns turn id) :
    ∃ before release after age, turns = before ++ release :: after ∧
      (state.play before).Releases release id claim age ∧
      (state.play before).world.now ≤ (state.play turns).world.now := by
  induction turns generalizing state with
  | nil =>
      obtain ⟨record, since, claimable⟩ := leased.both returns.claimable
      cases since.2.symm.trans claimable.2.1
  | cons first rest induction =>
      obtain ⟨record, same, since, later, member, laterSame, fate⟩ :=
        leased.take apart
      have later_leased (since : later.LeasedSince claim) :
          ∃ before release after age,
            first :: rest = before ++ release :: after ∧
            (state.play before).Releases release id claim age ∧
            (state.play before).world.now ≤
              (state.play (first :: rest)).world.now := by
        obtain ⟨before, release, after, age, rfl, found⟩ :=
          induction ⟨later, member, laterSame, since⟩ apart.tail advances.2
            returns
        exact ⟨first :: before, release, after, age, rfl, found⟩
      -- The lease ends in this turn or goes on; a deletion would rule out that
      -- the file is returned later.
      generalize spoken : state.spoken? first = exchange? at fate
      cases fate with
      | kept => exact later_leased since
      | @released age cutoff _ count led stale =>
          have older : claim < cutoff := by
            have before := stale.2
            rwa [FileRecord.ClaimedBefore, since.2] at before
          exact ⟨[], first, rest, age, rfl, ⟨⟨count, spoken⟩,
            ⟨cutoff, led, older⟩, leased,
            ⟨_, member, laterSame, rfl⟩⟩, advances.now_le⟩
      | claimed claimable => cases since.2.symm.trans claimable.2.1
      | counted => exact later_leased since
      | deleted live =>
          have dead := FileRecord.not_live_softDeleted state.world.now record
          obtain ⟨_, gone, claimable⟩ :=
            (dead_play ⟨_, member, laterSame, dead⟩ apart.tail).both
              returns.claimable
          exact absurd claimable.1 gone

theorem claimable_play
    (claimable : state.Stores id (·.Claimable state.world.now))
    (apart : Turn.Apart turns id)
    (advances : state.Advances turns)
    (spared : ∀ before turn after, turns = before ++ turn :: after →
      ¬(state.play before).Returns turn id ∧
        ¬(state.play before).Deletes turn id) :
    (state.play turns).Stores id
      (·.Claimable (state.play turns).world.now) := by
  induction turns generalizing state with
  | nil => exact claimable
  | cons first rest induction =>
      obtain ⟨notReturned, notDeleted⟩ := spared [] first rest rfl
      obtain ⟨record, same, claimable, later, member, laterSame, fate⟩ :=
        claimable.take apart
      have laterClaimable : later.Claimable (state.take first).world.now := by
        have expired := claimable.2.2.mono advances.1
        generalize spoken : state.spoken? first = exchange? at fate
        cases fate with
        | kept => exact ⟨claimable.1, claimable.2.1, expired⟩
        | released _ _ stale => exact absurd claimable.2.1 stale.leased.2
        | claimed _ returned =>
            exact absurd ⟨_, _, spoken, _, returned, same⟩ notReturned
        | counted => exact ⟨claimable.1, claimable.2.1, expired⟩
        | deleted =>
            rw [same] at spoken
            exact absurd spoken notDeleted
      refine induction ⟨later, member, laterSame, laterClaimable⟩ apart.tail
        advances.2 ?_
      rintro before turn after rfl
      exact spared (first :: before) turn after rfl

/-- A release comes later after a claim than the age it asks for. -/
theorem Releases.elapsed {age : Span}
    (releases : state.Releases turn id claim age)
    (ordinaryClaim : claim.Ordinary) (ordinary : state.world.now.Ordinary) :
    claim.nanosFromBase + age.nanos < state.world.now.nanosFromBase := by
  obtain ⟨cutoff, led, before⟩ := releases.older
  have elapsed := Instant.nanosFromBase_lt ordinaryClaim before
  rw [Instant.nanosFromBase_minus? ordinary led] at elapsed
  omega

/-- Between two claims that return one file its lease is released, a claim
returns no file twice, and a file that can be claimed waits until it is claimed
or deleted. -/
theorem claims_exclusive {start : Interleaving} {turns : List Turn} {id : Uuid}
    (advances : start.Advances turns) (apart : Turn.Apart turns id) :
    (∀ earlier first between second later,
      turns = earlier ++ first :: between ++ second :: later →
      let claiming := start.play earlier
      let again := start.play (earlier ++ first :: between)
      claiming.Returns first id → again.Returns second id →
      (∃ before release after age, between = before ++ release :: after ∧
        let releasing := start.play (earlier ++ first :: before)
        releasing.Releases release id claiming.world.now age ∧
        releasing.world.now ≤ again.world.now ∧
        (claiming.world.now.Ordinary → releasing.world.now.Ordinary →
          claiming.world.now.nanosFromBase + age.nanos <
            releasing.world.now.nanosFromBase)) ∧
      ∀ past rest, earlier ++ first :: between = past ++ rest →
        ¬(start.play past).Stores id (¬·.Live)) ∧
    (∀ earlier turn later, turns = earlier ++ turn :: later →
      ∀ limit files, (start.play earlier).spoken? turn =
          some ⟨.claimExpired limit, .ok files⟩ →
        (files.map (·.id)).Nodup) ∧
    ∀ earlier between later, turns = earlier ++ between ++ later →
      let state := start.play earlier
      state.Stores id (·.Claimable state.world.now) →
      (∀ before turn after, between = before ++ turn :: after →
        ¬(state.play before).Returns turn id ∧
          ¬(state.play before).Deletes turn id) →
      (state.play between).Stores id
        (·.Claimable (state.play between).world.now) := by
  refine ⟨?_, ?_, ?_⟩
  · rintro earlier first between second later rfl claiming again returns
      returnsAgain
    have apartBefore := apart.of_append.1
    have advancesAfter := (advances_append.mp (advances_append.mp advances).1).2
    have split (moves : List Turn) :
        start.play (earlier ++ first :: moves) =
          (claiming.take first).play moves :=
      play_append start earlier (first :: moves)
    refine ⟨?_, ?_⟩
    · rw [show again = _ from split between] at returnsAgain ⊢
      obtain ⟨before, release, after, age, shape, releases, inTime⟩ :=
        exists_release returns.leased apartBefore.of_append.2.tail
          advancesAfter.2 returnsAgain
      rw [← split before] at releases inTime
      exact ⟨before, release, after, age, shape, releases, inTime,
        releases.elapsed⟩
    · intro past rest shape dead
      rw [shape] at apartBefore
      have gone := dead_play dead apartBefore.of_append.2
      rw [← play_append, ← shape] at gone
      obtain ⟨_, dead, claimable⟩ := gone.both returnsAgain.claimable
      exact dead claimable.1
  · rintro earlier turn later _ limit files spoken
    exact nodup_of_spoken spoken
  · rintro earlier between later rfl state claimable spared
    have advancesBefore := (advances_append.mp advances).1
    exact claimable_play claimable apart.of_append.1.of_append.2
      (advances_append.mp advancesBefore).2 spared

theorem returns_of_candidate {limit : Int}
    (sound : state.world.faults.claim = false)
    (candidate : id ∈
      (state.world.store.candidates state.world.now limit).map (·.id)) :
    state.Returns (.move (.call (.claimExpired limit))) id := by
  have answered := World.answer_claimExpired limit state.world
  rw [sound] at answered
  obtain ⟨record, member, same⟩ := List.mem_map.mp candidate
  exact ⟨limit, _, congrArg (fun answer => some (Exchange.mk _ answer))
    answered, record.claimed state.world.now, List.mem_map_of_mem member, same⟩

namespace Sample

def claiming : Turn := .move (.call (.claimExpired 5))

/-- What others do before the file is claimed again. -/
def between : List Turn :=
  [.insert (Sample.file 3 "c.txt" none), .move (.passTime .base 600000),
    .move (.call (.releaseStaleClaims (.ofSeconds 300)))]

end Sample

theorem claims_exclusive_sample :
    ∃ before release after age, Sample.between = before ++ release :: after ∧
      ((ofWorld Sample.world).play (Sample.claiming :: before)).Releases release
        Sample.expired.id Sample.world.now age := by
  have apart : Turn.Apart
      (Sample.claiming :: Sample.between ++ [Sample.claiming])
      Sample.expired.id := by
    intro record member
    have added : record = Sample.file 3 "c.txt" none := by
      simpa [Sample.between, Sample.claiming] using member
    rw [added]
    decide
  have exclusive := @claims_exclusive (ofWorld Sample.world)
    (Sample.claiming :: Sample.between ++ [Sample.claiming]) Sample.expired.id
    (by decide +kernel) apart
  obtain ⟨⟨before, release, after, age, shape, releases, _⟩, _⟩ :=
    exclusive.1 [] Sample.claiming Sample.between Sample.claiming [] rfl
      (returns_of_candidate rfl (by decide +kernel))
      (returns_of_candidate (by decide +kernel) (by decide +kernel))
  exact ⟨before, release, after, age, shape, releases⟩

end Simulation.Interleaving

end FileCleanup
