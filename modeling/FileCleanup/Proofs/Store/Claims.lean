import FileCleanup.Proofs.Store.ClaimOrder
import FileCleanup.Proofs.Store.Records
import FileCleanup.Proofs.Store.World

namespace FileCleanup

open Time

/-! What a claim hands out, and what it leaves for the next one. -/

namespace RecordStore

/-- What a claim of up to `limit` records hands out of `before`, and what it
leaves. -/
structure Claims (now : Instant) (limit : Int) (before : RecordStore)
    (files : List FileRecord) (after : RecordStore) : Prop where
  sorted : files.Pairwise FileRecord.DueBefore
  length : files.length = min limit.toNat
    (before.records.countP fun record => record.Claimable now)
  leased : ∀ file ∈ files, after.get? file.id = some file ∧
    ∃ record ∈ before.records, record.Claimable now ∧
      file = { record with claimedAt := some now, updatedAt := now }
  later : ∀ record ∈ before.records, record.Claimable now →
    record.id ∉ files.map (·.id) → ∀ file ∈ files, file.DueBefore record
  kept : ∀ id ∉ files.map (·.id), after.get? id = before.get? id

variable {store : RecordStore} {faults : StoreFaults} {now : Instant}
  {order : List FileRecord}

theorem claimExpired_eq (sound : faults.claim = false)
    (claims : ClaimOrder now store.records order) (limit : Int) :
    store.claimExpired faults now limit =
      .ok ((order.take limit.toNat).map (·.claimed now),
        store.afterCall faults now (.claimExpired limit)) := by
  simp [claimExpired, afterCall, sound, claims.candidates]

/-- The records after a claim, by the order in which they are claimed. -/
theorem records_claim_take (sound : faults.claim = false)
    (claims : ClaimOrder now store.records order) (limit : Int) :
    (store.afterCall faults now (.claimExpired limit)).records =
      store.records.map fun record =>
        if record ∈ order.take limit.toNat then record.claimed now
        else record := by
  rw [records_claim sound, claims.candidates]

theorem get?_claim (sound : faults.claim = false)
    (claims : ClaimOrder now store.records order) {limit : Int} {id : Uuid}
    (other : id ∉ (order.take limit.toNat).map (·.id)) :
    (store.afterCall faults now (.claimExpired limit)).get? id =
      store.get? id := by
  have changed : store.afterCall faults now (.claimExpired limit) =
      store.change (claimedIf ((order.take limit.toNat).map (·.id)) now)
        (id_claimedIf _ now) := by
    simp [afterCall, claimExpired, sound, claims.candidates]
  rw [changed, get?_change]
  cases found : store.get? id with
  | none => rfl
  | some record =>
      have named : record.id = id := by simpa using List.find?_some found
      rw [Option.map_some, claimedIf, if_neg (named ▸ other)]

private theorem map_id_claimed (files : List FileRecord) (now : Instant) :
    (files.map (·.claimed now)).map (·.id) = files.map (·.id) := by
  rw [List.map_map]
  rfl

theorem claims_take (sound : faults.claim = false)
    (claims : ClaimOrder now store.records order) (limit : Int) :
    Claims now limit store ((order.take limit.toNat).map (·.claimed now))
      (store.afterCall faults now (.claimExpired limit)) where
  sorted := by
    rw [List.pairwise_map]
    exact claims.sorted.sublist (List.take_sublist ..)
  length := by
    rw [List.length_map, List.length_take, claims.length_eq,
      List.countP_eq_length_filter]
  leased := by
    intro file member
    obtain ⟨record, taken, rfl⟩ := List.mem_map.mp member
    obtain ⟨stored, claimable⟩ := claims.mem_iff.mp (List.mem_of_mem_take taken)
    refine ⟨get?_of_mem ?_, record, stored, claimable, rfl⟩
    rw [records_claim_take sound claims]
    exact List.mem_map.mpr ⟨record, stored, if_pos taken⟩
  later := by
    intro record stored claimable untaken file member
    rw [map_id_claimed] at untaken
    obtain ⟨other, taken, rfl⟩ := List.mem_map.mp member
    have waits : record ∈ order := claims.mem_iff.mpr ⟨stored, claimable⟩
    have sorted := claims.sorted
    rw [← List.take_append_drop limit.toNat order] at waits sorted
    have left : record ∈ order.drop limit.toNat :=
      (List.mem_append.mp waits).resolve_left fun taken =>
        untaken (List.mem_map_of_mem taken)
    exact (List.pairwise_append.mp sorted).2.2 other taken record left
  kept := by
    intro id other
    rw [map_id_claimed] at other
    exact get?_claim sound claims other

theorem claimExpired_of_nonpos (sound : faults.claim = false)
    (claims : ClaimOrder now store.records order) {limit : Int}
    (nonpos : limit ≤ 0) :
    store.claimExpired faults now limit = .ok ([], store) := by
  have nothing : order.take limit.toNat = [] := by
    rw [Int.toNat_of_nonpos nonpos, List.take_zero]
  have same : store.afterCall faults now (.claimExpired limit) = store := by
    apply eq_of_records
    rw [records_claim_take sound claims, nothing]
    simp
  rw [claimExpired_eq sound claims, nothing, same, List.map_nil]

/-- What a claim of some of the records leaves is claimed in the same order. -/
theorem claimOrder_claim (sound : faults.claim = false)
    (claims : ClaimOrder now store.records order) (limit : Int) :
    ClaimOrder now
      (store.afterCall faults now (.claimExpired limit)).records
      (order.drop limit.toNat) := by
  apply claims.drop
  intro record
  rw [records_claim_take sound claims, List.mem_map]
  constructor
  · rintro ⟨⟨stored, member, rfl⟩, claimable⟩
    by_cases taken : stored ∈ order.take limit.toNat
    · rw [if_pos taken] at claimable
      cases claimable.2.1
    · rw [if_neg taken] at claimable ⊢
      exact ⟨⟨member, claimable⟩, taken⟩
  · rintro ⟨⟨member, claimable⟩, untaken⟩
    exact ⟨⟨record, member, if_neg untaken⟩, claimable⟩

/-- Claiming twice leaves what claiming once does. -/
theorem claim_claim (sound : faults.claim = false)
    (claims : ClaimOrder now store.records order) {first second : Int}
    (firstNonneg : 0 ≤ first) (secondNonneg : 0 ≤ second) :
    (store.afterCall faults now (.claimExpired first)).afterCall faults now
        (.claimExpired second) =
      store.afterCall faults now (.claimExpired (first + second)) := by
  apply eq_of_records
  have rest := claimOrder_claim sound claims first
  rw [records_claim_take sound rest, records_claim_take sound claims,
    records_claim_take sound claims, List.map_map,
    Int.toNat_add firstNonneg secondNonneg, List.take_add]
  apply List.map_congr_left
  intro record _
  by_cases taken : record ∈ order.take first.toNat
  · -- What is leased now cannot be claimed again.
    have leased : record.claimed now ∉
        (order.drop first.toNat).take second.toNat := by
      intro again
      have claimable := (rest.mem_iff.mp (List.mem_of_mem_take again)).2
      cases claimable.2.1
    simp [taken, leased]
  · simp [taken]

/-- The order in which the records are kept makes no difference. -/
theorem claimExpired_perm {other : RecordStore} (sound : faults.claim = false)
    (same : other.records.Perm store.records)
    (claims : ClaimOrder now store.records order) (limit : Int) :
    ∃ after, other.claimExpired faults now limit =
        .ok ((order.take limit.toNat).map (·.claimed now), after) ∧
      after.records.Perm
        (store.afterCall faults now (.claimExpired limit)).records := by
  have others : ClaimOrder now other.records order :=
    ⟨claims.perm.trans (same.filter _).symm, claims.sorted⟩
  refine ⟨_, claimExpired_eq sound others limit, ?_⟩
  rw [records_claim_take sound others, records_claim_take sound claims]
  exact same.map _

/-- Claims compose: two at one instant hand out, one after the other, what one
claim with both limits does, and leave the same.  Whatever the limit, a claim
takes those records that have been due for longest, in their order, and a
negative limit takes none. -/
theorem claims_compose (sound : faults.claim = false) :
    (∀ first second : Int, 0 ≤ first → 0 ≤ second →
      ∃ front middle rest after,
        store.claimExpired faults now first = .ok (front, middle) ∧
        middle.claimExpired faults now second = .ok (rest, after) ∧
        store.claimExpired faults now (first + second) =
          .ok (front ++ rest, after) ∧
        Claims now first store front middle ∧
        Claims now second middle rest after) ∧
    ∀ limit : Int, ∃ files after,
      store.claimExpired faults now limit = .ok (files, after) ∧
      Claims now limit store files after ∧
      (limit < 0 → files = [] ∧ after = store) ∧
      ∀ other : RecordStore, other.records.Perm store.records →
        ∃ otherAfter,
          other.claimExpired faults now limit = .ok (files, otherAfter) ∧
          otherAfter.records.Perm after.records := by
  obtain ⟨order, claims, _⟩ := store.exists_claimOrder now
  constructor
  · intro first second firstNonneg secondNonneg
    have rest := claimOrder_claim sound claims first
    refine ⟨_, _, _, _, claimExpired_eq sound claims first,
      claimExpired_eq sound rest second, ?_, claims_take sound claims first,
      claims_take sound rest second⟩
    rw [claimExpired_eq sound claims, claim_claim sound claims firstNonneg
      secondNonneg, Int.toNat_add firstNonneg secondNonneg, List.take_add,
      List.map_append]
  · intro limit
    have takes := claimExpired_eq sound claims limit
    refine ⟨_, _, takes, claims_take sound claims limit, ?_, ?_⟩
    · intro negative
      have nothing :=
        claimExpired_of_nonpos sound claims (Int.le_of_lt negative)
      rw [takes] at nothing
      exact Prod.mk.inj (Except.ok.inj nothing)
    · intro other same
      exact claimExpired_perm sound same claims limit

end RecordStore

namespace Simulation.Sample

theorem claimOrder_pair :
    ClaimOrder pair.now pair.store.records [expired, late] := by
  refine ⟨by decide, List.pairwise_pair.mpr ?_⟩
  exact ⟨.base, .base, rfl, rfl, .inr ⟨rfl, by decide⟩⟩

end Simulation.Sample

namespace RecordStore

open Simulation

/-- Two claims of one record each take the two that are due in their order. -/
theorem claims_compose_sample :
    ∃ middle after,
      Sample.pair.store.claimExpired .none Sample.pair.now 1 =
        .ok ([Sample.expired.claimed Sample.pair.now], middle) ∧
      middle.claimExpired .none Sample.pair.now 1 =
        .ok ([Sample.late.claimed Sample.pair.now], after) := by
  have sound : StoreFaults.none.claim = false := rfl
  obtain ⟨front, middle, rest, after, claims, again, both, first, _⟩ :=
    (@claims_compose Sample.pair.store .none Sample.pair.now sound).1 1 1
      (by decide) (by decide)
  have one : front.length = 1 := first.length
  rw [claimExpired_eq sound Sample.claimOrder_pair] at both
  have listed : [Sample.expired.claimed Sample.pair.now] ++
      [Sample.late.claimed Sample.pair.now] = front ++ rest :=
    (Prod.mk.inj (Except.ok.inj both)).1
  obtain ⟨rfl, rfl⟩ := List.append_inj listed one.symm
  exact ⟨middle, after, claims, again⟩

end RecordStore

end FileCleanup
