import FileCleanup.Proofs.Store.Change

namespace FileCleanup

open Time

/-! The order in which expired files are claimed. -/

namespace FileRecord

/-- `left` expired earlier than `right`, or expired together with it and has
the lower identifier. -/
def DueBefore (left right : FileRecord) : Prop :=
  ∃ leftExpiry rightExpiry,
    left.expiresAt = some leftExpiry ∧ right.expiresAt = some rightExpiry ∧
      (leftExpiry < rightExpiry ∨
        leftExpiry = rightExpiry ∧ left.id < right.id)

theorem precedes_iff {left right : FileRecord}
    {leftExpiry rightExpiry : Instant}
    (leftExpires : left.expiresAt = some leftExpiry)
    (rightExpires : right.expiresAt = some rightExpiry) :
    left.precedes right ↔
      leftExpiry.key < rightExpiry.key ∨
        leftExpiry.key = rightExpiry.key ∧ left.id.value ≤ right.id.value := by
  have sameInstant :
      leftExpiry = rightExpiry ↔ leftExpiry.key = rightExpiry.key :=
    ⟨congrArg Instant.key, Instant.key_injective⟩
  simp only [precedes, leftExpires, rightExpires, Bool.or_eq_true,
    Bool.and_eq_true, decide_eq_true_eq, sameInstant]
  rfl

theorem precedes_trans (first second third : FileRecord)
    (left : first.precedes second) (right : second.precedes third) :
    first.precedes third := by
  cases firstExpires : first.expiresAt <;>
    cases secondExpires : second.expiresAt <;>
    cases thirdExpires : third.expiresAt
  case some.some.some =>
    rw [precedes_iff firstExpires secondExpires] at left
    rw [precedes_iff secondExpires thirdExpires] at right
    rw [precedes_iff firstExpires thirdExpires]
    omega
  case none.none.none =>
    simp only [precedes, firstExpires, secondExpires, thirdExpires,
      decide_eq_true_eq] at *
    exact Nat.le_trans left right
  all_goals simp_all [precedes]

theorem precedes_total (left right : FileRecord) :
    left.precedes right || right.precedes left := by
  rw [Bool.or_eq_true]
  cases leftExpires : left.expiresAt <;>
    cases rightExpires : right.expiresAt
  case some.some =>
    rw [precedes_iff leftExpires rightExpires,
      precedes_iff rightExpires leftExpires]
    omega
  case none.none =>
    simp only [precedes, leftExpires, rightExpires, decide_eq_true_eq]
    exact Nat.le_total _ _
  all_goals simp [precedes, leftExpires, rightExpires]

theorem DueBefore.not_dueBefore {left right : FileRecord}
    (before : left.DueBefore right) : ¬right.DueBefore left := by
  obtain ⟨leftExpiry, rightExpiry, leftExpires, rightExpires, ordered⟩ := before
  intro ⟨otherRight, otherLeft, sameRight, sameLeft, reversed⟩
  cases rightExpires.symm.trans sameRight
  cases leftExpires.symm.trans sameLeft
  rcases ordered with earlier | ⟨rfl, earlier⟩ <;>
    rcases reversed with later | ⟨same, later⟩
  · exact Int.lt_asymm earlier later
  · rw [same] at earlier
    exact Int.lt_irrefl _ earlier
  · exact Int.lt_irrefl _ later
  · exact Nat.lt_asymm earlier later

theorem expiry_of_claimable {now : Instant} {record : FileRecord}
    (claimable : record.Claimable now) :
    ∃ expiry, record.expiresAt = some expiry ∧ expiry ≤ now := by
  have expired := claimable.2.2
  unfold Expired at expired
  split at expired
  · rename_i expiry expires
    exact ⟨expiry, expires, expired⟩
  · exact False.elim expired

theorem dueBefore_of_precedes {now : Instant} {left right : FileRecord}
    (leftClaimable : left.Claimable now) (rightClaimable : right.Claimable now)
    (precedes : left.precedes right) (different : left.id ≠ right.id) :
    left.DueBefore right := by
  obtain ⟨leftExpiry, leftExpires, _⟩ := expiry_of_claimable leftClaimable
  obtain ⟨rightExpiry, rightExpires, _⟩ := expiry_of_claimable rightClaimable
  refine ⟨leftExpiry, rightExpiry, leftExpires, rightExpires, ?_⟩
  have apart : left.id.value ≠ right.id.value :=
    fun same => different (Uuid.value_injective same)
  rcases (precedes_iff leftExpires rightExpires).mp precedes with
    earlier | ⟨sameKey, lower⟩
  · exact .inl earlier
  · exact .inr ⟨Instant.key_injective sameKey, Nat.lt_of_le_of_ne lower apart⟩

end FileRecord

private theorem nodup_id_of_perm {now : Instant}
    {records order : List FileRecord}
    (perm : order.Perm (records.filter fun record => record.Claimable now))
    (distinct : (records.map (·.id)).Nodup) : (order.map (·.id)).Nodup := by
  apply (perm.map _).nodup_iff.mpr
  exact distinct.sublist (List.filter_sublist.map _)

/-- `order` is what can be claimed of `records`, in the order in which it is
claimed. -/
structure ClaimOrder (now : Instant) (records order : List FileRecord) :
    Prop where
  perm : order.Perm (records.filter fun record => record.Claimable now)
  sorted : order.Pairwise FileRecord.DueBefore

namespace ClaimOrder

variable {now : Instant} {records order : List FileRecord}

theorem mem_iff (claims : ClaimOrder now records order) {record : FileRecord} :
    record ∈ order ↔ record ∈ records ∧ record.Claimable now := by
  rw [claims.perm.mem_iff, List.mem_filter, decide_eq_true_eq]

theorem length_eq (claims : ClaimOrder now records order) :
    order.length =
      (records.filter fun record => record.Claimable now).length :=
  claims.perm.length_eq

theorem nodup_id (claims : ClaimOrder now records order)
    (distinct : (records.map (·.id)).Nodup) : (order.map (·.id)).Nodup :=
  nodup_id_of_perm claims.perm distinct

theorem unique {other : List FileRecord} (claims : ClaimOrder now records order)
    (others : ClaimOrder now records other) : order = other := by
  refine List.Perm.eq_of_pairwise ?_ claims.sorted others.sorted
    (claims.perm.trans others.perm.symm)
  intro left right _ _ before after
  exact absurd after before.not_dueBefore

theorem congr {later : Instant} (claims : ClaimOrder now records order)
    (same : ∀ record ∈ records,
      record.Claimable later ↔ record.Claimable now) :
    ClaimOrder later records order := by
  refine ⟨?_, claims.sorted⟩
  rw [List.filter_congr fun record member =>
    decide_eq_decide.mpr (same record member)]
  exact claims.perm

end ClaimOrder

namespace RecordStore

theorem exists_claimOrder (store : RecordStore) (now : Instant) :
    ∃ order, ClaimOrder now store.records order ∧
      ∀ limit : Int, store.candidates now limit = order.take limit.toNat := by
  let claimable := store.records.filter fun record => record.Claimable now
  have perm : (claimable.mergeSort FileRecord.precedes).Perm claimable :=
    List.mergeSort_perm claimable _
  have distinct :
      (claimable.mergeSort FileRecord.precedes).Pairwise
        fun left right => left.id ≠ right.id :=
    List.pairwise_map.mp (nodup_id_of_perm perm store.distinct)
  have precedes :=
    List.pairwise_mergeSort FileRecord.precedes_trans
      FileRecord.precedes_total claimable
  refine ⟨claimable.mergeSort FileRecord.precedes, ⟨perm, ?_⟩, fun _ => rfl⟩
  apply (precedes.and distinct).imp_of_mem
  intro left right leftMember rightMember ordered
  have eligible {record : FileRecord}
      (member : record ∈ claimable.mergeSort FileRecord.precedes) :
      record.Claimable now :=
    of_decide_eq_true (List.mem_filter.mp (perm.mem_iff.mp member)).2
  exact FileRecord.dueBefore_of_precedes (eligible leftMember)
    (eligible rightMember) ordered.1 ordered.2

end RecordStore

namespace ClaimOrder

variable {now : Instant} {order : List FileRecord}

theorem candidates {store : RecordStore}
    (claims : ClaimOrder now store.records order) (limit : Int) :
    store.candidates now limit = order.take limit.toNat := by
  obtain ⟨other, others, takes⟩ := store.exists_claimOrder now
  rw [takes, others.unique claims]

/-- What is left when the front of the order is not claimable any more. -/
theorem drop {before after : RecordStore} {count : Nat}
    (claims : ClaimOrder now before.records order)
    (remains : ∀ record, record ∈ after.records ∧ record.Claimable now ↔
      (record ∈ before.records ∧ record.Claimable now) ∧
        record ∉ order.take count) :
    ClaimOrder now after.records (order.drop count) := by
  have distinct : (order.take count ++ order.drop count).Nodup := by
    rw [List.take_append_drop]
    exact (claims.nodup_id before.distinct).of_map _
  have apart := List.disjoint_of_nodup_append distinct
  refine ⟨?_, claims.sorted.sublist (List.drop_sublist ..)⟩
  refine (List.perm_ext_iff_of_nodup distinct.of_append_right
    (after.distinct.of_map.filter _)).mpr ?_
  intro record
  rw [List.mem_filter, decide_eq_true_eq, remains, ← claims.mem_iff]
  constructor
  · intro member
    exact ⟨List.mem_of_mem_drop member, fun taken => apart taken member⟩
  · intro ⟨member, untaken⟩
    rw [← List.take_append_drop count order, List.mem_append] at member
    exact member.resolve_left untaken

end ClaimOrder

end FileCleanup
