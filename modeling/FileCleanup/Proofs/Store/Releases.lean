import FileCleanup.Proofs.Store.Records
import FileCleanup.Proofs.Store.World
import FileCleanup.Proofs.Time.Elapsed

namespace FileCleanup

open Time

/-! What a release of stale leases frees, and what two of them free one after
the other. -/

namespace FileRecord

variable {now later : Instant} {age : Span} {record : FileRecord}

/-- Live, and under a lease that began more than `age` before `now`. -/
def Overdue (now : Instant) (age : Span) (record : FileRecord) : Prop :=
  record.Live ∧ ∃ start cutoff, record.claimedAt = some start ∧
    now.minus? age = some cutoff ∧ start < cutoff

theorem overdue_iff_stale {cutoff : Instant}
    (led : now.minus? age = some cutoff) :
    record.Overdue now age ↔ record.Stale cutoff := by
  unfold Overdue Stale ClaimedBefore
  cases record.claimedAt with
  | none => simp
  | some start => simp [led]

theorem Overdue.leased (overdue : record.Overdue now age) : record.Leased := by
  obtain ⟨live, start, _, claimed, _⟩ := overdue
  exact ⟨live, by simp [claimed]⟩

theorem overdue_iff :
    record.Overdue now age ↔ record.hasStaleClaim? now age = some true := by
  constructor
  · intro overdue
    have ⟨_, _, cutoff, _, led, _⟩ := overdue
    exact hasStaleClaim?_of_stale led ((overdue_iff_stale led).mp overdue)
  · intro stale
    by_cases leased : record.Leased
    · obtain ⟨cutoff, led, before⟩ := stale_of_hasStaleClaim? leased stale
      exact (overdue_iff_stale led).mpr before
    · rw [hasStaleClaim?, if_neg leased] at stale
      cases stale

instance : Decidable (record.Overdue now age) :=
  decidable_of_iff _ overdue_iff.symm

theorem Overdue.mono {shorter : Span} (overdue : record.Overdue now age)
    (shortens : shorter.nanos ≤ age.nanos) (led : (now.minus? shorter).isSome) :
    record.Overdue now shorter := by
  obtain ⟨live, start, cutoff, claimed, ledLonger, before⟩ := overdue
  obtain ⟨nearer, led⟩ := Option.isSome_iff_exists.mp led
  have passes := Instant.minus?_antitone shortens led ledLonger
  exact ⟨live, start, nearer, claimed, led, Int.lt_of_lt_of_le before passes⟩

theorem not_overdue_released : ¬(record.released later).Overdue now age :=
  fun overdue => overdue.leased.2 rfl

/-- A record once a release has been over it. -/
def freed (now : Instant) (age : Span) (record : FileRecord) : FileRecord :=
  if record.Overdue now age then record.released now else record

theorem freed_of_not_overdue (fresh : ¬record.Overdue now age) :
    record.freed now age = record :=
  if_neg fresh

theorem freed_of_overdue (overdue : record.Overdue now age) :
    record.freed now age = record.released now :=
  if_pos overdue

theorem overdue_freed {other : Span} :
    (record.freed now age).Overdue now other ↔
      ¬record.Overdue now age ∧ record.Overdue now other := by
  by_cases overdue : record.Overdue now age
  · rw [freed_of_overdue overdue]
    exact iff_of_false not_overdue_released fun both => both.1 overdue
  · rw [freed_of_not_overdue overdue]
    exact (and_iff_right overdue).symm

theorem id_freed (now : Instant) (age : Span) (record : FileRecord) :
    (record.freed now age).id = record.id := by
  unfold freed
  split <;> rfl

theorem freed_freed {second either : Span}
    (splits : record.Overdue now either ↔
      record.Overdue now age ∨ record.Overdue now second) :
    (record.freed now age).freed now second = record.freed now either := by
  by_cases first : record.Overdue now age
  · rw [freed_of_overdue first, freed_of_not_overdue not_overdue_released,
      freed_of_overdue (splits.mpr (.inl first))]
  · rw [freed_of_not_overdue first, freed, freed]
    simp only [splits, first, false_or]

theorem leased_of_freed (leased : (record.freed now age).Leased) :
    record.Leased := by
  by_cases overdue : record.Overdue now age
  · exact overdue.leased
  · rwa [freed_of_not_overdue overdue] at leased

end FileRecord

namespace RecordStore

/-- An age that a release can hold against every lease of the store: no instant
so long before `now` is beyond the calendar. -/
structure Admits (store : RecordStore) (now : Instant) (age : Span) : Prop where
  inRange : age.InRange
  led : ∀ record ∈ store.records, record.Leased → (now.minus? age).isSome

/-- What a release of leases older than `age` counts, and what it leaves. -/
structure Releases (now : Instant) (age : Span) (before : RecordStore)
    (count : Nat) (after : RecordStore) : Prop where
  counted : count = before.records.countP fun record => record.Overdue now age
  cleared : ∀ record ∈ before.records, record.Overdue now age →
    after.get? record.id =
      some { record with claimedAt := none, updatedAt := now }
  kept : ∀ id, (∀ record, before.get? id = some record →
    ¬record.Overdue now age) → after.get? id = before.get? id
  claimable : ∀ record ∈ before.records, record.Overdue now age →
    record.Expired now → ∃ free, after.get? record.id = some free ∧
      free.Claimable now

variable {store : RecordStore} {faults : StoreFaults} {now : Instant}
  {age first second : Span}

private theorem idle_or_led (admits : store.Admits now age) :
    (∀ record ∈ store.records, ¬record.Leased) ∨
      ¬(store.records.all fun record => ¬record.Leased) ∧
        ∃ cutoff, now.minus? age = some cutoff := by
  by_cases idle : ∀ record ∈ store.records, ¬record.Leased
  · exact .inl idle
  · obtain ⟨record, member, leased⟩ : ∃ record ∈ store.records,
        record.Leased := by simpa using idle
    refine .inr ⟨by simpa using idle, ?_⟩
    exact Option.isSome_iff_exists.mp (admits.led record member leased)

section Sound

variable (sound : faults.release = false)
include sound

theorem releaseStaleClaims_eq (admits : store.Admits now age) :
    store.releaseStaleClaims faults now age =
      .ok (store.records.countP fun record => record.Overdue now age,
        store.afterCall faults now (.releaseStaleClaims age)) := by
  have answers : ∃ after, store.releaseStaleClaims faults now age =
      .ok (store.records.countP fun record => record.Overdue now age,
        after) := by
    unfold releaseStaleClaims
    rw [if_neg (by simp [sound]), if_neg (not_not_intro admits.inRange)]
    rcases idle_or_led admits with idle | ⟨busy, cutoff, led⟩
    · refine ⟨store, ?_⟩
      have none : (store.records.countP fun record =>
          record.Overdue now age) = 0 := by
        refine List.countP_eq_zero.mpr fun record member overdue => ?_
        exact idle record member (of_decide_eq_true overdue).leased
      rw [if_pos (by simpa using idle), none]
    · refine ⟨(store.releaseBefore cutoff now).2, ?_⟩
      rw [if_neg busy, led, List.countP_eq_length_filter]
      simp only [releaseBefore, FileRecord.overdue_iff_stale led]
  obtain ⟨after, answers⟩ := answers
  simp only [afterCall, answers]

theorem records_release_freed (admits : store.Admits now age) :
    (store.afterCall faults now (.releaseStaleClaims age)).records =
      store.records.map (·.freed now age) := by
  rcases idle_or_led admits with idle | ⟨_, cutoff, led⟩
  · rw [afterCall_release_idle age idle, map_eq_self]
    intro record member
    apply FileRecord.freed_of_not_overdue
    exact fun overdue => idle record member overdue.leased
  · rw [records_release admits.inRange led, releasedRecords, sound]
    apply List.map_congr_left
    intro record _
    simp only [FileRecord.freed, FileRecord.overdue_iff_stale led]
    rfl

theorem get?_release (admits : store.Admits now age) (id : Uuid) :
    (store.afterCall faults now (.releaseStaleClaims age)).get? id =
      (store.get? id).map (·.freed now age) := by
  rw [get?, records_release_freed sound admits, List.find?_map]
  simp only [Function.comp_def, FileRecord.id_freed]
  rfl

theorem releases (admits : store.Admits now age) :
    Releases now age store
      (store.records.countP fun record => record.Overdue now age)
      (store.afterCall faults now (.releaseStaleClaims age)) where
  counted := rfl
  cleared := by
    intro record member overdue
    rw [get?_release sound admits, get?_of_mem member, Option.map_some,
      FileRecord.freed_of_overdue overdue]
    rfl
  kept := by
    intro id fresh
    rw [get?_release sound admits]
    cases found : store.get? id with
    | none => rfl
    | some record =>
        rw [Option.map_some, FileRecord.freed_of_not_overdue (fresh record found)]
  claimable := by
    intro record member overdue expired
    refine ⟨record.released now, ?_, overdue.1, rfl, expired⟩
    rw [get?_release sound admits, get?_of_mem member, Option.map_some,
      FileRecord.freed_of_overdue overdue]

theorem admits_release (admits : store.Admits now age)
    (others : store.Admits now second) :
    (store.afterCall faults now (.releaseStaleClaims age)).Admits now
      second := by
  refine ⟨others.inRange, fun later member leased => ?_⟩
  rw [records_release_freed sound admits] at member
  obtain ⟨record, stored, rfl⟩ := List.mem_map.mp member
  exact others.led record stored (FileRecord.leased_of_freed leased)

theorem countP_overdue_release (admits : store.Admits now age) :
    ((store.afterCall faults now (.releaseStaleClaims age)).records.countP
        fun record => record.Overdue now second) =
      store.records.countP fun record =>
        ¬record.Overdue now age ∧ record.Overdue now second := by
  rw [records_release_freed sound admits, List.countP_map]
  simp only [Function.comp_def, FileRecord.overdue_freed]

end Sound

theorem overdue_shorter (admits : store.Admits now first)
    (others : store.Admits now second) {record : FileRecord}
    (member : record ∈ store.records) :
    record.Overdue now (first.shorter second) ↔
      record.Overdue now first ∨ record.Overdue now second := by
  unfold Span.shorter
  split
  · rename_i shortens
    refine ⟨.inl, Or.rec id fun overdue => ?_⟩
    exact overdue.mono shortens (admits.led record member overdue.leased)
  · rename_i lengthens
    refine ⟨.inr, Or.rec (fun overdue => ?_) id⟩
    exact overdue.mono (by omega) (others.led record member overdue.leased)

theorem admits_shorter (admits : store.Admits now first)
    (others : store.Admits now second) :
    store.Admits now (first.shorter second) := by
  unfold Span.shorter
  split
  · exact admits
  · exact others

/-- What two releases count is what one of the shorter age does. -/
theorem countP_overdue_shorter (admits : store.Admits now first)
    (others : store.Admits now second) :
    (store.records.countP fun record => record.Overdue now first) +
        (store.records.countP fun record =>
          ¬record.Overdue now first ∧ record.Overdue now second) =
      store.records.countP fun record =>
        record.Overdue now (first.shorter second) := by
  rw [List.countP_eq_countP_filter_add store.records
    (fun record => record.Overdue now (first.shorter second))
    (fun record => record.Overdue now first), List.countP_filter,
    List.countP_filter]
  -- Of the leases that the shorter age ends, those overdue at the first age
  -- fall to the first release and all others to the second.
  congr 1
  · refine List.countP_congr fun record member => ?_
    simp only [Bool.and_eq_true, decide_eq_true_eq,
      overdue_shorter admits others member]
    tauto
  · refine List.countP_congr fun record member => ?_
    simp only [Bool.and_eq_true, Bool.not_eq_true', decide_eq_false_iff_not,
      decide_eq_true_eq, overdue_shorter admits others member]
    tauto

theorem release_release (sound : faults.release = false)
    (admits : store.Admits now first) (others : store.Admits now second) :
    (store.afterCall faults now (.releaseStaleClaims first)).afterCall faults
        now (.releaseStaleClaims second) =
      store.afterCall faults now
        (.releaseStaleClaims (first.shorter second)) := by
  apply eq_of_records
  rw [records_release_freed sound (admits_release sound admits others),
    records_release_freed sound admits,
    records_release_freed sound (admits_shorter admits others), List.map_map]
  apply List.map_congr_left
  intro record member
  exact FileRecord.freed_freed (overdue_shorter admits others member)

/-- Of two releases the second counts what the first has left to the shorter
age. -/
theorem exists_releases (sound : faults.release = false)
    (admits : store.Admits now first) (others : store.Admits now second) :
    ∃ count middle more,
      store.releaseStaleClaims faults now first = .ok (count, middle) ∧
      middle.releaseStaleClaims faults now second = .ok (more,
        store.afterCall faults now
          (.releaseStaleClaims (first.shorter second))) ∧
      count + more = store.records.countP fun record =>
        record.Overdue now (first.shorter second) := by
  have rest := admits_release sound admits others
  refine ⟨_, _, _, releaseStaleClaims_eq sound admits, ?_,
    countP_overdue_shorter admits others⟩
  rw [releaseStaleClaims_eq sound rest, countP_overdue_release sound admits,
    release_release sound admits others]

/-- Releases compose: two at one instant, in either order, leave what one of
the shorter age does, and count together what it counts; one that is repeated
finds nothing more.  Each ends just those leases that are overdue, counts them
and touches nothing else, and what it frees can be claimed if it has expired. -/
theorem releases_compose (sound : faults.release = false) :
    (∀ first second : Span, store.Admits now first → store.Admits now second →
      ∃ count middle more after other otherMiddle otherMore,
        store.releaseStaleClaims faults now first = .ok (count, middle) ∧
        middle.releaseStaleClaims faults now second = .ok (more, after) ∧
        store.releaseStaleClaims faults now second =
          .ok (other, otherMiddle) ∧
        otherMiddle.releaseStaleClaims faults now first =
          .ok (otherMore, after) ∧
        store.releaseStaleClaims faults now (first.shorter second) =
          .ok (count + more, after) ∧
        other + otherMore = count + more) ∧
    ∀ age : Span, store.Admits now age → ∃ count after,
      store.releaseStaleClaims faults now age = .ok (count, after) ∧
      after.releaseStaleClaims faults now age = .ok (0, after) ∧
      Releases now age store count after := by
  constructor
  · intro first second admits others
    obtain ⟨count, middle, more, frees, again, counts⟩ :=
      exists_releases sound admits others
    obtain ⟨other, otherMiddle, otherMore, otherFrees, otherAgain,
      otherCounts⟩ := exists_releases sound others admits
    rw [Span.shorter_comm] at otherAgain otherCounts
    refine ⟨count, middle, more, _, other, otherMiddle, otherMore, frees, again,
      otherFrees, otherAgain, ?_, otherCounts.trans counts.symm⟩
    rw [releaseStaleClaims_eq sound (admits_shorter admits others), counts]
  · intro age admits
    obtain ⟨count, middle, more, frees, again, counts⟩ :=
      exists_releases sound admits admits
    rw [Span.shorter_self] at again counts
    have whole := releaseStaleClaims_eq sound admits
    cases frees.symm.trans whole
    cases Nat.add_eq_left.mp counts
    exact ⟨_, _, whole, again, releases sound admits⟩

end RecordStore

namespace Simulation.Sample

/-- Ten minutes later one file here has been under a lease for all that time,
the other for the last 200 seconds. -/
def leased : RecordStore :=
  ⟨[{ expired with claimedAt := some .base },
    { late with claimedAt := some (.ofMillis 400000) }], by decide⟩

end Simulation.Sample

namespace RecordStore

open Simulation

/-- One lease is older than 300 seconds and both are older than 100. -/
theorem releases_compose_sample :
    let now := Instant.ofMillis 600000
    ∃ middle after,
      Sample.leased.releaseStaleClaims .none now (.ofSeconds 300) =
        .ok (1, middle) ∧
      middle.releaseStaleClaims .none now (.ofSeconds 100) = .ok (1, after) ∧
      Sample.leased.releaseStaleClaims .none now (.ofSeconds 100) =
        .ok (2, after) := by
  have sound : StoreFaults.none.release = false := rfl
  have admits (seconds : Int) (few : seconds = 300 ∨ seconds = 100) :
      Sample.leased.Admits (.ofMillis 600000) (.ofSeconds seconds) := by
    rcases few with rfl | rfl <;> exact ⟨by decide, fun _ _ _ => by decide⟩
  have shorter : (Span.ofSeconds 300).shorter (.ofSeconds 100) =
      .ofSeconds 100 := by decide
  obtain ⟨count, middle, more, after, _, _, _, frees, again, _, _, both, _⟩ :=
    (releases_compose sound).1 _ _ (admits 300 (.inl rfl))
      (admits 100 (.inr rfl))
  rw [shorter] at both
  have one : count = 1 := by
    cases (releaseStaleClaims_eq sound (admits 300 (.inl rfl))).symm.trans frees
    decide
  have two : count + more = 2 := by
    rw [releaseStaleClaims_eq sound (admits 100 (.inr rfl))] at both
    exact (Prod.mk.inj (Except.ok.inj both)).1.symm.trans (by decide)
  subst one
  obtain rfl : more = 1 := by omega
  exact ⟨middle, after, frees, again, both⟩

end RecordStore

end FileCleanup
