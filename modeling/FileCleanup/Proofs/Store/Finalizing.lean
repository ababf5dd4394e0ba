import FileCleanup.Proofs.Batch.StandIn
import FileCleanup.Proofs.Interleaving.Exchanges

namespace FileCleanup

open Time

/-! Calls that settle what has become of files do not get in each other's way:
made at one instant, they come to the same in any order. -/

namespace Call

/-- A call that a batch ends its work on a file with. -/
inductive Finalizes : Call → Prop
  | failed (id : Uuid) : Finalizes (.recordFailedAttempt id)
  | deleted (id : Uuid) : Finalizes (.softDelete id)

theorem Finalizes.stored {call : Call} (finalizes : call.Finalizes) :
    ∀ bucket key, call ≠ .deleteObject bucket key := by
  cases finalizes <;> simp

theorem Finalizes.insert {front back : List Call} (id : Uuid)
    (finalizing : ∀ call ∈ front ++ back, call.Finalizes) :
    ∀ call ∈ front ++ .softDelete id :: back, call.Finalizes := by
  intro call member
  rcases List.mem_cons.mp (List.perm_middle.mem_iff.mp member) with
    rfl | among
  · exact .deleted id
  · exact finalizing call among

/-- The identifier under which a finalizing call changes a record, unless the
call is made to fail. -/
def target? (faults : StoreFaults) : Call → Option Uuid
  | .recordFailedAttempt id => if faults.increment then none else some id
  | .softDelete id => if id ∈ faults.softDelete then none else some id
  | _ => none

end Call

namespace FileRecord

variable {faults : StoreFaults} {now : Instant} {record : FileRecord}

/-- What a finalizing call makes of the record that it is for. -/
def settled (now : Instant) (record : FileRecord) : Call → FileRecord
  | .recordFailedAttempt _ => record.withFailedAttempt now
  | .softDelete _ => record.softDeleted now
  | _ => record

@[simp] theorem id_settled (call : Call) :
    (record.settled now call).id = record.id := by
  cases call <;> simp [settled]

theorem softDeleted_withFailedAttempt (now : Instant) (record : FileRecord) :
    (record.withFailedAttempt now).softDeleted now =
      (record.softDeleted now).withFailedAttempt now := by
  by_cases live : record.Live
  · have counted : (record.withFailedAttempt now).Live := live
    rw [softDeleted_of_live live, softDeleted_of_live counted]
    rfl
  · have counted : ¬(record.withFailedAttempt now).Live := live
    rw [softDeleted_of_not_live live, softDeleted_of_not_live counted]

theorem softDeleted_softDeleted (now : Instant) (record : FileRecord) :
    (record.softDeleted now).softDeleted now = record.softDeleted now :=
  softDeleted_of_not_live (not_live_softDeleted now record) now

theorem settled_comm (left right : Call) :
    (record.settled now left).settled now right =
      (record.settled now right).settled now left := by
  cases left <;> cases right <;>
    simp only [settled, softDeleted_withFailedAttempt]

/-- What a finalizing call makes of any record. -/
def finalized (faults : StoreFaults) (now : Instant) (call : Call)
    (record : FileRecord) : FileRecord :=
  if call.target? faults = some record.id then record.settled now call
  else record

theorem finalized_comm (left right : Call) (record : FileRecord) :
    (record.finalized faults now left).finalized faults now right =
      (record.finalized faults now right).finalized faults now left := by
  unfold finalized
  by_cases first : left.target? faults = some record.id <;>
    by_cases second : right.target? faults = some record.id <;>
    simp only [first, second, if_true, if_false, id_settled]
  exact settled_comm left right

theorem finalized_softDelete_twice (id : Uuid) (record : FileRecord) :
    (record.finalized faults now (.softDelete id)).finalized faults now
        (.softDelete id) =
      record.finalized faults now (.softDelete id) := by
  unfold finalized
  by_cases hit : (Call.softDelete id).target? faults = some record.id
  · simp only [hit, if_true, id_settled]
    exact softDeleted_softDeleted now record
  · simp only [hit, if_false]

end FileRecord

namespace RecordStore

variable {store : RecordStore} {faults : StoreFaults} {now : Instant}

theorem records_recordFailedAttempt_eq (id : Uuid) :
    (store.afterCall faults now (.recordFailedAttempt id)).records =
      store.records.map (·.finalized faults now (.recordFailedAttempt id)) := by
  by_cases faulty : faults.increment
  · simp [afterCall, recordFailedAttempt, FileRecord.finalized, Call.target?,
      faulty]
  by_cases unknown : (store.get? id).isNone
  · have same : store.afterCall faults now (.recordFailedAttempt id) =
        store := by
      simp [afterCall, recordFailedAttempt, faulty, unknown]
    rw [same, map_eq_self]
    intro record member
    refine if_neg fun hit => ?_
    have named : id = record.id := by simpa [Call.target?, faulty] using hit
    rw [named, get?_of_mem member] at unknown
    cases unknown
  · simp only [afterCall, recordFailedAttempt, faulty, unknown]
    apply List.map_congr_left
    intro record _
    simp [changeAt, FileRecord.finalized, Call.target?, faulty, eq_comm,
      FileRecord.settled]

theorem records_softDelete_eq (id : Uuid) :
    (store.afterCall faults now (.softDelete id)).records =
      store.records.map (·.finalized faults now (.softDelete id)) := by
  by_cases faulty : id ∈ faults.softDelete
  · simp [afterCall, softDelete, FileRecord.finalized, Call.target?, faulty]
  · simp only [afterCall, softDelete, faulty]
    apply List.map_congr_left
    intro record _
    simp [changeAt, FileRecord.finalized, Call.target?, faulty, eq_comm,
      FileRecord.settled]

theorem records_finalize {call : Call} (finalizes : call.Finalizes) :
    (store.afterCall faults now call).records =
      store.records.map (·.finalized faults now call) := by
  cases finalizes with
  | failed id => exact records_recordFailedAttempt_eq id
  | deleted id => exact records_softDelete_eq id

theorem afterCall_comm {left right : Call} (finalizes : left.Finalizes)
    (finalizesOther : right.Finalizes) (store : RecordStore) :
    (store.afterCall faults now left).afterCall faults now right =
      (store.afterCall faults now right).afterCall faults now left := by
  apply eq_of_records
  rw [records_finalize finalizesOther, records_finalize finalizes,
    records_finalize finalizes, records_finalize finalizesOther, List.map_map,
    List.map_map]
  exact List.map_congr_left fun record _ =>
    FileRecord.finalized_comm left right record

theorem afterCall_softDelete_twice (id : Uuid) (store : RecordStore) :
    (store.afterCall faults now (.softDelete id)).afterCall faults now
        (.softDelete id) =
      store.afterCall faults now (.softDelete id) := by
  apply eq_of_records
  rw [records_softDelete_eq, records_softDelete_eq, List.map_map]
  exact List.map_congr_left fun record _ =>
    FileRecord.finalized_softDelete_twice id record

/-- The store after calls made at one instant. -/
def afterCalls (store : RecordStore) (faults : StoreFaults) (now : Instant)
    (calls : List Call) : RecordStore :=
  calls.foldl (fun store call => store.afterCall faults now call) store

theorem afterCalls_perm {calls others : List Call}
    (finalizing : ∀ call ∈ calls, call.Finalizes) (same : others.Perm calls)
    (store : RecordStore) :
    store.afterCalls faults now others = store.afterCalls faults now calls := by
  refine (same.symm.foldl_eq' ?_ store).symm
  intro left member right otherMember store
  exact afterCall_comm (finalizing left member) (finalizing right otherMember)
    store

/-- A soft-delete that is among the calls already makes no difference when it is
made again, wherever that is. -/
theorem afterCalls_softDelete_again {front back : List Call} {id : Uuid}
    (finalizing : ∀ call ∈ front ++ back, call.Finalizes)
    (made : .softDelete id ∈ front ++ back) (store : RecordStore) :
    store.afterCalls faults now (front ++ .softDelete id :: back) =
      store.afterCalls faults now (front ++ back) := by
  let rest := (front ++ back).erase (.softDelete id)
  have kept : (.softDelete id :: rest).Perm (front ++ back) :=
    (List.perm_cons_erase made).symm
  have doubled : (.softDelete id :: .softDelete id :: rest).Perm
      (front ++ .softDelete id :: back) :=
    (kept.cons _).trans List.perm_middle.symm
  have settles := Call.Finalizes.insert id finalizing
  rw [← afterCalls_perm settles doubled, ← afterCalls_perm finalizing kept]
  simp only [afterCalls, List.foldl_cons, afterCall_softDelete_twice]

end RecordStore

namespace Simulation.World

variable {call : Call} {calls : List Call}

/-- Makes calls one after the other, and keeps what each of them is answered. -/
def answerAll (world : World) : List Call → List Exchange × World
  | [] => ([], world)
  | call :: calls =>
    let answered := answer call world
    let others := answered.2.answerAll calls
    (⟨call, answered.1⟩ :: others.1, others.2)

/-- A call, and what it is answered if it comes first. -/
def exchange (world : World) (call : Call) : Exchange :=
  ⟨call, (answer call world).1⟩

/-- What a finalizing call is answered depends on the failures that are switched
on and on whether there is such a record. -/
theorem exchange_congr {left right : World} (finalizes : call.Finalizes)
    (faults : left.faults = right.faults)
    (known : ∀ id, (left.store.get? id).isSome = (right.store.get? id).isSome) :
    left.exchange call = right.exchange call := by
  cases finalizes with
  | failed id =>
      have unknown : (left.store.get? id).isNone =
          (right.store.get? id).isNone := by
        rw [← Option.not_isSome, ← Option.not_isSome, known]
      simp only [exchange, answer, reported, recordFailedAttempt, storeAnswer,
        RecordStore.recordFailedAttempt, faults, unknown]
      by_cases faulty : right.faults.increment
      · simp [faulty, Except.map]
      · by_cases missing : (right.store.get? id).isNone <;>
          simp [faulty, missing, Except.map]
  | deleted id =>
      simp only [exchange, answer, reported, softDelete, storeAnswer,
        RecordStore.softDelete, faults]
      by_cases faulty : id ∈ right.faults.softDelete <;>
        simp [faulty, Except.map]

theorem exchange_answer {other : Call} (finalizes : call.Finalizes)
    (finalizesOther : other.Finalizes) (world : World) :
    (answer other world).2.exchange call = world.exchange call := by
  have beside := world.beside_answer finalizesOther.stored
  refine exchange_congr finalizes beside.faults fun id => ?_
  rw [store_answer, Bool.eq_iff_iff, RecordStore.isSome_get?_afterCall]

theorem answers_finalizing (finalizing : ∀ call ∈ calls, call.Finalizes)
    (world : World) :
    (world.answerAll calls).1 = calls.map world.exchange := by
  induction calls generalizing world with
  | nil => rfl
  | cons call calls induction =>
      have others := fun call member =>
        finalizing call (List.mem_cons_of_mem _ member)
      rw [List.map_cons, answerAll, induction others]
      refine congrArg (world.exchange call :: ·) (List.map_congr_left ?_)
      intro other member
      exact exchange_answer (others other member)
        (finalizing call List.mem_cons_self) world

theorem store_answerAll (finalizing : ∀ call ∈ calls, call.Finalizes)
    (world : World) :
    (world.answerAll calls).2.store =
      world.store.afterCalls world.faults world.now calls := by
  induction calls generalizing world with
  | nil => rfl
  | cons call calls induction =>
      have beside := world.beside_answer
        (finalizing call List.mem_cons_self).stored
      rw [answerAll, induction fun call member =>
        finalizing call (List.mem_cons_of_mem _ member), store_answer,
        beside.faults, beside.now]
      rfl

/-- Finalizing calls at one instant commute: in whatever order they are made,
each is answered as if it came first, and the records are the same in the end.
A soft-delete that is made once more changes nothing. -/
theorem finalizing_commutes (world : World)
    (finalizing : ∀ call ∈ calls, call.Finalizes) :
    (∀ others : List Call, others.Perm calls →
      (world.answerAll others).1 = others.map world.exchange ∧
      (world.answerAll others).2.store = (world.answerAll calls).2.store) ∧
    ∀ (front : List Call) (id : Uuid) (back : List Call),
      calls = front ++ back → .softDelete id ∈ calls →
      let again := front ++ .softDelete id :: back
      (world.answerAll again).1 = again.map world.exchange ∧
      (world.answerAll again).2.store = (world.answerAll calls).2.store := by
  constructor
  · intro others same
    have settles : ∀ call ∈ others, call.Finalizes :=
      fun call member => finalizing call (same.mem_iff.mp member)
    refine ⟨answers_finalizing settles world, ?_⟩
    rw [store_answerAll settles, store_answerAll finalizing,
      RecordStore.afterCalls_perm finalizing same]
  · rintro front id back rfl made
    have settles := Call.Finalizes.insert id finalizing
    refine ⟨answers_finalizing settles world, ?_⟩
    rw [store_answerAll settles, store_answerAll finalizing,
      RecordStore.afterCalls_softDelete_again finalizing made]

/-- One file has a failed attempt and is deleted, twice; another is unknown. -/
def Sample.settling : List Call :=
  [.softDelete (.ofNat 1), .recordFailedAttempt (.ofNat 7),
    .recordFailedAttempt (.ofNat 1), .softDelete (.ofNat 1)]

theorem finalizing_commutes_sample :
    let calls := Sample.settling
    let reversed := Sample.pair.answerAll calls.reverse
    reversed.1 = calls.reverse.map Sample.pair.exchange ∧
      reversed.2.store = (Sample.pair.answerAll calls).2.store ∧
      (reversed.2.store.get? (.ofNat 1)).map (·.failedAttempts) = some 1 := by
  have finalizing : ∀ call ∈ Sample.settling, call.Finalizes := by
    simp [Sample.settling, Call.Finalizes.failed, Call.Finalizes.deleted]
  obtain ⟨answered, same⟩ := (finalizing_commutes Sample.pair finalizing).1
    _ (List.reverse_perm Sample.settling)
  refine ⟨answered, same, ?_⟩
  rw [same]
  decide

end Simulation.World

end FileCleanup
