import FileCleanup.Proofs.Database.Attempts
import FileCleanup.Proofs.Store.World

namespace FileCleanup

open Time

/-! A claim hands out every row that the server answers it with, or none at all
and then it is rolled back. -/

namespace Row

open FileRecord

/-- A column that is there, and null only if it may be. -/
def Has (row : Row) (field : Field) : Prop :=
  match row field with
  | .absent => False
  | .null => field = .expiresAt ∨ field = .deletedAt ∨ field = .claimedAt
  | .value _ => True

def Readable (row : Row) : Prop :=
  ∀ field, row.Has field

private theorem eq_ok_of_bind {Failure Found Value : Type}
    {first : Except Failure Found} {rest : Found → Except Failure Value}
    {value : Value} (succeeds : first >>= rest = .ok value) :
    ∃ found, first = .ok found ∧ rest found = .ok value := by
  cases first with
  | error fault => cases succeeds
  | ok found => exact ⟨found, rfl, succeeds⟩

theorem column_of_decode {row : Row} {file : FileRecord}
    (decodes : row.decode = .ok file) (field : Field) :
    row.column field = .ok (file.value field) := by
  unfold decode at decodes
  obtain ⟨_, id, decodes⟩ := eq_ok_of_bind decodes
  obtain ⟨_, tenant, decodes⟩ := eq_ok_of_bind decodes
  obtain ⟨_, bucket, decodes⟩ := eq_ok_of_bind decodes
  obtain ⟨_, storageKey, decodes⟩ := eq_ok_of_bind decodes
  obtain ⟨_, originalFilename, decodes⟩ := eq_ok_of_bind decodes
  obtain ⟨_, contentType, decodes⟩ := eq_ok_of_bind decodes
  obtain ⟨_, fileSize, decodes⟩ := eq_ok_of_bind decodes
  obtain ⟨_, expiresAt, decodes⟩ := eq_ok_of_bind decodes
  obtain ⟨_, deletedAt, decodes⟩ := eq_ok_of_bind decodes
  obtain ⟨_, claimedAt, decodes⟩ := eq_ok_of_bind decodes
  obtain ⟨_, failedAttempts, decodes⟩ := eq_ok_of_bind decodes
  obtain ⟨_, createdAt, decodes⟩ := eq_ok_of_bind decodes
  obtain ⟨_, updatedAt, decodes⟩ := eq_ok_of_bind decodes
  cases decodes
  cases field <;> assumption

theorem decode_of_columns {row : Row} {file : FileRecord}
    (columns : ∀ field, row.column field = .ok (file.value field)) :
    row.decode = .ok file := by
  simp only [decode, columns]
  rfl

theorem exists_column_iff (row : Row) (field : Field) :
    (∃ value, row.column field = .ok value) ↔ row.Has field := by
  unfold column Has
  cases row field with
  | absent => simp
  | null =>
      cases field
      case expiresAt | deletedAt | claimedAt =>
        exact iff_of_true ⟨none, rfl⟩ (by decide)
      all_goals exact iff_of_false (by rintro ⟨_, ⟨⟩⟩) (by decide)
  | value value => simp

theorem exists_decode_iff {row : Row} :
    (∃ file, row.decode = .ok file) ↔ row.Readable := by
  constructor
  · rintro ⟨file, decodes⟩ field
    exact (row.exists_column_iff field).mp ⟨_, column_of_decode decodes field⟩
  · intro readable
    obtain ⟨value, columns⟩ := Classical.skolem.mp fun field =>
      (row.exists_column_iff field).mpr (readable field)
    refine ⟨⟨value .id, value .tenant, value .bucket, value .storageKey,
      value .originalFilename, value .contentType, value .fileSize,
      value .expiresAt, value .deletedAt, value .claimedAt,
      value .failedAttempts, value .createdAt, value .updatedAt⟩, ?_⟩
    refine decode_of_columns fun field => ?_
    cases field <;> exact columns _

theorem readable_ofRecord (record : FileRecord) : (ofRecord record).Readable :=
  exists_decode_iff.mp ⟨record, decode_ofRecord record⟩

/-- Rows are read up to the first one that is no record. -/
theorem mapM_decode_cases (rows : List Row) :
    ((∀ row ∈ rows, row.Readable) ∧ ∃ files, rows.mapM decode = .ok files) ∨
      ∃ front row rest fault, rows = front ++ row :: rest ∧
        (∀ other ∈ front, other.Readable) ∧ ¬row.Readable ∧
        row.decode = .error fault ∧ rows.mapM decode = .error fault := by
  induction rows with
  | nil => exact .inl ⟨by simp, [], rfl⟩
  | cons row rows induction =>
      cases first : row.decode with
      | error fault =>
          have unreadable : ¬row.Readable := by
            rw [← exists_decode_iff, first]
            rintro ⟨_, ⟨⟩⟩
          refine .inr ⟨[], row, rows, fault, rfl, by simp, unreadable, first, ?_⟩
          rw [List.mapM_cons, first]
          rfl
      | ok file =>
          have readable := exists_decode_iff.mp ⟨file, first⟩
          obtain ⟨each, files, reads⟩ |
            ⟨front, other, rest, fault, rfl, each, unreadable, fails, reads⟩ :=
              induction
          · refine .inl ⟨List.forall_mem_cons.mpr ⟨readable, each⟩,
              file :: files, ?_⟩
            rw [List.mapM_cons, first, reads]
            rfl
          · refine .inr ⟨row :: front, other, rest, fault, rfl,
              List.forall_mem_cons.mpr ⟨readable, each⟩, unreadable, fails, ?_⟩
            rw [List.mapM_cons, first, reads]
            rfl

theorem exists_mapM_decode {rows : List Row}
    (each : ∀ row ∈ rows, ∃ file, row.decode = .ok file) :
    ∃ files, rows.mapM decode = .ok files := by
  obtain ⟨_, reads⟩ | ⟨front, row, rest, _, rfl, _, unreadable, _⟩ :=
    mapM_decode_cases rows
  · exact reads
  · have member : row ∈ front ++ row :: rest := by simp
    exact absurd (exists_decode_iff.mp (each row member)) unreadable

end Row

namespace FileRecord

theorem expiresNoLater_iff {first second : FileRecord} :
    first.expiresNoLater second ↔
      ∀ expiry, first.expiresAt = some expiry →
        ∃ later, second.expiresAt = some later ∧ expiry ≤ later := by
  unfold expiresNoLater
  cases first.expiresAt with
  | none => simp
  | some expiry => cases second.expiresAt <;> simp

theorem filter_mergeSort (files : List FileRecord) (expiry : Option Instant) :
    (files.mergeSort expiresNoLater).filter (·.expiresAt = expiry) =
      files.filter (·.expiresAt = expiry) := by
  have ordered : (files.filter (·.expiresAt = expiry)).Pairwise
      fun first second => first.expiresNoLater second := by
    refine List.pairwise_of_forall_mem_list fun first member other also => ?_
    have same : first.expiresAt = other.expiresAt :=
      (of_decide_eq_true (List.mem_filter.mp member).2).trans
        (of_decide_eq_true (List.mem_filter.mp also).2).symm
    rw [expiresNoLater_iff, same]
    exact fun expiry expires => ⟨expiry, expires, Instant.le_iff.mpr (Int.le_refl _)⟩
  have kept := List.sublist_mergeSort expiresNoLater_trans expiresNoLater_total
    ordered List.filter_sublist
  have within := kept.filter (·.expiresAt = expiry)
  rw [List.filter_filter] at within
  simp only [Bool.and_self] at within
  refine (within.eq_of_length ?_).symm
  exact ((List.mergeSort_perm files _).filter _).length_eq.symm

end FileRecord

namespace Session

variable (session : Session) (limit : Int)

/-- A claim that cannot be read fails with what is wrong with its first such
row. -/
theorem claimExpired_of_unreadable (isOpen : session.isOpen = true)
    (begins : (session.scriptAt 0).beginFault = none)
    (executes : (session.scriptAt 0).fault = none) {fault : DatabaseError}
    (fails : (session.scriptAt 0).rows.mapM Row.decode = .error fault) :
    (session.claimExpired limit).1 =
      .error (fault.report.within "Failed to claim expired files") := by
  obtain ⟨_, _, transacts, _⟩ := withTransaction_ofStatement_transacts session
    (.claimExpired limit) (fun script => script.rows.mapM Row.decode) isOpen
  obtain ⟨concludes, _⟩ :=
    (Operation.claimExpired limit).perform_concludes session
  rw [begun_fst] at transacts
  refine concludes.explains transacts begins ?_
  simp only [TransactionBody.ofStatement, execute, executes]
  change ((session.scriptAt 0).rows.mapM Row.decode).mapError _ = _
  rw [fails]
  rfl

theorem sent_claimExpired (isOpen : session.isOpen = true)
    (executes : (session.scriptAt 0).fault = none) :
    (session.claimExpired limit).2.sent = session.sent ++
      (session.scriptAt 0).conversation [.claimExpired limit]
        (session.readable 0) := by
  rw [(session.passes_claimExpired limit).sent, attempt, if_pos isOpen,
    executes, Option.isNone_none, Bool.true_and]

/-- If every row that answers a claim can be read and the commit succeeds, the
claim hands out just these rows by their expiry, with those that never expire
first and those that expire together as the server sent them.  If any row cannot
be read, no row is handed out and the claim is rolled back. -/
theorem claimExpired_hands_out_rows (isOpen : session.isOpen = true)
    (begins : (session.scriptAt 0).beginFault = none)
    (executes : (session.scriptAt 0).fault = none) :
    let rows := (session.scriptAt 0).rows
    let claimed := session.claimExpired limit
    ((∀ row ∈ rows, row.Readable) → (session.scriptAt 0).commitFault = none →
      ∃ decoded files, rows.map Row.decode = decoded.map .ok ∧
        claimed.1 = .ok files ∧ files.Perm decoded ∧
        files.Pairwise (fun first second =>
          ∀ expiry, first.expiresAt = some expiry →
            ∃ later, second.expiresAt = some later ∧ expiry ≤ later) ∧
        (∀ expiry, files.filter (·.expiresAt = expiry) =
          decoded.filter (·.expiresAt = expiry)) ∧
        claimed.2.sent = session.sent ++
          [.begin, .statement (.claimExpired limit), .commit]) ∧
    (¬(∀ row ∈ rows, row.Readable) →
      (∃ front row rest fault, rows = front ++ row :: rest ∧
        (∀ other ∈ front, other.Readable) ∧ ¬row.Readable ∧
        row.decode = .error fault ∧
        claimed.1 = .error
          (fault.report.within "Failed to claim expired files")) ∧
      claimed.2.sent = session.sent ++
        [.begin, .statement (.claimExpired limit), .rollback]) := by
  intro rows claimed
  have sent := session.sent_claimExpired limit isOpen executes
  rw [readable] at sent
  obtain ⟨each, decoded, reads⟩ |
    ⟨front, row, rest, fault, split, each, unreadable, fails, reads⟩ :=
      Row.mapM_decode_cases rows
  · refine ⟨fun _ commits => ?_, fun unreadable => absurd each unreadable⟩
    have succeeds := session.isOk_claimExpired limit
    rw [readable, reads, Session.commits, isOpen, begins, executes,
      commits] at succeeds
    obtain ⟨files, claims⟩ := exists_eq_ok succeeds
    obtain ⟨_, same, rfl⟩ := session.mergeSort_of_claimExpired limit claims
    cases reads.symm.trans same
    refine ⟨decoded, _, Row.map_decode reads, claims,
      List.mergeSort_perm decoded _, ?_, FileRecord.filter_mergeSort decoded,
      ?_⟩
    · exact (List.pairwise_mergeSort FileRecord.expiresNoLater_trans
        FileRecord.expiresNoLater_total decoded).imp
          FileRecord.expiresNoLater_iff.mp
    · rw [sent, reads]
      simp [Script.conversation, begins, commits, Except.isOk, Except.toBool]
  · refine ⟨fun all => absurd (all row (split ▸ ?_)) unreadable, fun _ =>
      ⟨⟨front, row, rest, fault, split, each, unreadable, fails,
        session.claimExpired_of_unreadable limit isOpen begins executes reads⟩,
        ?_⟩⟩
    · exact List.mem_append_right front List.mem_cons_self
    · rw [sent, reads]
      simp [Script.conversation, begins, Except.isOk, Except.toBool]

/-- A server that returns two files that expire together around one that never
does. -/
def Sample.answered : Session :=
  .start [{ Script.quiet with
    rows := [.ofRecord Simulation.Sample.late,
      .ofRecord Simulation.Sample.permanent,
      .ofRecord Simulation.Sample.expired] }]

open Simulation.Sample in
theorem claimExpired_hands_out_rows_sample :
    (∃ files, (Sample.answered.claimExpired 5).1 = .ok files ∧
      files.Perm [late, permanent, expired] ∧
      files.filter (·.expiresAt = some .base) = [late, expired]) ∧
    ((start [Sample.unreadable]).claimExpired 5).2.sent =
      [.begin, .statement (.claimExpired 5), .rollback] := by
  constructor
  · obtain ⟨handsOut, _⟩ :=
      Sample.answered.claimExpired_hands_out_rows 5 rfl rfl rfl
    have readable : ∀ row ∈ (Sample.answered.scriptAt 0).rows, row.Readable :=
      List.forall_mem_cons.mpr ⟨Row.readable_ofRecord _,
        List.forall_mem_cons.mpr ⟨Row.readable_ofRecord _,
          List.forall_mem_singleton.mpr (Row.readable_ofRecord _)⟩⟩
    obtain ⟨decoded, files, decodes, claims, same, _, together, _⟩ :=
      handsOut readable rfl
    have rows : decoded = [late, permanent, expired] :=
      (List.map_inj_right fun _ _ => Except.ok.inj).mp decodes.symm
    subst rows
    exact ⟨files, claims, same, together (some .base)⟩
  · obtain ⟨_, withholds⟩ :=
      (start [Sample.unreadable]).claimExpired_hands_out_rows 5 rfl rfl rfl
    exact (withholds fun all => all _ List.mem_cons_self .id).2

end Session

end FileCleanup
