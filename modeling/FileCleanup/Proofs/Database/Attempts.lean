import FileCleanup.Proofs.Database.Operations

namespace FileCleanup

/-! What one transaction of one statement sends to a server, and when it
succeeds. -/

namespace Script.Transacts

variable {Value : Type} {script : Script} {statements : List Statement}
  {messages : List Message} {yielded answered : Except Report Value}
  (transacts : script.Transacts statements yielded messages answered)
include transacts

theorem isOk_eq :
    answered.isOk = (script.beginFault.isNone && yielded.isOk &&
      script.commitFault.isNone) := by
  cases transacts with
  | refused refuses =>
      simp only [refuses]
      rfl
  | committed begins commits => simp [begins, commits]
  | uncommitted begins fails =>
      rw [fails, Option.isNone_some, Bool.and_false]
      rfl
  | rolledBack begins => simp [Except.isOk, Except.toBool]

theorem eq_ok {value : Value} (succeeds : answered = .ok value) :
    yielded = .ok value := by
  cases transacts with
  | committed => exact succeeds
  | _ => cases succeeds

end Script.Transacts

theorem exists_eq_ok {Failure Value : Type}
    {result : Except Failure Value} (succeeds : result.isOk = true) :
    ∃ value, result = .ok value := by
  cases result with
  | error cause => cases succeeds
  | ok value => exact ⟨value, rfl⟩

theorem FileRecord.expiresNoLater_trans (first second third : FileRecord)
    (earlier : first.expiresNoLater second)
    (later : second.expiresNoLater third) : first.expiresNoLater third := by
  unfold expiresNoLater at *
  generalize first.expiresAt = first at *
  generalize second.expiresAt = second at *
  generalize third.expiresAt = third at *
  cases first with
  | none => rfl
  | some first =>
      cases second with
      | none => cases earlier
      | some second =>
          cases third with
          | none => cases later
          | some third =>
              simp only [decide_eq_true_eq, Time.Instant.le_iff] at *
              omega

theorem FileRecord.expiresNoLater_total (first second : FileRecord) :
    first.expiresNoLater second || second.expiresNoLater first := by
  unfold expiresNoLater
  cases first.expiresAt with
  | none => rfl
  | some first =>
      cases second.expiresAt with
      | none => rfl
      | some second =>
          simp only [Bool.or_eq_true, decide_eq_true_eq, Time.Instant.le_iff]
          omega

namespace Session

/-- The script of a transaction to come, counted from the next one. -/
def scriptAt (session : Session) (place : Nat) : Script :=
  session.scripts[place]?.getD .quiet

/-- What goes out for the transaction at a place, if it is for one statement
whose reply can or cannot be read. -/
def attempt (session : Session) (place : Nat) (statement : Statement)
    (readable : Bool) : List Message :=
  if session.isOpen then
    (session.scriptAt place).conversation [statement]
      ((session.scriptAt place).fault.isNone && readable)
  else []

/-- Whether that transaction begins, carries its statement out and commits. -/
def commits (session : Session) (place : Nat) (readable : Bool) : Bool :=
  session.isOpen && ((session.scriptAt place).beginFault.isNone &&
    ((session.scriptAt place).fault.isNone && readable) &&
    (session.scriptAt place).commitFault.isNone)

/-- Some transactions further on. -/
structure Later (before after : Session) (count : Nat) : Prop where
  isOpen : after.isOpen = before.isOpen
  scripts : before.isOpen → after.scripts = before.scripts.drop count

namespace Later

variable {before after : Session} {count : Nat}
  (later : before.Later after count)
include later

theorem scriptAt_eq (isOpen : before.isOpen) (place : Nat) :
    after.scriptAt place = before.scriptAt (place + count) := by
  rw [scriptAt, later.scripts isOpen, List.getElem?_drop, Nat.add_comm]
  rfl

theorem attempt_eq (place : Nat) (statement : Statement) (readable : Bool) :
    after.attempt place statement readable =
      before.attempt (place + count) statement readable := by
  unfold attempt
  rw [later.isOpen]
  split
  · rename_i isOpen
    rw [later.scriptAt_eq isOpen]
  · rfl

theorem commits_eq (place : Nat) (readable : Bool) :
    after.commits place readable =
      before.commits (place + count) readable := by
  unfold commits
  rw [later.isOpen]
  cases isOpen : before.isOpen with
  | false => simp
  | true => rw [later.scriptAt_eq isOpen]

theorem trans {last : Session} {more : Nat} (further : after.Later last more) :
    before.Later last (count + more) where
  isOpen := further.isOpen.trans later.isOpen
  scripts isOpen := by
    rw [further.scripts (later.isOpen.trans isOpen), later.scripts isOpen,
      List.drop_drop]

end Later

/-- One transaction further on. -/
structure Passes (before after : Session) (messages : List Message) : Prop
    extends Later before after 1 where
  sent : after.sent = before.sent ++ messages

theorem begun_fst (session : Session) :
    session.begun.1 = session.scriptAt 0 := by
  change session.next.1 = _
  rw [next_fst, List.head?_eq_getElem?]
  rfl

section OfStatement

variable {Value : Type} (session : Session) (statement : Statement)
  (read : Script → Except DatabaseError Value)

theorem withTransaction_ofStatement_transacts (isOpen : session.isOpen = true) :
    ∃ (messages : List Message) (events : List LogEvent),
      session.begun.1.Transacts [statement]
        (TransactionBody.ofStatement statement read session.begun.1
          session.begun.2).1
        messages (session.withTransaction (.ofStatement statement read)).1 ∧
      (session.withTransaction (.ofStatement statement read)).2 =
        { session.next.2 with
          sent := session.sent ++ messages
          events := session.events ++ events } := by
  obtain ⟨statements, messages, events, sends, transacts, ends⟩ :=
    withTransaction_transacts isOpen
      (TransactionBody.inStatements_ofStatement statement read)
  cases TransactionBody.eq_singleton_of_sends sends
  exact ⟨messages, events, transacts, ends⟩

/-- A transaction of one statement, as the pool and the server leave it. -/
theorem withTransaction_ofStatement :
    let answered := session.withTransaction (.ofStatement statement read)
    let readable := (read (session.scriptAt 0)).isOk
    session.Passes answered.2 (session.attempt 0 statement readable) ∧
      answered.1.isOk = session.commits 0 readable ∧
      ∀ value, answered.1 = .ok value →
        read (session.scriptAt 0) = .ok value := by
  dsimp only
  cases isOpen : session.isOpen with
  | false =>
      rw [withTransaction, if_neg (by simp [isOpen])]
      refine ⟨⟨⟨rfl, by simp [isOpen]⟩, by simp [attempt, isOpen]⟩, ?_, ?_⟩
      · simp [commits, isOpen, Except.isOk, Except.toBool]
      · rintro value ⟨⟩
  | true =>
      obtain ⟨messages, events, transacts, ends⟩ :=
        withTransaction_ofStatement_transacts session statement read isOpen
      have told := transacts.messages_eq
      have succeeds := transacts.isOk_eq
      rw [TransactionBody.fst_ofStatement, Script.isOk_reply, begun_fst]
        at told succeeds
      refine ⟨⟨⟨?_, fun _ => ?_⟩, ?_⟩, ?_, ?_⟩
      · rw [ends]
        simp
      · rw [ends]
        simp
      · rw [ends, told, attempt, if_pos isOpen]
      · rw [succeeds, commits, isOpen, Bool.true_and]
      · intro value answers
        rw [← begun_fst]
        have yields := transacts.eq_ok answers
        rw [TransactionBody.fst_ofStatement] at yields
        exact (Script.eq_ok_of_reply yields).2

end OfStatement

theorem Passes.perform {session : Session} (operation : Operation)
    {messages : List Message}
    (passes : session.Passes (session.withTransaction operation.body).2
      messages) :
    session.Passes (operation.perform session).2 messages := by
  obtain ⟨_, events, performs⟩ := operation.perform_concludes session
  rw [performs]
  exact ⟨⟨passes.isOpen, passes.scripts⟩, passes.sent⟩

theorem passes_releaseStaleClaims (session : Session) (age : Time.Span) :
    session.Passes (session.releaseStaleClaims age).2
      (session.attempt 0 (.releaseStaleClaims age) true) :=
  Passes.perform (.releaseStaleClaims age)
    (session.withTransaction_ofStatement _ _).1

theorem passes_recordFailedAttempt (session : Session) (id : Uuid) :
    session.Passes (session.recordFailedAttempt id).2
      (session.attempt 0 (.recordFailedAttempt id) true) :=
  Passes.perform (.recordFailedAttempt id)
    (session.withTransaction_ofStatement _ _).1

theorem passes_softDelete (session : Session) (id : Uuid) :
    session.Passes (session.softDelete id).2
      (session.attempt 0 (.softDelete id) true) :=
  Passes.perform (.softDelete id)
    (session.withTransaction_ofStatement _ _).1

theorem Operation.Concludes.isOk_eq {operation : Operation}
    {result : Except Report operation.Yield}
    {answered : Except Report operation.Answer}
    (concludes : operation.Concludes result answered)
    (hits : ∀ value, ¬operation.Misses value) :
    answered.isOk = result.isOk := by
  cases concludes with
  | failed cause => rfl
  | done value answer => rfl
  | missed misses cause => exact absurd misses (hits _)

theorem isOk_softDelete (session : Session) (id : Uuid) :
    (session.softDelete id).1.isOk = session.commits 0 true := by
  obtain ⟨_, succeeds, _⟩ := session.withTransaction_ofStatement
    (.softDelete id) fun script => .ok script.affected
  obtain ⟨concludes, _⟩ := (Operation.softDelete id).perform_concludes session
  have answers := concludes.isOk_eq fun _ => False.elim
  exact answers.trans succeeds

section Claim

variable (session : Session) (limit : Int)

/-- Whether all rows that a claim is answered with can be read. -/
def readable (place : Nat) : Bool :=
  ((session.scriptAt place).rows.mapM Row.decode).isOk

theorem passes_claimExpired :
    session.Passes (session.claimExpired limit).2
      (session.attempt 0 (.claimExpired limit) (session.readable 0)) :=
  Passes.perform (.claimExpired limit)
    (session.withTransaction_ofStatement _ _).1

theorem isOk_claimExpired :
    (session.claimExpired limit).1.isOk =
      session.commits 0 (session.readable 0) := by
  obtain ⟨_, succeeds, _⟩ := session.withTransaction_ofStatement
    (.claimExpired limit) fun script => script.rows.mapM Row.decode
  obtain ⟨concludes, _⟩ :=
    (Operation.claimExpired limit).perform_concludes session
  have answers := concludes.isOk_eq fun _ => False.elim
  exact answers.trans succeeds

theorem Later.attempt_readable {before after : Session} {count : Nat}
    (later : before.Later after count) (place : Nat) (statement : Statement) :
    after.attempt place statement (after.readable place) =
      before.attempt (place + count) statement
        (before.readable (place + count)) := by
  rw [later.attempt_eq]
  cases isOpen : before.isOpen with
  | false => simp [attempt, isOpen]
  | true => rw [readable, later.scriptAt_eq isOpen, readable]

theorem Later.commits_readable {before after : Session} {count : Nat}
    (later : before.Later after count) (place : Nat) :
    after.commits place (after.readable place) =
      before.commits (place + count) (before.readable (place + count)) := by
  rw [later.commits_eq]
  cases isOpen : before.isOpen with
  | false => simp [commits, isOpen]
  | true => rw [readable, later.scriptAt_eq isOpen, readable]

/-- The files of a claim are the rows it was answered with, sorted by expiry. -/
theorem mergeSort_of_claimExpired {files : List FileRecord}
    (claims : (session.claimExpired limit).1 = .ok files) :
    ∃ decoded, (session.scriptAt 0).rows.mapM Row.decode = .ok decoded ∧
      files = decoded.mergeSort FileRecord.expiresNoLater := by
  obtain ⟨_, _, reads⟩ := session.withTransaction_ofStatement
    (.claimExpired limit) fun script => script.rows.mapM Row.decode
  unfold claimExpired at claims
  generalize session.withTransaction _ = answered at claims reads
  obtain ⟨result, after⟩ := answered
  cases result with
  | error cause => cases claims
  | ok decoded =>
      cases claims
      exact ⟨decoded, reads decoded rfl, rfl⟩

theorem files_of_claimExpired {files : List FileRecord}
    (claims : (session.claimExpired limit).1 = .ok files) :
    (files.map .ok).Perm ((session.scriptAt 0).rows.map Row.decode) ∧
      files.Pairwise (fun first second => first.expiresNoLater second) := by
  obtain ⟨decoded, reads, rfl⟩ := session.mergeSort_of_claimExpired limit claims
  rw [Row.map_decode reads]
  exact ⟨(List.mergeSort_perm decoded _).map _,
    List.pairwise_mergeSort FileRecord.expiresNoLater_trans
      FileRecord.expiresNoLater_total decoded⟩

end Claim

end Session

end FileCleanup
