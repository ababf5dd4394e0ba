import FileCleanup.Database.Repository
import FileCleanup.Proofs.Database.Transactions

namespace FileCleanup

open Time

/-! Whatever the server answers, every operation on the records of a database
is one transaction, which is over when the operation is. -/

/-- Rows that are read together are read one by one. -/
theorem Row.map_decode {rows : List Row} {files : List FileRecord}
    (reads : rows.mapM Row.decode = .ok files) :
    rows.map Row.decode = files.map .ok := by
  induction rows generalizing files with
  | nil =>
      cases reads
      rfl
  | cons row rows induction =>
      rw [List.mapM_cons] at reads
      cases first : row.decode with
      | error fault =>
          rw [first] at reads
          cases reads
      | ok file =>
          cases others : rows.mapM Row.decode with
          | error fault =>
              rw [first, others] at reads
              cases reads
          | ok rest =>
              rw [first, others] at reads
              cases reads
              rw [List.map_cons, first, induction others, List.map_cons]

namespace Session

/-- What can be asked of the records of a database. -/
inductive Operation : Type 1
  | releaseStaleClaims (age : Span)
  | claimExpired (limit : Int)
  | recordFailedAttempt (id : Uuid)
  | softDelete (id : Uuid)
  /-- Any other work inside a transaction. -/
  | transaction {Value : Type} (body : TransactionBody Value)
      (inStatements : body.InStatements)

namespace Operation

/-- What the body of an operation's transaction yields. -/
abbrev Yield : Operation → Type
  | .releaseStaleClaims _ => Nat
  | .claimExpired _ => List FileRecord
  | .recordFailedAttempt _ => Nat
  | .softDelete _ => Nat
  | @transaction Value _ _ => Value

/-- What the operation answers. -/
abbrev Answer : Operation → Type
  | .releaseStaleClaims _ => Nat
  | .claimExpired _ => List FileRecord
  | .recordFailedAttempt _ => Unit
  | .softDelete _ => Unit
  | @transaction Value _ _ => Value

def body : (operation : Operation) → TransactionBody operation.Yield
  | .releaseStaleClaims age =>
    .ofStatement (.releaseStaleClaims age) fun script => .ok script.affected
  | .claimExpired limit =>
    .ofStatement (.claimExpired limit) fun script => script.rows.mapM Row.decode
  | .recordFailedAttempt id =>
    .ofStatement (.recordFailedAttempt id) fun script => .ok script.affected
  | .softDelete id =>
    .ofStatement (.softDelete id) fun script => .ok script.affected
  | .transaction body _ => body

def perform : (operation : Operation) → Session →
    Except Report operation.Answer × Session
  | .releaseStaleClaims age, session => session.releaseStaleClaims age
  | .claimExpired limit, session => session.claimExpired limit
  | .recordFailedAttempt id, session => session.recordFailedAttempt id
  | .softDelete id, session => session.softDelete id
  | .transaction body _, session => session.withTransaction body

/-- What went wrong inside the transaction, as the operation reports it. -/
def explained : Operation → Report → Report
  | .releaseStaleClaims _, cause =>
    cause.within "Failed to release stale file claims"
  | .claimExpired _, cause => cause.within "Failed to claim expired files"
  | .recordFailedAttempt _, cause =>
    cause.within "Failed to increment failed attempts"
  | .softDelete _, cause => cause.within "Failed to soft delete file"
  | .transaction _ _, cause => cause

/-- The operation looked for a record and found none. -/
def Misses : (operation : Operation) → operation.Yield → Prop
  | .recordFailedAttempt _, affected => affected = 0
  | _, _ => False

/-- The one statement of an operation on records. -/
def statement? : Operation → Option Statement
  | .releaseStaleClaims age => some (.releaseStaleClaims age)
  | .claimExpired limit => some (.claimExpired limit)
  | .recordFailedAttempt id => some (.recordFailedAttempt id)
  | .softDelete id => some (.softDelete id)
  | .transaction _ _ => none

/-- What an operation sends inside its transaction at a server that follows the
script, and what it makes of the reply. -/
inductive Talks (script : Script) (session : Session) :
    (operation : Operation) → List Statement →
      Except Report operation.Yield → Prop
  | releaseStaleClaims (age : Span) :
      Talks script session (.releaseStaleClaims age) [.releaseStaleClaims age]
        (script.reply (.ok script.affected))
  | claimExpired (limit : Int) :
      Talks script session (.claimExpired limit) [.claimExpired limit]
        (script.reply (script.rows.mapM Row.decode))
  | recordFailedAttempt (id : Uuid) :
      Talks script session (.recordFailedAttempt id) [.recordFailedAttempt id]
        (script.reply (.ok script.affected))
  | softDelete (id : Uuid) :
      Talks script session (.softDelete id) [.softDelete id]
        (script.reply (.ok script.affected))
  | transaction {Value : Type} {body : TransactionBody Value}
      {inStatements : body.InStatements} {statements : List Statement}
      (sends : (body script session).2.sent =
        session.sent ++ statements.map .statement) :
      Talks script session (.transaction body inStatements) statements
        (body script session).1

theorem inStatements_body (operation : Operation) :
    operation.body.InStatements := by
  cases operation with
  | transaction body inStatements => exact inStatements
  | _ => exact TransactionBody.inStatements_ofStatement _ _

/-- What an operation answers when its transaction has come to a result. -/
inductive Concludes (operation : Operation) :
    Except Report operation.Yield → Except Report operation.Answer → Prop
  | failed (cause : Report) :
      Concludes operation (.error cause) (.error (operation.explained cause))
  | done (value : operation.Yield) (answer : operation.Answer) :
      Concludes operation (.ok value) (.ok answer)
  | missed {value : operation.Yield} (misses : operation.Misses value)
      (cause : Report) :
      Concludes operation (.ok value) (.error cause)

theorem perform_concludes (operation : Operation) (session : Session) :
    operation.Concludes (session.withTransaction operation.body).1
        (operation.perform session).1 ∧
      ∃ events, (operation.perform session).2 =
        { (session.withTransaction operation.body).2 with events } := by
  cases operation with
  | releaseStaleClaims age =>
      simp only [perform, Session.releaseStaleClaims, body]
      cases session.withTransaction _ with
      | mk result after =>
          cases result with
          | ok count =>
              refine ⟨.done count count, ?_⟩
              dsimp only
              split
              · exact ⟨_, rfl⟩
              · exact ⟨_, rfl⟩
          | error cause => exact ⟨.failed cause, _, rfl⟩
  | claimExpired limit =>
      simp only [perform, Session.claimExpired, body]
      cases session.withTransaction _ with
      | mk result after =>
          cases result with
          | ok files => exact ⟨.done files _, _, rfl⟩
          | error cause => exact ⟨.failed cause, _, rfl⟩
  | recordFailedAttempt id =>
      simp only [perform, Session.recordFailedAttempt, body]
      cases session.withTransaction _ with
      | mk result after =>
          rcases result with cause | affected
          · exact ⟨.failed cause, _, rfl⟩
          · -- The transaction is over before the operation looks at the count.
            cases affected with
            | zero =>
                have misses : (recordFailedAttempt id).Misses Nat.zero := rfl
                exact ⟨.missed misses _, _, rfl⟩
            | succ count =>
                exact ⟨@Concludes.done (.recordFailedAttempt id) _ (), _, rfl⟩
  | softDelete id =>
      simp only [perform, Session.softDelete, body]
      cases session.withTransaction _ with
      | mk result after =>
          rcases result with cause | affected
          · exact ⟨.failed cause, _, rfl⟩
          · cases affected with
            | zero => exact ⟨@Concludes.done (.softDelete id) _ (), _, rfl⟩
            | succ count =>
                exact ⟨@Concludes.done (.softDelete id) _ (), _, rfl⟩
  | transaction body inStatements =>
      simp only [perform, Operation.body]
      cases session.withTransaction body with
      | mk result after =>
          cases result with
          | ok value =>
              exact ⟨@Concludes.done (.transaction body inStatements) value
                value, _, rfl⟩
          | error cause => exact ⟨.failed cause, _, rfl⟩

section Concluded

variable {operation : Operation} {script : Script}
  {statements : List Statement} {messages : List Message}
  {yielded result : Except Report operation.Yield}
  {answered : Except Report operation.Answer}
  (transacts : script.Transacts statements yielded messages result)
  (concludes : operation.Concludes result answered)
include transacts concludes

theorem Concludes.succeeds (succeeds : answered.isOk) :
    script.beginFault = none ∧ yielded.isOk ∧ script.commitFault = none := by
  cases concludes with
  | failed cause => cases succeeds
  | missed misses cause => cases succeeds
  | done value answer =>
      cases transacts with
      | committed begins commits => exact ⟨begins, rfl, commits⟩

theorem Concludes.misses (begins : script.beginFault = none)
    (succeeds : yielded.isOk) (commits : script.commitFault = none)
    (fails : ¬answered.isOk) :
    ∃ value, yielded = .ok value ∧ operation.Misses value := by
  cases transacts with
  | refused refuses =>
      rw [begins] at refuses
      cases refuses
  | uncommitted _ uncommitted =>
      rw [commits] at uncommitted
      cases uncommitted
  | rolledBack => cases succeeds
  | committed =>
      cases concludes with
      | done value answer => exact absurd rfl fails
      | missed misses cause => exact ⟨_, rfl, misses⟩

theorem Concludes.explains (begins : script.beginFault = none) {cause : Report}
    (fails : yielded = .error cause) :
    answered = .error (operation.explained cause) := by
  subst fails
  cases transacts with
  | refused refuses =>
      rw [begins] at refuses
      cases refuses
  | rolledBack =>
      cases concludes with
      | failed => rfl

end Concluded

section Talking

variable {operation : Operation} {script : Script} {session : Session}
  {statements : List Statement} {yielded : Except Report operation.Yield}

/-- An operation talks as its body does. -/
theorem talks_of_sends
    (sends : (operation.body script session).2.sent =
      session.sent ++ statements.map .statement) :
    operation.Talks script session statements
      (operation.body script session).1 := by
  cases operation with
  | transaction body inStatements => exact .transaction sends
  | _ =>
      cases TransactionBody.eq_singleton_of_sends sends
      simp only [body, TransactionBody.fst_ofStatement]
      constructor

namespace Talks

variable (talks : operation.Talks script session statements yielded)
include talks

theorem eq_singleton {statement : Statement}
    (single : operation.statement? = some statement) :
    statements = [statement] := by
  cases talks with
  | transaction => cases single
  | _ =>
      cases single
      rfl

/-- Where the statement fails, so does all that is said inside. -/
theorem fails {statement : Statement}
    (single : operation.statement? = some statement) {fault : ServerFault}
    (faulty : script.fault = some fault) :
    yielded = .error fault.error.report := by
  cases talks with
  | transaction => cases single
  | _ => simp only [Script.reply, faulty]

theorem sound {statement : Statement}
    (single : operation.statement? = some statement) (succeeds : yielded.isOk) :
    script.fault = none := by
  cases faulty : script.fault with
  | none => rfl
  | some fault =>
      rw [talks.fails single faulty] at succeeds
      cases succeeds

/-- Only a failed attempt is missed, and only when it affects no row. -/
theorem affected {value : operation.Yield} (yields : yielded = .ok value)
    (misses : operation.Misses value) :
    ∃ id, operation = .recordFailedAttempt id ∧ script.affected = 0 := by
  cases talks with
  | recordFailedAttempt id =>
      obtain ⟨_, reads⟩ := Script.eq_ok_of_reply yields
      refine ⟨id, rfl, ?_⟩
      rw [Except.ok.inj reads]
      exact misses
  | _ => exact False.elim misses

end Talks

theorem decodes_of_claim {limit : Int}
    {yielded : Except Report (List FileRecord)}
    (talks : (claimExpired limit).Talks script session statements yielded)
    (succeeds : yielded.isOk) {row : Row} (member : row ∈ script.rows) :
    row.decode.isOk := by
  cases talks
  rw [Script.isOk_reply, Bool.and_eq_true] at succeeds
  cases reads : script.rows.mapM Row.decode with
  | error cause =>
      rw [reads] at succeeds
      cases succeeds.2
  | ok files =>
      have decoded : row.decode ∈ files.map Except.ok := by
        rw [← Row.map_decode reads]
        exact List.mem_map_of_mem member
      obtain ⟨file, _, decodes⟩ := List.mem_map.mp decoded
      rw [← decodes]
      rfl

end Talking

end Operation

/-- The session after some operations, one after the other. -/
def performAll (session : Session) (operations : List Operation) : Session :=
  operations.foldl (fun session operation => (operation.perform session).2)
    session

/-- Every operation takes one script and leaves the pool open. -/
theorem performAll_open {start : Session} (isOpen : start.isOpen = true)
    (operations : List Operation) :
    (start.performAll operations).isOpen = true ∧
      (start.performAll operations).scripts =
        start.scripts.drop operations.length := by
  induction operations generalizing start with
  | nil => exact ⟨isOpen, rfl⟩
  | cons operation operations induction =>
      obtain ⟨_, events, performs⟩ := operation.perform_concludes start
      obtain ⟨_, _, _, _, _, transacts⟩ :=
        withTransaction_transacts isOpen operation.inStatements_body
      rw [transacts] at performs
      have opened : (operation.perform start).2.isOpen = true := by
        rw [performs]
        simp [isOpen]
      have scripts :
          (operation.perform start).2.scripts = start.scripts.tail := by
        rw [performs]
        simp
      obtain ⟨open', rest⟩ := induction opened
      refine ⟨open', ?_⟩
      change ((operation.perform start).2.performAll operations).scripts = _
      rw [rest, scripts, List.drop_tail, List.length_cons]

/-- Whatever came before, an operation is one transaction against its own
script, with the statement of the operation inside, or what the body sends.  It
is committed if what is said inside succeeds, and rolled back if not; a statement
that the server fails is rolled back, and its fault is the answer. -/
theorem operation_transacts {start : Session} (isOpen : start.isOpen = true)
    (earlier : List Operation) (operation : Operation) :
    let session := start.performAll earlier
    let script := start.scripts[earlier.length]?.getD .quiet
    let answered := operation.perform session
    answered.2.isOpen = true ∧
    (∃ statements yielded,
      operation.Talks script session.begun.2 statements yielded ∧
      let messages := script.conversation statements yielded.isOk
      answered.2.sent = session.sent ++ messages ∧
      messages.foldl script.isOpenAfter false = false ∧
      (answered.1.isOk →
        script.beginFault = none ∧ yielded.isOk ∧ script.commitFault = none) ∧
      (script.beginFault = none → yielded.isOk → script.commitFault = none →
        ¬answered.1.isOk →
        ∃ id, operation = .recordFailedAttempt id ∧ script.affected = 0) ∧
      (script.beginFault = none → ∀ cause, yielded = .error cause →
        answered.1 = .error (operation.explained cause))) ∧
    (∀ statement, operation.statement? = some statement →
      (answered.1.isOk → script.fault = none ∧ answered.2.sent =
        session.sent ++ [.begin, .statement statement, .commit]) ∧
      (script.beginFault = none → ∀ fault, script.fault = some fault →
        answered.2.sent =
          session.sent ++ [.begin, .statement statement, .rollback] ∧
        answered.1 = .error (operation.explained fault.error.report))) ∧
    (answered.1.isOk → ∀ limit, operation = .claimExpired limit →
      ∀ row ∈ script.rows, row.decode.isOk) := by
  intro session script answered
  obtain ⟨opened, scripts⟩ := performAll_open isOpen earlier
  have follows : session.begun.1 = script := by
    change session.next.1 = _
    rw [next_fst, scripts, List.head?_drop]
  obtain ⟨statements, messages, events, sends, transacts, ends⟩ :=
    withTransaction_transacts opened operation.inStatements_body
  obtain ⟨concludes, told, performs⟩ := operation.perform_concludes session
  have same := transacts.messages_eq
  subst same
  have talks := Operation.talks_of_sends sends
  change session.begun.1.Transacts _ _ _ _ at transacts
  generalize (operation.body session.begun.1 session.begun.2).1 = yielded
    at talks transacts ends
  rw [follows] at talks transacts ends
  have sent : answered.2.sent =
      session.sent ++ script.conversation statements yielded.isOk := by
    change (operation.perform session).2.sent = _
    rw [performs, ends]
  refine ⟨?_, ⟨statements, yielded, talks, sent, transacts.closes,
    concludes.succeeds transacts, ?_, ?_⟩, ?_, ?_⟩
  · change (operation.perform session).2.isOpen = _
    rw [performs, ends]
    simp [opened]
  · intro begins succeeds commits fails
    obtain ⟨value, yields, misses⟩ :=
      concludes.misses transacts begins succeeds commits fails
    exact talks.affected yields misses
  · intro begins cause fails
    exact concludes.explains transacts begins fails
  · intro statement single
    cases talks.eq_singleton single
    refine ⟨fun succeeds => ?_, fun begins fault faulty => ?_⟩
    · obtain ⟨begins, inside, commits⟩ := concludes.succeeds transacts succeeds
      refine ⟨talks.sound single inside, ?_⟩
      rw [sent, inside]
      simp [Script.conversation, begins, commits]
    · have fails := talks.fails single faulty
      refine ⟨?_, concludes.explains transacts begins fails⟩
      rw [sent, fails]
      simp [Script.conversation, begins, Except.isOk, Except.toBool]
  · rintro succeeds limit rfl row member
    exact Operation.decodes_of_claim talks
      (concludes.succeeds transacts succeeds).2.1 member

/-- A claim whose row cannot be read, at a server that cannot roll back. -/
def Sample.unreadable : Script :=
  { Script.quiet with
    rows := [fun _ => .absent]
    rollbackFault := some ⟨"57014", "canceling statement due to user request"⟩ }

theorem operation_transacts_sample :
    (((start [.quiet, Sample.unreadable]).performAll
        [.softDelete (.ofNat 1)]).claimExpired 5).1 =
      .error ((DatabaseError.columnNotFound "id").report.within
        "Failed to claim expired files") := by
  obtain ⟨_, ⟨_, _, talks, _, _, _, _, explains⟩, _⟩ :=
    @operation_transacts (start [.quiet, Sample.unreadable]) rfl
      [.softDelete (.ofNat 1)] (.claimExpired 5)
  cases talks
  exact explains rfl _ rfl

end Session

end FileCleanup
