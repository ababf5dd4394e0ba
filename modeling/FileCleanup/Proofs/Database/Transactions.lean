import FileCleanup.Database.Transaction

namespace FileCleanup

/-! What goes over the connection for a transaction, by what the server answers
and what the body yields. -/

variable {Value : Type}

/-- A body that talks to the server in statements alone. -/
def TransactionBody.InStatements (body : TransactionBody Value) : Prop :=
  ∀ script session, ∃ (statements : List Statement) (events : List LogEvent),
    (body script session).2 =
      { session with
        sent := session.sent ++ statements.map .statement
        events := session.events ++ events }

theorem TransactionBody.inStatements_ofStatement (statement : Statement)
    (read : Script → Except DatabaseError Value) :
    (ofStatement statement read).InStatements :=
  fun _ session => ⟨[statement], [], by simp [ofStatement, Session.execute,
    Session.send]⟩

/-- What a body of one statement makes of what the server says to it: the fault,
or else what can be read from the rest of the script. -/
def Script.reply (script : Script) (read : Except DatabaseError Value) :
    Except Report Value :=
  match script.fault with
  | some fault => .error fault.error.report
  | none => read.mapError DatabaseError.report

theorem TransactionBody.fst_ofStatement (statement : Statement)
    (read : Script → Except DatabaseError Value) (script : Script)
    (session : Session) :
    (ofStatement statement read script session).1 =
      script.reply (read script) := by
  cases faulty : script.fault <;>
    simp only [ofStatement, Session.execute, Script.reply, faulty] <;> rfl

theorem TransactionBody.eq_singleton_of_sends {statement : Statement}
    {read : Script → Except DatabaseError Value} {script : Script}
    {session : Session} {statements : List Statement}
    (sends : (ofStatement statement read script session).2.sent =
      session.sent ++ statements.map .statement) :
    statements = [statement] := by
  have sent : [Message.statement statement] = statements.map .statement :=
    List.append_cancel_left sends
  obtain ⟨first, rfl, same⟩ := List.map_eq_singleton_iff.mp sent.symm
  cases same
  rfl

/-- A reply is a success if the statement is and the rest makes sense. -/
theorem Script.eq_ok_of_reply {script : Script}
    {read : Except DatabaseError Value} {value : Value}
    (succeeds : script.reply read = .ok value) :
    script.fault = none ∧ read = .ok value := by
  unfold reply at succeeds
  split at succeeds
  · cases succeeds
  · rename_i sound
    cases read with
    | error cause => cases succeeds
    | ok other =>
        cases succeeds
        exact ⟨sound, rfl⟩

theorem Script.isOk_reply (script : Script)
    (read : Except DatabaseError Value) :
    (script.reply read).isOk = (script.fault.isNone && read.isOk) := by
  cases faulty : script.fault <;> simp only [reply, faulty]
  · cases read <;> rfl
  · rfl

namespace Script

/-- Whether a transaction is open after a message, at a server that follows the
script.  A rollback ends a transaction even where it is answered with a
fault. -/
def isOpenAfter (script : Script) (isOpen : Bool) : Message → Bool
  | .begin => script.beginFault.isNone
  | .statement _ => isOpen
  | .commit => isOpen && script.commitFault.isSome
  | .rollback => false

/-- What is sent for a transaction whose body sends `statements`, and what
becomes of the result of the body. -/
inductive Transacts (script : Script) (statements : List Statement) :
    Except Report Value → List Message → Except Report Value → Prop
  | refused {fault : ServerFault} {result : Except Report Value}
      (refuses : script.beginFault = some fault) :
      Transacts script statements result [.begin]
        (.error (fault.error.report.within "Failed to begin transaction"))
  | committed {value : Value} (begins : script.beginFault = none)
      (commits : script.commitFault = none) :
      Transacts script statements (.ok value)
        (.begin :: statements.map .statement ++ [.commit]) (.ok value)
  | uncommitted {value : Value} {fault : ServerFault}
      (begins : script.beginFault = none)
      (fails : script.commitFault = some fault) :
      Transacts script statements (.ok value)
        (.begin :: statements.map .statement ++ [.commit, .rollback])
        (.error (fault.error.report.within "Failed to commit transaction"))
  | rolledBack {cause : Report} (begins : script.beginFault = none) :
      Transacts script statements (.error cause)
        (.begin :: statements.map .statement ++ [.rollback]) (.error cause)

/-- What goes out for a transaction, by whether its body succeeds. -/
def conversation (script : Script) (statements : List Statement)
    (succeeds : Bool) : List Message :=
  match script.beginFault, succeeds, script.commitFault with
  | some _, _, _ => [.begin]
  | none, true, none => .begin :: statements.map .statement ++ [.commit]
  | none, true, some _ =>
    .begin :: statements.map .statement ++ [.commit, .rollback]
  | none, false, _ => .begin :: statements.map .statement ++ [.rollback]

theorem Transacts.messages_eq {script : Script} {statements : List Statement}
    {yielded answered : Except Report Value} {messages : List Message}
    (transacts : script.Transacts statements yielded messages answered) :
    messages = script.conversation statements yielded.isOk := by
  cases transacts with
  | refused refuses => simp [conversation, refuses]
  | committed begins commits =>
      simp [conversation, begins, commits, Except.isOk, Except.toBool]
  | uncommitted begins fails =>
      simp [conversation, begins, fails, Except.isOk, Except.toBool]
  | rolledBack begins =>
      simp [conversation, begins, Except.isOk, Except.toBool]

theorem Transacts.closes {script : Script} {statements : List Statement}
    {yielded answered : Except Report Value} {messages : List Message}
    (transacts : script.Transacts statements yielded messages answered) :
    messages.foldl script.isOpenAfter false = false := by
  cases transacts with
  | refused refuses => simp [isOpenAfter, refuses]
  | committed _ commits =>
      simp [isOpenAfter, commits]
  | uncommitted => simp [isOpenAfter]
  | rolledBack => simp [isOpenAfter]

end Script

namespace Session

/-- The script that the next operation meets, and the session inside its
transaction. -/
def begun (session : Session) : Script × Session :=
  (session.next.1, session.next.2.send .begin)

@[simp] theorem sent_next (session : Session) :
    session.next.2.sent = session.sent := by
  unfold next
  split <;> rfl

@[simp] theorem events_next (session : Session) :
    session.next.2.events = session.events := by
  unfold next
  split <;> rfl

@[simp] theorem isOpen_next (session : Session) :
    session.next.2.isOpen = session.isOpen := by
  unfold next
  split <;> rfl

@[simp] theorem scripts_next (session : Session) :
    session.next.2.scripts = session.scripts.tail := by
  unfold next
  split
  · rename_i none
    simp [none]
  · rename_i some
    simp [some]

theorem next_fst (session : Session) :
    session.next.1 = session.scripts.head?.getD .quiet := by
  unfold next
  split
  · rename_i none
    simp [none]
  · rename_i some
    simp [some]

theorem withTransaction_eq {session : Session} (isOpen : session.isOpen = true)
    (body : TransactionBody Value) :
    session.withTransaction body =
      match session.begun.1.beginFault with
      | some fault =>
        (.error (fault.error.report.within "Failed to begin transaction"),
          session.begun.2)
      | none =>
        (body session.begun.1 session.begun.2).2.finish session.begun.1
          (body session.begun.1 session.begun.2).1 := by
  rw [withTransaction, if_pos isOpen]
  rfl

theorem finish_transacts (session : Session) {script : Script}
    (begins : script.beginFault = none) (statements : List Statement)
    (yielded : Except Report Value) :
    ∃ (ending : List Message) (events : List LogEvent),
      script.Transacts statements yielded
        (.begin :: statements.map .statement ++ ending)
        (session.finish script yielded).1 ∧
      (session.finish script yielded).2 =
        { session with
          sent := session.sent ++ ending
          events := session.events ++ events } := by
  cases yielded with
  | ok value =>
      cases commits : script.commitFault with
      | none =>
          refine ⟨[.commit], [], ?_, ?_⟩
          · simpa [finish, commits] using .committed begins commits
          · simp [finish, commits, send]
      | some fault =>
          refine ⟨[.commit, .rollback], [], ?_, ?_⟩
          · simpa [finish, commits] using .uncommitted begins commits
          · simp [finish, commits, send]
  | error cause =>
      cases rollsBack : script.rollbackFault with
      | none =>
          refine ⟨[.rollback], [], ?_, ?_⟩
          · simpa [finish, rollsBack] using .rolledBack begins
          · simp [finish, rollsBack, send]
      | some fault =>
          -- The fault is told, and the cause is answered all the same.
          refine ⟨[.rollback], [.rollbackFailed fault.error], ?_, ?_⟩
          · simpa [finish, rollsBack] using .rolledBack begins
          · simp [finish, rollsBack, send, tell]

theorem withTransaction_transacts {session : Session}
    (isOpen : session.isOpen = true) {body : TransactionBody Value}
    (inStatements : body.InStatements) :
    ∃ (statements : List Statement) (messages : List Message)
        (events : List LogEvent),
      (body session.begun.1 session.begun.2).2.sent =
        session.begun.2.sent ++ statements.map .statement ∧
      session.begun.1.Transacts statements
        (body session.begun.1 session.begun.2).1 messages
        (session.withTransaction body).1 ∧
      (session.withTransaction body).2 =
        { session.next.2 with
          sent := session.sent ++ messages
          events := session.events ++ events } := by
  obtain ⟨statements, events, ends⟩ :=
    inStatements session.begun.1 session.begun.2
  rw [withTransaction_eq isOpen]
  cases begins : session.begun.1.beginFault with
  | some fault =>
      refine ⟨statements, [.begin], [], by rw [ends], .refused begins, ?_⟩
      simp [begun, send]
  | none =>
      obtain ⟨ending, told, transacts, ended⟩ :=
        finish_transacts (body session.begun.1 session.begun.2).2 begins
          statements (body session.begun.1 session.begun.2).1
      refine ⟨statements, _, events ++ told, by rw [ends], transacts, ?_⟩
      dsimp only
      rw [ended, ends]
      simp [begun, send]

end Session

end FileCleanup
