import FileCleanup.Database.Error
import FileCleanup.Settings

namespace FileCleanup

/-! Failures that the parts of the service share. -/

inductive ServiceError
  | database (cause : DatabaseError)
  | configuration (message : String)
  | internal (message : String) (cause : Report)
  deriving DecidableEq, Repr

namespace ServiceError

def ofReport (report : Report) : ServiceError :=
  .internal report.message report

def ofProblem (problem : SettingsProblem) : ServiceError :=
  .configuration problem.message

def message : ServiceError → String
  | database cause => "Database error: " ++ cause.report.message
  | configuration message => "Configuration error: " ++ message
  | internal message _ => "Internal error: " ++ message

/-- The messages behind the error's own, nearest first. -/
def causes : ServiceError → List String
  | database cause => cause.report.messages
  | configuration _ => []
  | internal _ cause => cause.messages

def report (error : ServiceError) : Report :=
  ⟨error.message, error.causes⟩

end ServiceError

end FileCleanup
