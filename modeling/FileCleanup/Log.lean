namespace FileCleanup

/-! What happens while the service runs, as its log tells it. -/

inductive LogLevel
  | error
  | warn
  | info
  | debug
  | trace
  deriving DecidableEq, Repr

namespace LogLevel

def name : LogLevel → String
  | error => "ERROR"
  | warn => "WARN"
  | info => "INFO"
  | debug => "DEBUG"
  | trace => "TRACE"

/-- How much a filter has to let through for this level to be seen. -/
def verbosity : LogLevel → Nat
  | error => 1
  | warn => 2
  | info => 3
  | debug => 4
  | trace => 5

end LogLevel

/-- A value that an event carries. -/
inductive LogValue
  | text (text : String)
  | integer (value : Int)
  /-- A number that is shown as it is written. -/
  | decimal (written : String)
  deriving DecidableEq, Repr

def LogValue.shown : LogValue → String
  | .text words => words
  | .integer value => toString value
  | .decimal digits => digits

structure LogEvent where
  level : LogLevel
  /-- The part of the service that tells it. -/
  target : String
  message : String
  fields : List (String × LogValue)
  deriving DecidableEq, Repr

end FileCleanup
