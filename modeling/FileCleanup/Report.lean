import FileCleanup.Text.Split

namespace FileCleanup

/-! What went wrong, in words: the failure itself and then the causes behind it. -/

structure Report where
  message : String
  causes : List String
  deriving DecidableEq, Repr

namespace Report

def ofMessage (message : String) : Report := ⟨message, []⟩

/-- All messages, outermost first. -/
def messages (report : Report) : List String :=
  report.message :: report.causes

/-- The whole chain on one line. -/
def chain (report : Report) : String :=
  ": ".intercalate report.messages

/-- The same failure seen from outside. -/
def within (message : String) (report : Report) : Report :=
  ⟨message, report.messages⟩

/-- A message after `start`, its further lines after `margin`. -/
def indented (start margin message : String) : String :=
  start ++ ("\n" ++ margin).intercalate (Text.split '\n' message)

/-- A number in front of a cause, to the right of five columns. -/
def numbered (index : Nat) : String :=
  let digits := toString index
  String.ofList (List.replicate (5 - digits.length) ' ') ++ digits ++ ": "

/-- Each cause below the one it explains; a cause that is alone has no number. -/
def causeLines : List String → List String
  | [cause] => [indented "    " "    " cause]
  | causes => causes.zipIdx.map fun (cause, index) => indented (numbered index) "       " cause

/-- The text that a program ends with when it fails. -/
def written (report : Report) : String :=
  "\n".intercalate (("Error: " ++ report.message) ::
    match report.causes with
    | [] => []
    | causes => "" :: "Caused by:" :: causeLines causes) ++ "\n"

end Report

end FileCleanup
