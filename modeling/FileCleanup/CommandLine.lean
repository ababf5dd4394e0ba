import FileCleanup.Text.Similarity
import FileCleanup.Text.Terminal

namespace FileCleanup

open Text

/-! The command line of the cleanup program. -/

inductive Switch
  | once
  | help
  deriving DecidableEq, Repr

def Switch.name : Switch → String
  | once => "once"
  | help => "help"

def Switch.written (switch : Switch) : String :=
  "--" ++ switch.name

inductive CommandLine
  | help
  | run (once : Bool)
  deriving DecidableEq, Repr

namespace CommandLine

inductive Fault
  | unexpectedArgument (shown : String)
  /-- A long switch nobody knows, after `used` ones, and perhaps one that is spelled alike. -/
  | unknownSwitch (name : String) (similar : Option Switch) (used : List Switch)
  /-- A value for a switch that takes none, and whether a batch was asked for before it. -/
  | unexpectedValue (switch : Switch) (value : String) (once : Bool)
  | repeated (switch : Switch)
  deriving DecidableEq, Repr

def programName : String := "backoffice-cleanup"

def helpLines : List String :=
  ["Expired-file cleanup worker",
    "",
    "Usage: " ++ programName ++ " [OPTIONS]",
    "",
    "Options:",
    "      --once  Run a single cleanup batch and exit",
    "  -h, --help  Print help"]

/-- Arguments are shown without what would steer a terminal. -/
def Fault.message : Fault → String
  | unexpectedArgument shown => "unexpected argument '" ++ Terminal.visible shown ++ "' found"
  | unknownSwitch name _ _ => "unexpected argument '--" ++ Terminal.visible name ++ "' found"
  | unexpectedValue switch value _ =>
    "unexpected value '" ++ Terminal.visible value ++ "' for '" ++ switch.written ++
      "' found; no more were expected"
  | repeated switch => "the argument '" ++ switch.written ++ "' cannot be used multiple times"

def Fault.tip : Fault → List String
  | unknownSwitch _ (some similar) _ =>
    ["  tip: a similar argument exists: '" ++ similar.written ++ "'", ""]
  | _ => []

/-- The switches in use.  Where a value is unexpected, a batch asked for before stands in angle
brackets after the switch that was given the value. -/
def Fault.used : Fault → List String
  | unknownSwitch _ similar used => (used ++ similar.toList).eraseDups.map Switch.written
  | unexpectedValue switch _ false => [switch.written]
  | unexpectedValue switch _ true =>
    ([switch].filter (· ≠ .once)).map Switch.written ++ ["<" ++ Switch.once.written ++ ">"]
  | _ => []

/-- The switches in use, or that there are any. -/
def Fault.usage (fault : Fault) : String :=
  "Usage: " ++ " ".intercalate (programName :: match fault.used with
    | [] => ["[OPTIONS]"]
    | used => used)

/-- The whole text that a fault is reported with. -/
def Fault.text (fault : Fault) : String :=
  "\n".intercalate (["error: " ++ fault.message, ""] ++ fault.tip ++
    [fault.usage, "", "For more information, try '--help'.", ""])

/-- The known switch that is most like `name`; of equals the later one. -/
def similarTo (name : String) : Option Switch :=
  let likeness (switch : Switch) := similarity name.toList switch.name.toList
  match [Switch.once, Switch.help].filter fun switch =>
      areSimilar name.toList switch.name.toList with
  | [] => none
  | first :: rest =>
    some (rest.foldl (fun best switch =>
      if moreSimilar (likeness best) (likeness switch) then best else switch) first)

def usedSwitches (once : Bool) : List Switch :=
  if once then [.once] else []

/-- What stands after two dashes: a name, and a value after an equals sign. -/
def longParts (argument : List Char) : String × Option String :=
  let name := argument.takeWhile (· ≠ '=')
  (String.ofList name,
    match argument.dropWhile (· ≠ '=') with
    | [] => none
    | _ :: value => some (String.ofList value))

/-- Reads arguments from the left; the first fault or call for help decides. -/
def parseFrom (once : Bool) : List String → Except Fault CommandLine
  | [] => .ok (.run once)
  | argument :: rest =>
    match argument.toList with
    | ['-', '-'] =>
      match rest with
      | [] => .ok (.run once)
      | extra :: _ => .error (.unexpectedArgument extra)
    | '-' :: '-' :: long =>
      match longParts long with
      | ("once", none) => if once then .error (.repeated .once) else parseFrom true rest
      | ("help", none) => .ok .help
      | ("once", some value) => .error (.unexpectedValue .once value once)
      | ("help", some value) => .error (.unexpectedValue .help value once)
      | (name, _) => .error (.unknownSwitch name (similarTo name) (usedSwitches once))
    | '-' :: 'h' :: _ => .ok .help
    | '-' :: short :: _ => .error (.unexpectedArgument (String.ofList ['-', short]))
    | _ => .error (.unexpectedArgument argument)

def parse (arguments : List String) : Except Fault CommandLine :=
  parseFrom false arguments

end CommandLine

end FileCleanup
