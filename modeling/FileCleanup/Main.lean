import FileCleanup.Program

/-!
The program as it is started: it reads its arguments and variables and prints what a run tells.
There is no client for a database here, so the network leads nowhere and no file is touched.
-/

namespace FileCleanup.Main

open FileCleanup

/-- The variables that the process has been given, as far as they can be read. -/
def environment : IO Variables := do
  let text ← try IO.FS.readFile "/proc/self/environ" catch _ => pure ""
  let entries := (Text.split '\x00' text).filterMap fun entry =>
    match (Text.splitAt '=' entry.toList) with
    | name :: first :: rest =>
      some (String.ofList name, String.ofList (['='].intercalate (first :: rest)))
    | _ => none
  return fun name => entries.lookup name

/-- The file of further variables in the working directory or the next directory above it. -/
def envFile? (above : Nat) (path : String) : IO (Option String) := do
  let found ← try some <$> IO.FS.readFile path catch _ => pure none
  match found, above with
  | some text, _ => return some text
  | none, 0 => return none
  | none, above + 1 => envFile? above ("../" ++ path)

def surroundings (arguments : List String) : IO Surroundings := do
  let depth := (Text.split '/' (← IO.currentDir).toString).length
  return {
    arguments
    environment := ← environment
    envFile := ← envFile? depth ".env"
    network := .unreachable
    tree := .empty
    here := []
    signal := .terminate }

end FileCleanup.Main

def main (arguments : List String) : IO UInt32 := do
  let ending := FileCleanup.Program.run (← FileCleanup.Main.surroundings arguments)
  for line in ending.output do
    IO.println line
  IO.eprint ending.errors
  return ending.code.toUInt32
