import FileCleanup.Database.Address
import FileCleanup.Database.Migration
import FileCleanup.Database.Session

namespace FileCleanup

/-! Connecting to the database that the settings name, and bringing it up to date. -/

/-- A server, with what its database has been through. -/
structure DatabaseServer where
  applied : List Migration.Applied
  dirty : Option Nat
  /-- How a migration's script fails, if it does. -/
  migrationFault : Option ServerFault
  scripts : List Script

/-- What there is at the other end of the network. -/
inductive Network
  | unreachable
  | server (server : DatabaseServer)

namespace LogEvent

def setupTarget : String := "backoffice_cli"

def connecting : LogEvent := ⟨.info, setupTarget, "Connecting to database...", []⟩

def connected (settings : DatabaseSettings) : LogEvent :=
  ⟨.info, setupTarget, "Database connected successfully",
    [("max_connections", .integer settings.maxConnections)]⟩

def migrationsApplied : LogEvent := ⟨.info, "backoffice_db", "Database migrations applied", []⟩

end LogEvent

/-- Why a pool of connections cannot even be made; the program stops at once. -/
inductive PoolFault
  /-- The instant up to which it would wait is none that the machine can count. -/
  | deadline
  | noRoom
  deriving DecidableEq, Repr

def PoolFault.message : PoolFault → String
  | deadline => "overflow when adding duration to instant"
  | noRoom => "capacity must be non-zero"

namespace DatabaseSettings

/-- The last second that the clock of a machine can count from its start. -/
def lastCountedSecond : Nat := 9223372036854775807

/-- How long a machine may have been up when it waits for a connection. -/
def longestUptime : Nat := 100000

def checkPool (settings : DatabaseSettings) : Except PoolFault Unit :=
  if lastCountedSecond < longestUptime + settings.timeoutSeconds then .error .deadline
  else if settings.maxConnections = 0 then .error .noRoom
  else .ok ()

end DatabaseSettings

/-- Why there is no database to work with. -/
inductive SetupFault
  | failed (report : Report)
  | pool (fault : PoolFault)

namespace DatabaseAddress

/-- The longest path that a socket can have, and one. -/
def socketPathLimit : Nat := 108

/-- Why the socket in a directory leads to no server. -/
def socketFault (directory : String) (port : Nat) : String :=
  let path := directory ++ "/.s.PGSQL." ++ toString port
  if path.toList.any (· = '\x00') then "paths must not contain interior null bytes"
  else if socketPathLimit ≤ path.utf8ByteSize then "path must be shorter than SUN_LEN"
  else "No such file or directory (os error 2)"

def isBracket (c : Char) : Bool :=
  c = '[' || c = ']'

/-- Whether a host needs no name service; brackets around it do not count. -/
def isNumeric (host : String) : Bool :=
  let bare := ((host.toList.dropWhile isBracket).reverse.dropWhile isBracket).reverse
  bare = "localhost".toList || (Ipv4.ofText? bare).isSome || (Ipv6.ofText? bare).isSome

/-- Why a server at this address cannot be reached without a network. -/
def unreachableReason (address : DatabaseAddress) : String :=
  match address.directory with
  | some directory => socketFault directory address.port
  | none =>
    if address.host.toList.head? = some '/' then socketFault address.host address.port
    else if address.host.toList.any (· = '\x00') then
      "file name contained an unexpected NUL byte"
    else if isNumeric address.host then "Network is unreachable (os error 101)"
    else "failed to lookup address information: Temporary failure in name resolution"

end DatabaseAddress

namespace Network

/-- A pool has to hand out a connection in time, so it needs some time. -/
def connect (network : Network) (settings : DatabaseSettings) (address : DatabaseAddress) :
    Except DatabaseError DatabaseServer :=
  if settings.timeoutSeconds = 0 then .error .poolTimedOut
  else
    match network with
    | .unreachable => .error (.connection address.unreachableReason)
    | .server found => .ok found

end Network

/-- Takes the steps that are left. -/
def DatabaseServer.migrate (server : DatabaseServer) : Except Migration.Problem Unit := do
  match ← Migration.pending server.applied server.dirty with
  | [] => return ()
  | migration :: _ =>
    match server.migrationFault with
    | some fault => throw (.failed migration.version fault.error)
    | none => return ()

/-- Opens a session with an up-to-date database, and tells how. -/
def setUpDatabase (network : Network) (environment : Variables) (settings : DatabaseSettings) :
    Except SetupFault Session × List LogEvent :=
  let refused (error : DatabaseError) : Except SetupFault Session :=
    .error (.failed (error.report.within "Failed to connect to database"))
  let (address, parameterEvents) := DatabaseAddress.ofText environment settings.url
  let begun := .connecting :: parameterEvents
  match address with
  | .error error => (refused error, begun)
  | .ok address =>
    match settings.checkPool with
    | .error fault => (.error (.pool fault), begun)
    | .ok () =>
      match network.connect settings address with
      | .error error => (refused error, begun)
      | .ok server =>
        match server.migrate with
        | .error problem =>
          (.error (.failed (problem.report.within "Failed to run database migrations")),
            begun ++ [.connected settings])
        | .ok () =>
          (.ok (.start server.scripts), begun ++ [.connected settings, .migrationsApplied])

end FileCleanup
