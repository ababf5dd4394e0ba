import FileCleanup.Database.Error
import FileCleanup.Log
import FileCleanup.Settings.Load
import FileCleanup.Text.Quoted
import FileCleanup.Url

namespace FileCleanup

open Text

/-!
Where a database server is to be found, as an address tells it.  Its query holds parameters of the
connection; of these too only what decides where to connect is kept, though all are checked.
-/

structure DatabaseAddress where
  host : String
  /-- The directory of a socket on this machine, which goes before the host. -/
  directory : Option String
  port : Nat
  deriving DecidableEq, Repr

namespace LogEvent

def unknownParameter (name value : String) : LogEvent :=
  ⟨.warn, "sqlx_postgres::options::parse", "ignoring unrecognized connect parameter",
    [("key", .text name), ("value", .text value)]⟩

end LogEvent

namespace DatabaseAddress

/-- The server that is meant where nothing else is said. -/
def standard (environment : Variables) : DatabaseAddress where
  host := ((environment "PGHOSTADDR").or (environment "PGHOST")).getD "localhost"
  directory := none
  port :=
    match readUnsigned Url.greatestPort ((environment "PGPORT").getD "").toList with
    | .ok port => port
    | .error _ => 5432

/-- A setting that cannot be read. -/
def refused (reason : String) : DatabaseError :=
  .configuration (.ofMessage reason)

/-- The text that an escaped part stands for. -/
def unescaped (part : List Char) : Except DatabaseError (List Char) :=
  (Percent.decode part).mapError fun fault => refused fault.message

def number (greatest : Nat) (text : String) : Except DatabaseError Nat :=
  (readUnsigned greatest text.toList).mapError fun fault => refused fault.message

/-- A host, or the directory of a socket if a path is written in its place. -/
def withHost (address : DatabaseAddress) (host : List Char) : DatabaseAddress :=
  if host.head? = some '/' then { address with directory := some (String.ofList host) }
  else { address with host := String.ofList host }

def sslModes : List String :=
  ["disable", "allow", "prefer", "require", "verify-ca", "verify-full"]

def checkSslMode (text : String) : Except DatabaseError Unit :=
  if sslModes.any (matchesWord · text) then .ok ()
  else
    .error (.configuration
      (refused ("unknown value " ++ quoted text ++ " for \x60ssl_mode\x60")).report)

/-- Parameters that any text is good for. -/
def freeParameters : List String :=
  ["sslrootcert", "ssl-root-cert", "ssl-ca", "sslcert", "ssl-cert", "sslkey", "ssl-key", "dbname",
    "user", "password", "application_name", "options"]

/-- The address after a parameter, unless nobody knows that one. -/
def withParameter? (address : DatabaseAddress) (name value : String) :
    Except DatabaseError (Option DatabaseAddress) := do
  match name with
  | "sslmode" | "ssl-mode" =>
    checkSslMode value
    return some address
  | "statement-cache-capacity" =>
    discard (number 18446744073709551615 value)
    return some address
  | "host" => return some (address.withHost value.toList)
  | "hostaddr" =>
    if (Ipv4.ofDotted? value.toList).isSome || (Ipv6.ofText? value.toList).isSome then
      return some { address with host := value }
    else throw (refused "invalid IP address syntax")
  | "port" => return some { address with port := ← number Url.greatestPort value }
  | _ =>
    if name ∈ freeParameters ∨ "options[".toList.isPrefixOf name.toList then return some address
    else return none

/-- Takes parameters from the left, up to one that is refused, and tells which ones nobody
knows. -/
def withParameters (address : DatabaseAddress) :
    List (String × String) → Except DatabaseError DatabaseAddress × List LogEvent
  | [] => (.ok address, [])
  | (name, value) :: rest =>
    match address.withParameter? name value with
    | .error error => (.error error, [])
    | .ok (some address) => address.withParameters rest
    | .ok none =>
      let (result, events) := address.withParameters rest
      (result, .unknownParameter name value :: events)

/-- The host as an address writes it. -/
def withUrlHost (address : DatabaseAddress) : Option Host → Except DatabaseError DatabaseAddress
  | none => return address
  | some (.name name) => return address.withHost (← unescaped name.toList)
  | some (.ipv4 ip) => return { address with host := ip.text }
  | some (.ipv6 ip) => return { address with host := ip.text }

/-- The server that an address names, before its parameters are looked at. -/
def ofUrl (standard : DatabaseAddress) (url : Url) : Except DatabaseError DatabaseAddress := do
  let address ← standard.withUrlHost url.host
  let address := { address with port := url.port.getD address.port }
  discard (unescaped url.user)
  discard (unescaped url.password)
  discard (unescaped (url.path.dropWhile (· = '/')))
  return address

def ofText (environment : Variables) (text : String) :
    Except DatabaseError DatabaseAddress × List LogEvent :=
  match Url.ofText text with
  | .error fault => (.error (refused fault.message), [])
  | .ok url =>
    match ofUrl (standard environment) url with
    | .error error => (.error error, [])
    | .ok address => address.withParameters url.parameters

end DatabaseAddress

end FileCleanup
