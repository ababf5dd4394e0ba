import FileCleanup.Text.Percent
import FileCleanup.Url.Domain
import FileCleanup.Url.Ip

namespace FileCleanup

open Text

/-! The part of an address that names a machine. -/

inductive Host
  /-- A name as it is written, or of a domain. -/
  | name (text : String)
  | ipv4 (address : Ipv4)
  | ipv6 (address : Ipv6)
  deriving DecidableEq, Repr

inductive HostFault
  | empty
  | character
  | domain
  | ipv4
  | ipv6
  deriving DecidableEq, Repr

def HostFault.message : HostFault → String
  | empty => "empty host"
  | character => "invalid domain character"
  | domain => "invalid international domain name"
  | ipv4 => "invalid IPv4 address"
  | ipv6 => "invalid IPv6 address"

namespace Host

def bracketed (text : List Char) : Except HostFault Host :=
  match Ipv6.ofText? ((text.drop 1).dropLast) with
  | some address => if text.getLast? = some ']' then .ok (.ipv6 address) else .error .ipv6
  | none => .error .ipv6

/-- The characters that no name holds in any scheme. -/
def forbidden : List Char :=
  ['\x00', '\t', '\n', '\r', ' ', '#', '/', ':', '<', '>', '?', '@', '[', '\\', ']', '^', '|']

/-- A host whose name means nothing to the address; it may be empty. -/
def ofText (text : List Char) : Except HostFault Host :=
  if text.head? = some '[' then bracketed text
  else if text.any (· ∈ forbidden) then .error .character
  else .ok (.name (String.ofList text))

/-- The labels without an empty one at the end. -/
def withoutRoot (labels : List (List Char)) : List (List Char) :=
  match labels.reverse with
  | [] :: front => front.reverse
  | _ => labels

/-- Whether the last label of a name is a number, so that the whole has to be an address. -/
def endsInNumber (labels : List (List Char)) : Bool :=
  (withoutRoot labels).getLast?.any fun last =>
    (last ≠ [] && last.all isDigit) || (Ipv4.part? last).isSome

/-- A host that is an address or the name of a domain, with escapes. -/
def ofDomainText (text : List Char) : Except HostFault Host :=
  if text.head? = some '[' then bracketed text
  else
    match Domain.ofBytes? (Percent.bytes text) with
    | none => .error .domain
    | some domain =>
      if domain.text = "" then .error .empty
      else if endsInNumber domain.labels then
        match ((withoutRoot domain.labels).mapM Ipv4.part?).bind Ipv4.ofParts? with
        | some address => .ok (.ipv4 address)
        | none => .error .ipv4
      else .ok (.name domain.text)

end Host

end FileCleanup
