import FileCleanup.Url.Host

namespace FileCleanup

open Text

/-!
Addresses in the form that is common on the web: a scheme, perhaps a server with credentials and a
port behind two slashes, a path, and perhaps a query.  Some schemes are special: they need a
server, and take a backslash for a slash.
-/

/-- The parts as they are written, with escapes; a path has its steps taken. -/
structure Url where
  scheme : String
  user : List Char
  password : List Char
  host : Option Host
  port : Option Nat
  path : List Char
  query : List Char
  deriving DecidableEq, Repr

inductive UrlFault
  | noScheme
  | host (fault : HostFault)
  | port
  deriving DecidableEq, Repr

def UrlFault.message : UrlFault → String
  | noScheme => "relative URL without a base"
  | host fault => fault.message
  | port => "invalid port number"

namespace Url

/-- Controls and spaces at both ends do not count, nor do line breaks and tabs anywhere. -/
def cleaned (text : List Char) : List Char :=
  let bare := (((text.dropWhile (· ≤ ' ')).reverse).dropWhile (· ≤ ' ')).reverse
  bare.filter fun c => c ≠ '\t' ∧ c ≠ '\n' ∧ c ≠ '\r'

def isSchemeChar (c : Char) : Bool :=
  c.isAlphanum || c = '+' || c = '-' || c = '.'

/-- A letter and then letters, digits and a few marks up to a colon; and what follows. -/
def cutScheme? (text : List Char) : Option (List Char × List Char) :=
  match text.dropWhile isSchemeChar with
  | ':' :: rest =>
    if text.head?.any Char.isAlpha then
      some ((text.takeWhile isSchemeChar).map Char.toLower, rest)
    else none
  | _ => none

inductive SchemeKind
  | common
  | special
  /-- Special, and the server may be left out. -/
  | file
  deriving DecidableEq, Repr

/-- The ports that special schemes need not name. -/
def standardPorts : List (String × Nat) :=
  [("http", 80), ("https", 443), ("ws", 80), ("wss", 443), ("ftp", 21)]

def standardPort? (scheme : String) : Option Nat :=
  standardPorts.findSome? fun (name, port) => if name = scheme then some port else none

def kindOf (scheme : String) : SchemeKind :=
  if scheme = "file" then .file
  else if (standardPort? scheme).isSome then .special
  else .common

def SchemeKind.isSpecial (kind : SchemeKind) : Bool :=
  kind ≠ .common

def isSlash (kind : SchemeKind) (c : Char) : Bool :=
  c = '/' || (c = '\\' && kind.isSpecial)

def isQueryStart (c : Char) : Bool :=
  c = '?' || c = '#'

/-- Ends the part that names the server. -/
def isServerEnd (kind : SchemeKind) (c : Char) : Bool :=
  isSlash kind c || isQueryStart c

/-! Paths. -/

/-- A point may be written with an escape. -/
def withPlainPoints : List Char → List Char
  | [] => []
  | '%' :: '2' :: 'e' :: rest => '.' :: withPlainPoints rest
  | '%' :: '2' :: 'E' :: rest => '.' :: withPlainPoints rest
  | c :: rest => c :: withPlainPoints rest

def isHere (segment : List Char) : Bool :=
  withPlainPoints segment = ['.']

def isUp (segment : List Char) : Bool :=
  withPlainPoints segment = ['.', '.']

/-- Takes the steps of a path; `kept` holds the segments so far, the last one first.  A step at
the end leaves an empty segment behind. -/
def takeSteps (kept : List (List Char)) : List (List Char) → List (List Char)
  | [] => kept.reverse
  | segment :: rest =>
    if isUp segment then takeSteps ((if rest = [] then [[]] else []) ++ kept.drop 1) rest
    else if isHere segment then takeSteps ((if rest = [] then [[]] else []) ++ kept) rest
    else takeSteps (segment :: kept) rest

/-- The path of an address that has room for one behind its server. -/
def steppedPath (kind : SchemeKind) (text : List Char) : List Char :=
  let slashed := text.map fun c => if isSlash kind c then '/' else c
  let relative := match slashed with
    | '/' :: rest => rest
    | _ => slashed
  '/' :: ['/'].intercalate (takeSteps [] (splitAt '/' relative))

/-- The path and the query, which ends where a fragment begins. -/
def cutQuery (text : List Char) : List Char × List Char :=
  (text.takeWhile (!isQueryStart ·),
    match text.dropWhile (!isQueryStart ·) with
    | '?' :: query => query.takeWhile (· ≠ '#')
    | _ => [])

/-! Servers. -/

structure Credentials where
  user : List Char
  password : List Char

def Credentials.none : Credentials := ⟨[], []⟩

def Credentials.isNone (credentials : Credentials) : Bool :=
  credentials.user.isEmpty && credentials.password.isEmpty

/-- What stands before the last at sign of the part that names the server, and what follows it. -/
def cutCredentials (kind : SchemeKind) (text : List Char) :
    Except UrlFault (Credentials × List Char) :=
  let server := text.takeWhile (!isServerEnd kind ·)
  if '@' ∈ server then
    let length := server.length - (server.reverse.takeWhile (· ≠ '@')).length - 1
    let rest := text.drop (length + 1)
    match server.take length with
    | [] =>
      if rest.head?.any (isServerEnd kind) then .error (.host .empty) else .ok (.none, rest)
    | written =>
      let user := written.takeWhile (· ≠ ':')
      .ok (⟨user, written.drop (user.length + 1)⟩, rest)
  else .ok (.none, text)

/-- A host up to a colon outside brackets or the end of the server's part. -/
def hostLength (kind : SchemeKind) (bracketed : Bool) : List Char → Nat
  | [] => 0
  | c :: rest =>
    if isServerEnd kind c || (c = ':' && !bracketed) then 0
    else hostLength kind (c = '[' || (bracketed && c ≠ ']')) rest + 1

def greatestPort : Nat := 65535

/-- The port after a colon, and what follows it. -/
def cutPort (text : List Char) : Except UrlFault (Option Nat × List Char) :=
  match text with
  | ':' :: rest =>
    let digits := rest.takeWhile isDigit
    let rest := rest.drop digits.length
    if rest ≠ [] ∧ !rest.head?.any (isServerEnd .special) then .error .port
    else if digits = [] then .ok (none, rest)
    else if ofDigits digits ≤ greatestPort then .ok (some (ofDigits digits), rest)
    else .error .port
  | _ => .ok (none, text)

/-- An address behind two slashes. -/
def ofServerText (scheme : String) (kind : SchemeKind) (text : List Char) :
    Except UrlFault Url := do
  let (credentials, rest) ← cutCredentials kind text
  let length := hostLength kind false rest
  let written := rest.take length
  let rest := rest.drop length
  let host ←
    if written = [] then
      if kind.isSpecial || !credentials.isNone || rest.head? = some ':' then
        throw (.host .empty)
      else pure none
    else
      let read := if kind.isSpecial then Host.ofDomainText written else Host.ofText written
      (read.mapError UrlFault.host).map some
  let (port, rest) ← cutPort rest
  let (path, query) := cutQuery rest
  return {
    scheme
    user := credentials.user
    password := credentials.password
    host
    port := if port = standardPort? scheme then none else port
    path := if path = [] && !kind.isSpecial then [] else steppedPath kind path
    query }

/-- A drive of some systems, which stands where a server would. -/
def isDrive : List Char → Bool
  | [letter, mark] => letter.isAlpha && (mark = ':' || mark = '|')
  | _ => false

/-- An address of a file; a server that is this machine does not count. -/
def ofFileText (text : List Char) : Except UrlFault Url := do
  let (host, rest) ← match text with
    | first :: second :: rest =>
      let written := rest.takeWhile (!isServerEnd .file ·)
      if !isSlash .file first || !isSlash .file second then pure (none, text)
      else if written = [] || isDrive written then pure (none, rest)
      else
        let host ← (Host.ofDomainText written).mapError UrlFault.host
        pure (if host = .name "localhost" then none else some host, rest.drop written.length)
    | _ => pure (none, text)
  let (path, query) := cutQuery rest
  return ⟨"file", [], [], host, none, steppedPath .file path, query⟩

def ofText (text : String) : Except UrlFault Url :=
  match cutScheme? (cleaned text.toList) with
  | none => .error .noScheme
  | some (scheme, rest) =>
    let scheme := String.ofList scheme
    match kindOf scheme with
    | .file => ofFileText rest
    | .special => ofServerText scheme .special (rest.dropWhile (isSlash .special))
    | .common =>
      match rest with
      | '/' :: '/' :: rest => ofServerText scheme .common rest
      | _ =>
        let (path, query) := cutQuery rest
        let path := if rest.head? = some '/' then steppedPath .common path else path
        .ok ⟨scheme, [], [], none, none, path, query⟩

/-- The names and values in the query, with their escapes read. -/
def parameters (url : Url) : List (String × String) :=
  ((splitAt '&' url.query).filter (· ≠ [])).map fun pair =>
    let name := pair.takeWhile (· ≠ '=')
    (String.ofList (Percent.decodeForm name),
      String.ofList (Percent.decodeForm (pair.drop (name.length + 1))))

end Url

end FileCleanup
