namespace FileCleanup.Text.Utf8

/-!
UTF-8: characters as bytes, and bytes as characters.  Where bytes are no text, the first run of
them that cannot be read is told, or every such run is read as a replacement character.
-/

def encode (text : List Char) : List UInt8 :=
  text.flatMap String.utf8EncodeChar

/-- The least and the greatest value of each byte that has to follow a first byte, if a character
can start with it. -/
def followers? (lead : UInt8) : Option (List (UInt8 × UInt8)) :=
  let any : UInt8 × UInt8 := (0x80, 0xbf)
  if lead ≤ 0x7f then some []
  else if lead < 0xc2 then none
  else if lead ≤ 0xdf then some [any]
  else if lead = 0xe0 then some [(0xa0, 0xbf), any]
  else if lead = 0xed then some [(0x80, 0x9f), any]
  else if lead ≤ 0xef then some [any, any]
  else if lead = 0xf0 then some [(0x90, 0xbf), any, any]
  else if lead ≤ 0xf3 then some [any, any, any]
  else if lead = 0xf4 then some [(0x80, 0x8f), any, any]
  else none

/-- The bytes that go on as they have to. -/
def fitting : List (UInt8 × UInt8) → List UInt8 → List UInt8
  | (least, greatest) :: ranges, byte :: rest =>
    if least ≤ byte ∧ byte ≤ greatest then byte :: fitting ranges rest else []
  | _, _ => []

/-- The code point in a first byte and the ones after it, six bits in each of these. -/
def codePoint (lead : UInt8) (after : List UInt8) : Nat :=
  let high := match after.length with
    | 0 => lead.toNat
    | 1 => lead.toNat % 0x20
    | 2 => lead.toNat % 0x10
    | _ => lead.toNat % 0x08
  after.foldl (fun value byte => 0x40 * value + byte.toNat % 0x40) high

/-- A run of bytes of the given length. -/
inductive Piece
  | char (c : Char) (length : Nat)
  | broken (length : Nat)
  /-- The beginning of a character, where the bytes end. -/
  | cutOff (length : Nat)
  deriving DecidableEq, Repr

def Piece.length : Piece → Nat
  | char _ length => length
  | broken length => length
  | cutOff length => length

def firstPiece (lead : UInt8) (rest : List UInt8) : Piece :=
  match followers? lead with
  | none => .broken 1
  | some ranges =>
    let after := fitting ranges rest
    let length := after.length + 1
    if after.length = ranges.length then .char (Char.ofNat (codePoint lead after)) length
    else if after.length = rest.length then .cutOff length
    else .broken length

def pieces : List UInt8 → List Piece
  | [] => []
  | lead :: rest =>
    let piece := firstPiece lead rest
    piece :: pieces (rest.drop (piece.length - 1))
termination_by bytes => bytes.length
decreasing_by
  simp only [List.length_drop, List.length_cons]
  omega

structure Fault where
  index : Nat
  /-- How many bytes cannot be read, unless it is the end that is missing. -/
  length : Option Nat
  deriving DecidableEq, Repr

def Fault.message (fault : Fault) : String :=
  match fault.length with
  | some length =>
    "invalid utf-8 sequence of " ++ toString length ++ " bytes from index " ++ toString fault.index
  | none => "incomplete utf-8 byte sequence from index " ++ toString fault.index

def joinFrom (index : Nat) : List Piece → Except Fault (List Char)
  | [] => .ok []
  | .char c length :: rest => (joinFrom (index + length) rest).map (c :: ·)
  | .broken length :: _ => .error ⟨index, some length⟩
  | .cutOff _ :: _ => .error ⟨index, none⟩

def decode (bytes : List UInt8) : Except Fault (List Char) :=
  joinFrom 0 (pieces bytes)

def decodeLossy (bytes : List UInt8) : List Char :=
  (pieces bytes).map fun
    | .char c _ => c
    | _ => '\ufffd'

end FileCleanup.Text.Utf8
