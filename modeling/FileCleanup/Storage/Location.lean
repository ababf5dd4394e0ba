import FileCleanup.Text.Split

namespace FileCleanup

open Text

/-!
Where a bucket keeps the object of a key: the key's segments without the empty ones, with every
byte escaped that could be misread.
-/

structure Location where
  segments : List String
  deriving DecidableEq, Repr

namespace Location

/-- The ASCII characters that are escaped besides controls. -/
def reserved : List Char :=
  ['\\', '\x7b', '^', '\x7d', '%', '\x60', ']', '"', '>', '[', '~', '<', '#', '|', '*', '?']

/-- Bytes outside ASCII, controls and reserved characters. -/
def needsEscape (byte : UInt8) : Bool :=
  byte < 0x20 || 0x7f ≤ byte || reserved.any fun c => c.toNat = byte.toNat

def upperHex (value : Nat) : Char :=
  if value < 10 then Char.ofNat ('0'.toNat + value) else Char.ofNat ('A'.toNat + (value - 10))

def escape (byte : UInt8) : List Char :=
  ['%', upperHex (byte.toNat / 16), upperHex (byte.toNat % 16)]

def encodeByte (byte : UInt8) : List Char :=
  if needsEscape byte then escape byte else [Char.ofNat byte.toNat]

/-- A segment of dots would be read as a step, so its dots are escaped. -/
def encodeSegment (segment : String) : String :=
  let bytes := segment.toUTF8.toList
  if segment = "." ∨ segment = ".." then String.ofList (bytes.flatMap escape)
  else String.ofList (bytes.flatMap encodeByte)

def ofKey (key : String) : Location :=
  ⟨((split '/' key).filter (· ≠ "")).map encodeSegment⟩

def text (location : Location) : String :=
  "/".intercalate location.segments

end Location

end FileCleanup
