import FileCleanup.Text.Numeral
import FileCleanup.Text.Split

namespace FileCleanup

open Text

/-! Numeric addresses of machines. -/

structure Ipv4 where
  bits : BitVec 32
  deriving DecidableEq, Repr

namespace Ipv4

/-- A number with a base: sixteen after `0x`, eight after another zero, else ten. -/
def part? : List Char → Option Nat
  | [] => none
  | '0' :: 'x' :: digits => ofDigitsIn? 16 digits
  | '0' :: 'X' :: digits => ofDigitsIn? 16 digits
  | '0' :: first :: digits => ofDigitsIn? 8 (first :: digits)
  | digits => ofDigitsIn? 10 digits

/-- One to four numbers; each is a byte, but the last one fills what is left. -/
def ofParts? (parts : List Nat) : Option Ipv4 :=
  match parts.reverse with
  | [] => none
  | last :: front =>
    if front.length ≤ 3 ∧ front.all (· < 256) ∧ last < Nat.pow 256 (4 - front.length) then
      let high := front.foldr (fun part value => 256 * value + part) 0
      some ⟨BitVec.ofNat 32 (high * Nat.pow 256 (4 - front.length) + last)⟩
    else none

/-- Reads one to four numbers between points, each in its base. -/
def ofText? (text : List Char) : Option Ipv4 :=
  ((splitAt '.' text).mapM part?).bind ofParts?

/-- A byte in decimal, without zeros in front. -/
def byte? : List Char → Option Nat
  | ['0'] => some 0
  | '0' :: _ => none
  | digits => (readDigits? digits).filter (· < 256)

/-- Reads four decimal bytes between points. -/
def ofDotted? (text : List Char) : Option Ipv4 :=
  match (splitAt '.' text).mapM byte? with
  | some [a, b, c, d] => ofParts? [a, b, c, d]
  | _ => none

/-- Four decimal bytes between points. -/
def text (address : Ipv4) : String :=
  let value := address.bits.toNat
  ".".intercalate ([0x1000000, 0x10000, 0x100, 1].map fun unit => toString (value / unit % 256))

end Ipv4

/-- Eight groups of sixteen bits. -/
structure Ipv6 where
  groups : List Nat
  length_groups : groups.length = 8
  deriving DecidableEq, Repr

namespace Ipv6

/-- One to four hexadecimal digits. -/
def group? (text : List Char) : Option Nat :=
  if text ≠ [] ∧ text.length ≤ 4 then ofDigitsIn? 16 text else none

/-- Groups between colons; the last two may be written as an IPv4 address if `dotted` says so. -/
def groupsOf? (dotted : Bool) : List (List Char) → Option (List Nat)
  | [] => some []
  | [last] =>
    match group? last with
    | some group => some [group]
    | none =>
      if dotted then
        (Ipv4.ofDotted? last).map fun address =>
          [address.bits.toNat / 0x10000, address.bits.toNat % 0x10000]
      else none
  | text :: rest => do
    let group ← group? text
    let groups ← groupsOf? dotted rest
    return group :: groups

/-- As `groupsOf?`, for a part that may be empty. -/
def partGroups? (dotted : Bool) (text : List Char) : Option (List Nat) :=
  if text = [] then some [] else groupsOf? dotted (splitAt ':' text)

/-- What stands on either side of the first double colon. -/
def cutAtGap? : List Char → Option (List Char × List Char)
  | [] => none
  | ':' :: ':' :: rest => some ([], rest)
  | c :: rest => (cutAtGap? rest).map fun (front, back) => (c :: front, back)

def ofGroups? (groups : List Nat) : Option Ipv6 :=
  if h : groups.length = 8 then some ⟨groups, h⟩ else none

/-- Reads eight groups, or fewer with a double colon for the zeros that are left out. -/
def ofText? (text : List Char) : Option Ipv6 := do
  match cutAtGap? text with
  | none => ofGroups? (← groupsOf? true (splitAt ':' text))
  | some (front, back) =>
    let front ← partGroups? false front
    let back ← partGroups? true back
    let missing := 8 - (front.length + back.length)
    if missing = 0 then none
    else ofGroups? (front ++ List.replicate missing 0 ++ back)

/-- Eight hexadecimal groups between colons. -/
def text (address : Ipv6) : String :=
  ":".intercalate (address.groups.map fun group => String.ofList (Nat.toDigits 16 group))

end Ipv6

end FileCleanup
