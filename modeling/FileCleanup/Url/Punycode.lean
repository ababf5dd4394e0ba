import FileCleanup.Text.Split

namespace FileCleanup.Punycode

/-!
Text beyond ASCII written in ASCII letters and digits.  Behind the last hyphen stand numbers of
variable length; each tells how far to go on through all pairs of a code point and a place, and
there the next character belongs.
-/

/-- Letters in either case count up to twenty-five, then the digits go on. -/
def digitValue? (c : Char) : Option Nat :=
  if 'a' ≤ c ∧ c ≤ 'z' then some (c.toNat - 'a'.toNat)
  else if 'A' ≤ c ∧ c ≤ 'Z' then some (c.toNat - 'A'.toNat)
  else if '0' ≤ c ∧ c ≤ '9' then some (c.toNat - '0'.toNat + 26)
  else none

/-- The least digit that does not end a number at this position, counted in steps of 36. -/
def threshold (position bias : Nat) : Nat :=
  max 1 (min 26 (position - bias))

def adaptFrom (delta bias : Nat) : Nat :=
  if 455 < delta then adaptFrom (delta / 35) (bias + 36)
  else bias + 36 * delta / (delta + 38)
termination_by delta
decreasing_by exact Nat.div_lt_self (by omega) (by omega)

/-- The bias for the number after `delta`, when `count` characters are in place. -/
def adapt (delta count : Nat) (first : Bool) : Nat :=
  let scaled := if first then delta / 700 else delta / 2
  adaptFrom (scaled + scaled / count) 0

structure Decoder where
  text : List Char
  code : Nat
  /-- The place that the number starts from, and how far it has come. -/
  start : Nat
  index : Nat
  bias : Nat
  position : Nat
  weight : Nat

namespace Decoder

/-- The decoder that has read what stands before the last hyphen. -/
def ofAscii (text : List Char) : Decoder :=
  ⟨text, 128, 0, 0, 72, 36, 1⟩

/-- Puts the character in place that a finished number tells. -/
def insert? (decoder : Decoder) : Option Decoder :=
  let count := decoder.text.length + 1
  let code := decoder.code + decoder.index / count
  let place := decoder.index % count
  if code.isValidChar then
    let bias := adapt (decoder.index - decoder.start) count (decoder.start = 0)
    some ⟨decoder.text.insertIdx place (Char.ofNat code), code, place + 1, place + 1, bias, 36, 1⟩
  else none

def step? (decoder : Decoder) (c : Char) : Option Decoder := do
  let digit ← digitValue? c
  let threshold := threshold decoder.position decoder.bias
  let decoder := { decoder with index := decoder.index + digit * decoder.weight }
  if digit < threshold then decoder.insert?
  else
    return { decoder with
      position := decoder.position + 36
      weight := decoder.weight * (36 - threshold) }

end Decoder

def decode? (text : List Char) : Option (List Char) := do
  let numbers := (text.reverse.takeWhile (· ≠ '-')).reverse
  let decoder ← numbers.foldlM Decoder.step?
    (.ofAscii (text.take (text.length - numbers.length - 1)))
  if decoder.position = 36 then return decoder.text else none

end FileCleanup.Punycode
