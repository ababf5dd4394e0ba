import FileCleanup.Text.Blank

namespace FileCleanup.Text

/-! Integers: reading decimal ones within a range and others by their base, and writing with
leading zeros. -/

def isDigit (c : Char) : Bool :=
  '0' ≤ c && c ≤ '9'

def digitValue (c : Char) : Nat :=
  c.toNat - '0'.toNat

/-- The number a run of decimal digits denotes, most significant digit first. -/
def ofDigits (digits : List Char) : Nat :=
  digits.foldl (fun value digit => 10 * value + digitValue digit) 0

def readDigits? (text : List Char) : Option Nat :=
  if text ≠ [] ∧ text.all isDigit then some (ofDigits text) else none

/-- The integers that a setting or a field can hold. -/
structure IntegerRange where
  least : Int
  greatest : Int
  deriving DecidableEq, Repr

namespace IntegerRange

def unsigned32 : IntegerRange := ⟨0, 4294967295⟩
def unsigned64 : IntegerRange := ⟨0, 18446744073709551615⟩
def signed32 : IntegerRange := ⟨-2147483648, 2147483647⟩
def signed64 : IntegerRange := ⟨-9223372036854775808, 9223372036854775807⟩

def Holds (range : IntegerRange) (value : Int) : Prop :=
  range.least ≤ value ∧ value ≤ range.greatest

instance (range : IntegerRange) (value : Int) : Decidable (range.Holds value) :=
  inferInstanceAs (Decidable (_ ∧ _))

def within? (range : IntegerRange) (value : Int) : Option Int :=
  if range.Holds value then some value else none

/-- One or more digits after an optional plus, or after a minus where the range has negatives. -/
def read? (range : IntegerRange) : List Char → Option Int
  | '+' :: digits => (readDigits? digits).bind fun value => range.within? value
  | '-' :: digits =>
    if range.least < 0 then
      (readDigits? digits).bind fun value => range.within? (-(value : Int))
    else none
  | digits => (readDigits? digits).bind fun value => range.within? value

end IntegerRange

/-- Why a text is no number of a range that starts at zero. -/
inductive NumeralFault
  | empty
  | noDigit
  | tooLarge
  deriving DecidableEq, Repr

def NumeralFault.message : NumeralFault → String
  | empty => "cannot parse integer from empty string"
  | noDigit => "invalid digit found in string"
  | tooLarge => "number too large to fit in target type"

/-- Goes on with a number that has begun; the first digit that cannot be, or is too much,
decides. -/
def readFrom (greatest value : Nat) : List Char → Except NumeralFault Nat
  | [] => .ok value
  | c :: rest =>
    if isDigit c then
      let next := 10 * value + digitValue c
      if next ≤ greatest then readFrom greatest next rest else .error .tooLarge
    else .error .noDigit

/-- A number up to `greatest`, perhaps after a plus. -/
def readUnsigned (greatest : Nat) : List Char → Except NumeralFault Nat
  | [] => .error .empty
  | ['+'] => .error .noDigit
  | '+' :: digits => readFrom greatest 0 digits
  | digits => readFrom greatest 0 digits

def hexValue? (c : Char) : Option Nat :=
  if '0' ≤ c ∧ c ≤ '9' then some (c.toNat - '0'.toNat)
  else if 'a' ≤ c ∧ c ≤ 'f' then some (c.toNat - 'a'.toNat + 10)
  else if 'A' ≤ c ∧ c ≤ 'F' then some (c.toNat - 'A'.toNat + 10)
  else none

/-- The number that digits of a base up to sixteen denote, letters in either case; none of them
means zero. -/
def ofDigitsIn? (base : Nat) (digits : List Char) : Option Nat :=
  digits.foldl
    (fun value? c => value?.bind fun value =>
      ((hexValue? c).filter (· < base)).map (base * value + ·)) (some 0)

def digitChar (value : Nat) : Char :=
  Char.ofNat ('0'.toNat + value % 10)

/-- The last `width` decimal digits of `value`, with leading zeros. -/
def lastDigits : Nat → Nat → List Char
  | 0, _ => []
  | width + 1, value => lastDigits width (value / 10) ++ [digitChar value]

/-- All decimal digits of `value`, with leading zeros up to `width`. -/
def padded (width value : Nat) : List Char :=
  let digits := (toString value).toList
  List.replicate (width - digits.length) '0' ++ digits

end FileCleanup.Text
