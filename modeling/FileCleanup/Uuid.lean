import FileCleanup.Text.Numeral
import FileCleanup.Text.Quoted

namespace FileCleanup

/-! Identifiers of 128 bits, ordered by value. -/

structure Uuid where
  bits : BitVec 128
  deriving DecidableEq, Repr

namespace Uuid

def value (id : Uuid) : Nat := id.bits.toNat

theorem value_injective {left right : Uuid} (same : left.value = right.value) : left = right :=
  congrArg Uuid.mk (BitVec.eq_of_toNat_eq same)

instance : LE Uuid := ⟨fun left right => left.value ≤ right.value⟩
instance : LT Uuid := ⟨fun left right => left.value < right.value⟩

instance (left right : Uuid) : Decidable (left ≤ right) :=
  inferInstanceAs (Decidable (left.value ≤ right.value))

instance (left right : Uuid) : Decidable (left < right) :=
  inferInstanceAs (Decidable (left.value < right.value))

/-- The identifier with the lowest 128 bits of `value`. -/
def ofNat (value : Nat) : Uuid :=
  ⟨BitVec.ofNat 128 value⟩

/-- The last `width` hexadecimal digits of `value`, with leading zeros. -/
def lastHexDigits : Nat → Nat → List Char
  | 0, _ => []
  | width + 1, value => lastHexDigits width (value / 16) ++ [Text.hexChar (value % 16)]

/-- The thirty-two hexadecimal digits in groups of 8, 4, 4, 4 and 12. -/
def hyphenated (id : Uuid) : List Char :=
  let digits := lastHexDigits 32 id.value
  digits.take 8 ++ '-' :: (digits.drop 8).take 4 ++ '-' :: (digits.drop 12).take 4 ++
    '-' :: (digits.drop 16).take 4 ++ '-' :: digits.drop 20

def text (id : Uuid) : String :=
  String.ofList id.hyphenated

def ofSimple? (digits : List Char) : Option Uuid :=
  if digits.length = 32 then (Text.ofDigitsIn? 16 digits).map ofNat else none

def ofHyphenated? (text : List Char) : Option Uuid :=
  if text.length = 36 ∧ text[8]? = some '-' ∧ text[13]? = some '-' ∧ text[18]? = some '-' ∧
      text[23]? = some '-' then
    ofSimple? (text.take 8 ++ (text.drop 9).take 4 ++ (text.drop 14).take 4 ++
      (text.drop 19).take 4 ++ text.drop 24)
  else none

/-- Reads thirty-two bare digits, the hyphenated form, that form in braces, or that form as a
URN; letters count in either case. -/
def ofText? (text : List Char) : Option Uuid :=
  if text.length = 32 then ofSimple? text
  else if text.length = 36 then ofHyphenated? text
  else if text.length = 38 ∧ text.head? = some '\x7b' ∧ text.getLast? = some '\x7d' then
    ofHyphenated? ((text.drop 1).take 36)
  else if text.length = 45 ∧ (text.take 9).map Char.toLower = "urn:uuid:".toList then
    ofHyphenated? (text.drop 9)
  else none

end Uuid

end FileCleanup
