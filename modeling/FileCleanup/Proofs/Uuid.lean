import FileCleanup.Proofs.Text.Digits
import FileCleanup.Uuid

namespace FileCleanup

open Text

/-! Identifiers that are written are read back. -/

namespace Text

theorem hexValue?_hexChar {value : Nat} (digit : value < 16) :
    hexValue? (hexChar value) = some value := by
  have all : ∀ value : Fin 16, hexValue? (hexChar value) = some value.val := by
    decide
  exact all ⟨value, digit⟩

theorem ofDigitsIn?_concat (base : Nat) (digits : List Char) (c : Char) :
    ofDigitsIn? base (digits ++ [c]) = (ofDigitsIn? base digits).bind fun value =>
      ((hexValue? c).filter (· < base)).map (base * value + ·) := by
  rw [ofDigitsIn?, List.foldl_append]
  rfl

end Text

namespace Uuid

theorem length_lastHexDigits (width value : Nat) :
    (lastHexDigits width value).length = width := by
  induction width generalizing value with
  | zero => rfl
  | succ width induction => rw [lastHexDigits, List.length_append, induction]; rfl

theorem ofDigitsIn?_lastHexDigits (width value : Nat) :
    ofDigitsIn? 16 (lastHexDigits width value) = some (value % 16 ^ width) := by
  induction width generalizing value with
  | zero => rw [Nat.pow_zero, Nat.mod_one]; rfl
  | succ width induction =>
      have digit : value % 16 < 16 := Nat.mod_lt value (by decide)
      rw [lastHexDigits, ofDigitsIn?_concat, induction, hexValue?_hexChar digit,
        Option.bind_some, Option.filter_some_pos (by simpa using digit), Option.map_some,
        Nat.pow_succ', Nat.mod_mul]
      congr 1
      omega

theorem ofNat_value (id : Uuid) : ofNat (id.value % 16 ^ 32) = id := by
  apply value_injective
  have bound : id.value < 2 ^ 128 := id.bits.isLt
  rw [Nat.mod_eq_of_lt (by simpa using bound)]
  exact Nat.mod_eq_of_lt bound

theorem ofSimple?_digits (id : Uuid) : ofSimple? (lastHexDigits 32 id.value) = some id := by
  rw [ofSimple?, if_pos (length_lastHexDigits 32 id.value), ofDigitsIn?_lastHexDigits,
    Option.map_some, ofNat_value]

/-- The groups between the hyphens are put together again. -/
theorem ofText?_groups {a b c d e : List Char} (lengths : a.length = 8 ∧ b.length = 4 ∧
    c.length = 4 ∧ d.length = 4 ∧ e.length = 12) :
    ofText? (a ++ '-' :: b ++ '-' :: c ++ '-' :: d ++ '-' :: e) =
      ofSimple? (a ++ b ++ c ++ d ++ e) := by
  obtain ⟨first, second, third, fourth, fifth⟩ := lengths
  have whole : (a ++ '-' :: b ++ '-' :: c ++ '-' :: d ++ '-' :: e).length = 36 := by
    simp only [List.length_append, List.length_cons]
    omega
  rw [ofText?, if_neg (by omega), if_pos whole, ofHyphenated?, if_pos]
  · simp (disch := omega) [List.drop_append, List.drop_of_length_le, first, second,
      third, fourth]
  · simp [first, second, third, fourth, fifth]

theorem ofText?_hyphenated (id : Uuid) : ofText? id.hyphenated = some id := by
  have length := length_lastHexDigits 32 id.value
  unfold hyphenated
  dsimp only
  rw [ofText?_groups (by simp [length]), ← List.take_add, ← List.take_add,
    ← List.take_add, List.take_append_drop]
  exact ofSimple?_digits id

end Uuid

end FileCleanup
