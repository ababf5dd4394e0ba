import FileCleanup.Text.Numeral
import Mathlib.Data.List.Induction
import Mathlib.Data.Nat.Digits.Defs

namespace FileCleanup.Text

/-! Reading from the front of a text, and decimal digits: what a run of them
denotes, and that written numbers are read back. -/

/-- A reader goes on with what the one before it has read and left. -/
theorem run_bind {m : Type → Type} [Monad m] [LawfulMonad m] {α β : Type}
    {first : StateT (List Char) m α} {next : α → StateT (List Char) m β}
    {text rest : List Char} {value : α} (read : first.run text = pure (value, rest)) :
    (first >>= next).run text = (next value).run rest := by
  rw [StateT.run_bind, read, pure_bind]

theorem isDigit_eq (c : Char) : isDigit c = c.isDigit := by
  rfl

/-- One or more ASCII digits. -/
def Digits (text : List Char) : Prop :=
  text ≠ [] ∧ ∀ digit ∈ text, digit.isDigit

theorem takeWhile_isDigit {digits rest : List Char}
    (all : ∀ digit ∈ digits, isDigit digit)
    (stop : ∀ c ∈ rest.head?, isDigit c = false) :
    (digits ++ rest).takeWhile isDigit = digits := by
  rw [List.takeWhile_append_of_pos all]
  cases rest with
  | nil => simp
  | cons c more => simp [stop c rfl]

theorem ofDigits_concat (digits : List Char) (digit : Char) :
    ofDigits (digits ++ [digit]) = 10 * ofDigits digits + digitValue digit := by
  rw [ofDigits, List.foldl_append]
  rfl

/-- Each place weighs ten times the place after it. -/
theorem ofDigits_eq (digits : List Char) :
    ofDigits digits = Nat.ofDigits 10 (digits.reverse.map digitValue) := by
  induction digits using List.reverseRecOn with
  | nil => rfl
  | append_singleton digits digit induction =>
      rw [ofDigits_concat, induction, List.reverse_concat, List.map_cons,
        Nat.ofDigits_cons, Nat.add_comm]

/-! Digits that are written. -/

theorem digitChar_cases (value : Nat) :
    isDigit (digitChar value) ∧ digitValue (digitChar value) = value % 10 := by
  have all : ∀ digit : Fin 10, isDigit (Char.ofNat ('0'.toNat + digit)) ∧
      digitValue (Char.ofNat ('0'.toNat + digit)) = digit := by
    decide
  exact all ⟨value % 10, Nat.mod_lt value (by decide)⟩

theorem length_lastDigits (width value : Nat) :
    (lastDigits width value).length = width := by
  induction width generalizing value with
  | zero => rfl
  | succ width induction => rw [lastDigits, List.length_append, induction]; rfl

theorem isDigit_of_mem_lastDigits {width value : Nat} {c : Char}
    (member : c ∈ lastDigits width value) : isDigit c := by
  induction width generalizing value with
  | zero => cases member
  | succ width induction =>
      rcases List.mem_append.mp member with earlier | last
      · exact induction earlier
      · rw [List.mem_singleton.mp last]
        exact (digitChar_cases value).1

theorem digits_lastDigits {width : Nat} (some : 0 < width) (value : Nat) :
    Digits (lastDigits width value) :=
  ⟨List.ne_nil_of_length_pos (by rwa [length_lastDigits]),
    fun _ => isDigit_of_mem_lastDigits⟩

theorem ofDigits_lastDigits (width value : Nat) :
    ofDigits (lastDigits width value) = value % 10 ^ width := by
  induction width generalizing value with
  | zero => exact (Nat.mod_one value).symm
  | succ width induction =>
      rw [lastDigits, ofDigits_concat, induction, (digitChar_cases value).2,
        Nat.pow_succ', Nat.mod_mul]
      omega

theorem toList_toString (value : Nat) :
    (toString value).toList = Nat.toDigits 10 value := by
  rw [Nat.toString_eq_ofList_toDigits, String.toList_ofList]

theorem ofDigits_toDigits (value : Nat) : ofDigits (Nat.toDigits 10 value) = value :=
  Nat.ofDigitChars_ten_toDigits

theorem digits_toDigits (value : Nat) : Digits (Nat.toDigits 10 value) :=
  ⟨Nat.toDigits_ne_nil, fun _ => Nat.isDigit_of_mem_toDigits (by decide) (by decide)⟩

/-- Only zero is written with a leading zero. -/
theorem toDigits_ne_zero_cons (value : Nat) (c : Char) (rest : List Char) :
    Nat.toDigits 10 value ≠ '0' :: c :: rest := by
  induction value using Nat.strong_induction_on generalizing c rest with
  | _ value induction =>
      rw [Nat.toDigits_eq_if (by decide)]
      split
      · simp
      · rename_i large
        have smaller : value / 10 < value := by omega
        have front := induction (value / 10) smaller
        have denoted := ofDigits_toDigits (value / 10)
        match digits : Nat.toDigits 10 (value / 10) with
        | [] => exact absurd digits Nat.toDigits_ne_nil
        | first :: second :: more =>
            intro leads
            obtain ⟨rfl, _⟩ := List.cons.inj leads
            exact front second more digits
        | [first] =>
            -- A single leading zero would be the whole of the front.
            intro leads
            obtain ⟨rfl, _⟩ := List.cons.inj leads
            rw [digits] at denoted
            have none : ofDigits ['0'] = 0 := rfl
            omega

theorem digits_padded (width value : Nat) : Digits (padded width value) := by
  obtain ⟨some, all⟩ := digits_toDigits value
  rw [padded, toList_toString]
  refine ⟨List.append_ne_nil_of_right_ne_nil _ some, fun digit member => ?_⟩
  rcases List.mem_append.mp member with zero | written
  · rw [List.eq_of_mem_replicate zero]
    rfl
  · exact all digit written

theorem length_padded {width value : Nat} (some : 0 < width)
    (short : value < 10 ^ width) : (padded width value).length = width := by
  have digits := (Nat.length_toDigits_le_iff (by decide) some).mpr short
  rw [padded, toList_toString, List.length_append, List.length_replicate]
  omega

theorem ofDigits_padded (width value : Nat) : ofDigits (padded width value) = value := by
  have zeros : ∀ count, ofDigits (List.replicate count '0') = 0 := by
    intro count
    induction count with
    | zero => rfl
    | succ count induction =>
        rw [List.replicate_succ', ofDigits_concat, induction]
        rfl
  have leading := zeros (width - (toString value).toList.length)
  rw [ofDigits] at leading
  rw [padded, ofDigits, List.foldl_append, leading, toList_toString]
  exact ofDigits_toDigits value

end FileCleanup.Text
