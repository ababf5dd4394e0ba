import FileCleanup.Proofs.Text.Digits
import Mathlib.Data.List.TakeWhile

namespace FileCleanup.Text

/-! Blanks around a text, and the numbers that can stand between them. -/

def Blank (text : List Char) : Prop :=
  ∀ c ∈ text, isBlank c

instance (text : List Char) : Decidable (Blank text) :=
  decidable_of_iff (text.all isBlank) List.all_eq_true

theorem Blank.reverse {text : List Char} (blank : Blank text) : Blank text.reverse :=
  fun c member => blank c (List.mem_reverse.mp member)

theorem dropBlanks_append {before : List Char} (blank : Blank before)
    (text : List Char) : dropBlanks (before ++ text) = dropBlanks text :=
  List.dropWhile_append_of_pos blank

theorem trim_append {before after : List Char} (text : List Char)
    (leading : Blank before) (closing : Blank after) :
    trim (before ++ text ++ after) = trim text := by
  have ends : dropBlanks (dropBlanks (text ++ after)).reverse =
      dropBlanks (dropBlanks text).reverse := by
    have front : dropBlanks (text ++ after) =
        if (dropBlanks text).isEmpty then dropBlanks after else dropBlanks text ++ after :=
      List.dropWhile_append
    rw [front]
    split
    · rename_i nothing
      have none : dropBlanks after = [] := List.dropWhile_eq_nil_iff.mpr closing
      rw [none, List.isEmpty_iff.mp nothing]
    · rw [List.reverse_append, dropBlanks_append closing.reverse]
  rw [trim, List.append_assoc, dropBlanks_append leading, ends, trim]

theorem trim_of_unblank {text : List Char} (none : ∀ c ∈ text, isBlank c = false) :
    trim text = text := by
  have kept : ∀ chars : List Char, (∀ c ∈ chars, isBlank c = false) →
      dropBlanks chars = chars := by
    intro chars unblank
    cases chars with
    | nil => rfl
    | cons c rest =>
        exact List.dropWhile_cons_of_neg (by simp [unblank c List.mem_cons_self])
  rw [trim, kept text none, kept text.reverse (by simpa using none), List.reverse_reverse]

/-- What trimming takes away is blank. -/
theorem exists_trim (text : List Char) :
    ∃ before after, Blank before ∧ Blank after ∧
      text = before ++ trim text ++ after := by
  have split : ∀ chars : List Char, ∃ blanks, Blank blanks ∧
      chars = blanks ++ dropBlanks chars := fun chars =>
    ⟨chars.takeWhile isBlank, fun _ => List.mem_takeWhile_imp,
      List.takeWhile_append_dropWhile.symm⟩
  obtain ⟨before, leading, front⟩ := split text
  obtain ⟨after, closing, back⟩ := split (dropBlanks text).reverse
  refine ⟨before, after.reverse, leading, closing.reverse, ?_⟩
  calc text = before ++ dropBlanks text := front
    _ = before ++ ((dropBlanks text).reverse).reverse := by rw [List.reverse_reverse]
    _ = before ++ trim text ++ after.reverse := by
      rw [back, List.reverse_append, List.append_assoc]
      rfl

/-! Numbers that are written in full. -/

/-- What decimal digits denote: each place weighs ten times the one after it. -/
def denoted (digits : List Char) : Nat :=
  Nat.ofDigits 10 (digits.reverse.map digitValue)

/-- Digits after an optional plus, or after a minus where negative numbers are
meant. -/
inductive Numeral (signed : Bool) : List Char → Int → Prop
  | bare {digits : List Char} : Digits digits → Numeral signed digits (denoted digits)
  | plus {digits : List Char} : Digits digits →
      Numeral signed ('+' :: digits) (denoted digits)
  | minus {digits : List Char} : signed → Digits digits →
      Numeral signed ('-' :: digits) (-denoted digits)

theorem Digits.head?_ne {digits : List Char} (full : Digits digits) {sign : Char}
    (noDigit : sign.isDigit = false) : digits.head? ≠ some sign := by
  intro head
  have digit := full.2 sign (List.mem_of_head? head)
  rw [noDigit] at digit
  cases digit

theorem readDigits?_eq_some_iff {text : List Char} {value : Nat} :
    readDigits? text = some value ↔ Digits text ∧ denoted text = value := by
  unfold readDigits? Digits
  rw [denoted, ← ofDigits_eq]
  split
  · rename_i digits
    have all : text ≠ [] ∧ ∀ digit ∈ text, digit.isDigit := by
      simpa [isDigit_eq] using digits
    rw [Option.some_inj, and_iff_right all]
  · rename_i other
    simp only [reduceCtorEq, false_iff]
    rintro ⟨⟨some, all⟩, _⟩
    exact other ⟨some, List.all_eq_true.mpr all⟩

theorem IntegerRange.within?_eq_some_iff {range : IntegerRange} {value number : Int} :
    range.within? value = some number ↔ value = number ∧ range.Holds number := by
  unfold within?
  split
  · rename_i holds
    constructor
    · rintro ⟨⟩
      exact ⟨rfl, holds⟩
    · rintro ⟨rfl, _⟩
      rfl
  · rename_i outside
    constructor
    · rintro ⟨⟩
    · rintro ⟨rfl, holds⟩
      exact absurd holds outside

namespace IntegerRange

variable {range : IntegerRange} {text : List Char} {number : Int}

theorem read?_plus (digits : List Char) :
    range.read? ('+' :: digits) =
      (readDigits? digits).bind fun value => range.within? value := rfl

theorem read?_minus (digits : List Char) :
    range.read? ('-' :: digits) =
      if range.least < 0 then
        (readDigits? digits).bind fun value => range.within? (-(value : Int))
      else none := rfl

theorem read?_bare {digits : List Char} (plus : digits.head? ≠ some '+')
    (minus : digits.head? ≠ some '-') :
    range.read? digits =
      (readDigits? digits).bind fun value => range.within? value := by
  unfold read?
  split
  · exact absurd rfl plus
  · exact absurd rfl minus
  · rfl

theorem within_of_bind {read : Option Nat} {value : Nat → Int}
    (reads : read.bind (fun digits => range.within? (value digits)) = some number) :
    ∃ digits, read = some digits ∧ value digits = number ∧ range.Holds number := by
  obtain ⟨digits, same, within⟩ := Option.bind_eq_some_iff.mp reads
  exact ⟨digits, same, within?_eq_some_iff.mp within⟩

/-- Reading takes the numerals in the range and nothing else. -/
theorem read?_eq_some_iff :
    range.read? text = some number ↔
      Numeral (range.least < 0) text number ∧ range.Holds number := by
  constructor
  · intro reads
    by_cases plus : text.head? = some '+'
    · obtain ⟨digits, rfl⟩ := List.head?_eq_some_iff.mp plus
      obtain ⟨value, read, rfl, holds⟩ := within_of_bind (read?_plus digits ▸ reads)
      obtain ⟨full, rfl⟩ := readDigits?_eq_some_iff.mp read
      exact ⟨.plus full, holds⟩
    by_cases minus : text.head? = some '-'
    · obtain ⟨digits, rfl⟩ := List.head?_eq_some_iff.mp minus
      rw [read?_minus] at reads
      split at reads
      · rename_i negative
        obtain ⟨value, read, rfl, holds⟩ := within_of_bind reads
        obtain ⟨full, rfl⟩ := readDigits?_eq_some_iff.mp read
        exact ⟨.minus (decide_eq_true negative) full, holds⟩
      · cases reads
    · obtain ⟨value, read, rfl, holds⟩ :=
        within_of_bind (read?_bare plus minus ▸ reads)
      obtain ⟨full, rfl⟩ := readDigits?_eq_some_iff.mp read
      exact ⟨.bare full, holds⟩
  · rintro ⟨numeral, holds⟩
    cases numeral with
    | bare full =>
        rw [read?_bare (full.head?_ne rfl) (full.head?_ne rfl),
          readDigits?_eq_some_iff.mpr ⟨full, rfl⟩]
        exact within?_eq_some_iff.mpr ⟨rfl, holds⟩
    | plus full =>
        rw [read?_plus, readDigits?_eq_some_iff.mpr ⟨full, rfl⟩]
        exact within?_eq_some_iff.mpr ⟨rfl, holds⟩
    | minus signed full =>
        rw [read?_minus, if_pos (of_decide_eq_true signed),
          readDigits?_eq_some_iff.mpr ⟨full, rfl⟩]
        exact within?_eq_some_iff.mpr ⟨rfl, holds⟩

end IntegerRange

/-- A text that is a numeral but for blanks around it. -/
def Shows (range : IntegerRange) (text : List Char) (number : Int) : Prop :=
  ∃ before numeral after, text = before ++ numeral ++ after ∧
    Blank before ∧ Blank after ∧
    Numeral (range.least < 0) numeral number ∧ range.Holds number

/-- No character of a stretch that the blanks leave out is blank. -/
theorem isBlank_of_apart {least greatest : Nat} {c : Char} (low : least ≤ c.toNat)
    (high : c.toNat ≤ greatest)
    (apart : ∀ range ∈ blankRanges, range.2 < least ∨ greatest < range.1) :
    isBlank c = false := by
  rw [isBlank, Bool.eq_false_iff, Ne, inRanges_iff]
  rintro ⟨range, member, above, below⟩
  have outside := apart range member
  omega

theorem isBlank_of_isDigit {c : Char} (digit : isDigit c) : isBlank c = false := by
  have bounds : '0' ≤ c ∧ c ≤ '9' := by simpa [isDigit] using digit
  have least : 48 ≤ c.toNat := bounds.1
  have greatest : c.toNat ≤ 57 := bounds.2
  exact isBlank_of_apart least greatest (by decide)

theorem Numeral.unblank {signed : Bool} {text : List Char} {number : Int}
    (numeral : Numeral signed text number) : ∀ c ∈ text, isBlank c = false := by
  cases numeral with
  | bare full => exact fun c member => isBlank_of_isDigit (full.2 c member)
  | plus full | minus _ full =>
      intro c member
      rcases List.mem_cons.mp member with rfl | later
      · rfl
      · exact isBlank_of_isDigit (full.2 c later)

theorem read?_trim_eq_some_iff {range : IntegerRange} {text : List Char} {number : Int} :
    range.read? (trim text) = some number ↔ Shows range text number := by
  constructor
  · intro reads
    obtain ⟨before, after, leading, closing, whole⟩ := exists_trim text
    obtain ⟨numeral, holds⟩ := IntegerRange.read?_eq_some_iff.mp reads
    exact ⟨before, trim text, after, whole, leading, closing, numeral, holds⟩
  · rintro ⟨before, core, after, rfl, leading, closing, numeral, holds⟩
    rw [trim_append core leading closing, trim_of_unblank numeral.unblank]
    exact IntegerRange.read?_eq_some_iff.mpr ⟨numeral, holds⟩

end FileCleanup.Text
