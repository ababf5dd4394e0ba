import FileCleanup.Proofs.Text.Numeral
import FileCleanup.Proofs.Time.Calendar
import FileCleanup.Time.Stamp

namespace FileCleanup.Time

open Text

/-! Instants that are written are read back, every nanosecond of the calendar. -/

namespace Stamp

theorem blanks_run {c : Char} (solid : isBlank c = false) (rest : List Char) :
    blanks.run (c :: rest) = some ((), c :: rest) := by
  have kept : dropBlanks (c :: rest) = c :: rest :=
    List.dropWhile_cons_of_neg (by simp [solid])
  exact congrArg (fun text => some ((), text)) kept

theorem expect_run (c : Char) (rest : List Char) :
    (expect c).run (c :: rest) = some ((), rest) := by
  simp [expect]

/-- Digits are taken up to the width, or up to what is no digit. -/
theorem digits_run {width : Nat} {taken rest : List Char} (full : Digits taken)
    (short : taken.length ≤ width)
    (stop : taken.length = width ∨ ∀ c ∈ rest.head?, isDigit c = false) :
    (digits width).run (taken ++ rest) = some (taken, rest) := by
  have run : ((taken ++ rest).take width).takeWhile isDigit = taken := by
    rw [List.take_append, List.take_of_length_le short]
    apply takeWhile_isDigit full.2
    intro c head
    rw [List.head?_take] at head
    split at head
    · cases head
    · rename_i room
      exact stop.elim (fun same => absurd (by omega) room) (· c head)
  rw [digits]
  simp only [StateT.run_bind, StateT.run_get, Option.pure_def, Option.bind_eq_bind,
    Option.bind_some, run, if_neg full.1, List.drop_left]
  rfl

theorem field_run {width : Nat} {taken rest : List Char} (full : Digits taken)
    (short : taken.length ≤ width)
    (stop : taken.length = width ∨ ∀ c ∈ rest.head?, isDigit c = false) :
    (field width).run (taken ++ rest) = some (ofDigits taken, rest) := by
  have read := digits_run full short stop
  obtain ⟨first, more, rfl⟩ := List.exists_cons_of_ne_nil full.1
  have solid := isBlank_of_isDigit (full.2 first List.mem_cons_self)
  rw [List.cons_append] at read ⊢
  rw [field, run_bind (blanks_run solid _), run_bind read]
  rfl

/-- A field of fixed width with zeros in front. -/
theorem field_lastDigits {width : Nat} (some' : 0 < width) (value : Nat) (rest : List Char) :
    (field width).run (lastDigits width value ++ rest) =
      some (value % 10 ^ width, rest) := by
  have length := length_lastDigits width value
  rw [← ofDigits_lastDigits]
  exact field_run (digits_lastDigits some' value) length.le (.inl length)

/-- The digits of a number, before a hyphen. -/
theorem digits_hyphen {width value : Nat} (reach : (padded 4 value).length ≤ width)
    (rest : List Char) :
    (digits width).run (padded 4 value ++ '-' :: rest) =
      some (padded 4 value, '-' :: rest) :=
  digits_run (digits_padded 4 value) reach (.inr (by simp [show isDigit '-' = false from rfl]))

variable {text taken rest : List Char}

theorem year_minus (read : (digits text.length).run text = some (taken, rest)) :
    Stamp.year.run ('-' :: text) = some (-(ofDigits taken : Int), rest) := by
  rw [Stamp.year, run_bind (blanks_run rfl _)]
  simp [read]

theorem year_plus (read : (digits text.length).run text = some (taken, rest)) :
    Stamp.year.run ('+' :: text) = some ((ofDigits taken : Int), rest) := by
  rw [Stamp.year, run_bind (blanks_run rfl _)]
  simp [read]

theorem year_bare {first : Char} (digit : isDigit first)
    (read : (digits 4).run (first :: text) = some (taken, rest)) :
    Stamp.year.run (first :: text) = some ((ofDigits taken : Int), rest) := by
  have minus : first ≠ '-' := by
    rintro rfl
    cases digit
  have plus : first ≠ '+' := by
    rintro rfl
    cases digit
  rw [Stamp.year, run_bind (blanks_run (isBlank_of_isDigit digit) _)]
  simp [read, minus, plus]

theorem year_run (year : Int) (rest : List Char) :
    Stamp.year.run (yearText year ++ '-' :: rest) = some (year, '-' :: rest) := by
  unfold yearText
  split
  · rename_i within
    have short : year.toNat < 10 ^ 4 := by omega
    have read := digits_hyphen (length_padded (by decide) short).le rest
    have value := ofDigits_padded 4 year.toNat
    have full := digits_padded 4 year.toNat
    obtain ⟨first, more, same⟩ := List.exists_cons_of_ne_nil full.1
    rw [same] at read value full ⊢
    rw [List.cons_append] at read ⊢
    rw [year_bare (full.2 first List.mem_cons_self) read, value,
      Int.toNat_of_nonneg within.1]
  split
  · rename_i negative
    rw [List.cons_append, year_minus (digits_hyphen (by simp) rest), ofDigits_padded,
      Int.toNat_of_nonneg (by omega), Int.neg_neg]
  · rw [List.cons_append, year_plus (digits_hyphen (by simp) rest), ofDigits_padded,
      Int.toNat_of_nonneg (by omega)]

theorem separator_run (rest : List Char) :
    separator.run ('T' :: rest) = some ((), rest) := rfl

theorem offset_run (rest : List Char) : offset.run ('Z' :: rest) = some (0, rest) := by
  simp [offset, blanks_run (show isBlank 'Z' = false from rfl)]

/-- Fractions of a second in three, six or nine digits. -/
theorem fraction_lastDigits {width : Nat} (some' : 0 < width) (fits : width ≤ 9)
    (value : Nat) (rest : List Char) :
    fraction.run ('.' :: lastDigits width value ++ 'Z' :: rest) =
      some (value % 10 ^ width * 10 ^ (9 - width), 'Z' :: rest) := by
  have length := length_lastDigits width value
  have read : (digits 9).run (lastDigits width value ++ 'Z' :: rest) =
      some (lastDigits width value, 'Z' :: rest) :=
    digits_run (digits_lastDigits some' value) (by omega)
      (.inr (by simp [show isDigit 'Z' = false from rfl]))
  rw [← ofDigits_lastDigits]
  simp [fraction, read, length, show isDigit 'Z' = false from rfl]

theorem fraction_run {nano : Nat} (bound : nano < 1000000000) (rest : List Char) :
    fraction.run (fractionText nano ++ 'Z' :: rest) = some (nano, 'Z' :: rest) := by
  unfold fractionText
  split
  · rename_i whole
    rw [whole]
    rfl
  split
  · rename_i millis
    rw [fraction_lastDigits (by decide) (by decide)]
    congr 2
    omega
  split
  · rename_i micros
    rw [fraction_lastDigits (by decide) (by decide)]
    congr 2
    omega
  · rw [fraction_lastDigits (by decide) (by decide)]
    congr 2
    omega

theorem separated_run {c : Char} (solid : isBlank c = false) {width : Nat}
    (some' : 0 < width) (value : Nat) (rest : List Char) :
    (separated c width).run (c :: (lastDigits width value ++ rest)) =
      some (value % 10 ^ width, rest) := by
  rw [separated, run_bind (blanks_run solid _), run_bind (expect_run c _)]
  exact field_lastDigits some' value rest

/-- What the text of an instant says. -/
def ofInstant (instant : Instant) : Parts :=
  let ofDay := (instant.second % 86400).toNat
  { date := Date.ofDayNumber (instant.second / 86400)
    hour := ofDay / 3600
    minute := ofDay / 60 % 60
    second := ofDay % 60 + instant.nano / 1000000000
    nano := instant.nano % 1000000000
    offset := 0 }

theorem parts_run (instant : Instant) :
    parts.run instant.stamp = some (ofInstant instant, []) := by
  obtain ⟨month, day⟩ := (Date.valid_ofDayNumber (instant.second / 86400)).small
  have leap := instant.leap
  have hyphen : isBlank '-' = false := rfl
  have colon : isBlank ':' = false := rfl
  have fraction := fraction_run (Nat.mod_lt instant.nano (by decide)) []
  unfold Instant.stamp ofInstant
  dsimp only
  generalize Date.ofDayNumber (instant.second / 86400) = date at *
  -- Fields of two digits hold what they have to: no number needs a third.
  have fits : date.month % 10 ^ 2 = date.month ∧ date.day % 10 ^ 2 = date.day := by omega
  have hour : (instant.second % 86400).toNat / 3600 % 10 ^ 2 =
      (instant.second % 86400).toNat / 3600 := by omega
  have minute : (instant.second % 86400).toNat / 60 % 60 % 10 ^ 2 =
      (instant.second % 86400).toNat / 60 % 60 := by omega
  have second : ((instant.second % 86400).toNat % 60 + instant.nano / 1000000000) % 10 ^ 2 =
      (instant.second % 86400).toNat % 60 + instant.nano / 1000000000 := by omega
  simp only [List.append_assoc, List.cons_append]
  rw [parts, run_bind (year_run _ _), run_bind (separated_run hyphen Nat.two_pos _ _),
    run_bind (separated_run hyphen Nat.two_pos _ _), run_bind (separator_run _),
    run_bind (field_lastDigits Nat.two_pos _ _), run_bind (separated_run colon Nat.two_pos _ _),
    run_bind (separated_run colon Nat.two_pos _ _), run_bind fraction, run_bind (offset_run _),
    fits.1, fits.2, hour, minute, second]
  rfl

theorem instant?_ofInstant (instant : Instant) :
    (ofInstant instant).instant? = some instant := by
  have valid := Date.valid_ofDayNumber (instant.second / 86400)
  have number := Date.dayNumber_ofDayNumber (instant.second / 86400)
  have leap := instant.leap
  have inRange := instant.inRange
  unfold Parts.instant? ofInstant
  dsimp only
  generalize Date.ofDayNumber (instant.second / 86400) = date at *
  have here : date.dayNumber * 86400 +
      (((instant.second % 86400).toNat / 3600 * 3600 +
        (instant.second % 86400).toNat / 60 % 60 * 60 +
        min ((instant.second % 86400).toNat % 60 + instant.nano / 1000000000) 59 : Nat) : Int) =
      instant.second := by
    omega
  have nano : (if (instant.second % 86400).toNat % 60 + instant.nano / 1000000000 = 60 then
      instant.nano % 1000000000 + 1000000000 else instant.nano % 1000000000) = instant.nano := by
    split <;> omega
  rw [if_pos ⟨valid, by omega, by omega, by omega, by decide, by decide⟩, here, if_pos inRange,
    Int.sub_zero, nano, Instant.ofParts?, dif_pos inRange, dif_pos leap]

end Stamp

/-- Reading the text of an instant gives back the instant. -/
theorem Instant.ofStamp?_stamp (instant : Instant) : ofStamp? instant.stamp = some instant := by
  rw [ofStamp?, Stamp.parts_run, Option.bind_some, Stamp.instant?_ofInstant]

end FileCleanup.Time
