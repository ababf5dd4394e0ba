import FileCleanup.Time.Calendar
import Mathlib.Algebra.BigOperators.Group.List.Basic
import Mathlib.Algebra.Order.Ring.Nat

namespace FileCleanup.Time

/-! Every day has one valid date. -/

/-- Years lie at most a day and a half from where the mean year puts them.  The
four cycles of the calendar make the distance linear. -/
theorem daysBeforeYear_bounds (year : Int) :
    146097 * year - 288 ≤ 400 * daysBeforeYear year ∧
      400 * daysBeforeYear year ≤ 146097 * year + 591 := by
  obtain ⟨cycle, century, four, rest, parts, bounds⟩ : ∃ cycle century four rest : Int,
      year = 400 * cycle + 100 * century + 4 * four + rest + 1 ∧
        0 ≤ century ∧ century ≤ 3 ∧ 0 ≤ four ∧ four ≤ 24 ∧ 0 ≤ rest ∧ rest ≤ 3 :=
    ⟨(year - 1) / 400, (year - 1) % 400 / 100, (year - 1) % 100 / 4, (year - 1) % 4,
      by omega, by omega⟩
  have fourths : (year + 3) / 4 = 100 * cycle + 25 * century + four + 1 := by omega
  have hundredths : (year + 99) / 100 = 4 * cycle + century + 1 := by omega
  have cycles : (year + 399) / 400 = cycle + 1 := by omega
  unfold daysBeforeYear
  omega

/-- The estimate is right, or the year after or before it is. -/
theorem yearOfDays_bounds (days : Int) :
    daysBeforeYear (Date.yearOfDays days) ≤ days ∧
      days < daysBeforeYear (Date.yearOfDays days + 1) := by
  have next := daysBeforeYear_bounds (days * 400 / 146097 + 1 + 1)
  have previous := daysBeforeYear_bounds (days * 400 / 146097 - 1)
  unfold Date.yearOfDays
  dsimp only
  split
  · rename_i late
    exact ⟨late, by omega⟩
  split
  · rename_i before fits
    exact ⟨fits, by omega⟩
  · rename_i early
    exact ⟨by omega, by rw [Int.sub_add_cancel]; omega⟩

theorem sum_monthLengths (leap : Bool) :
    (monthLengths leap).sum = if leap then 366 else 365 := by
  cases leap <;> rfl

theorem daysBeforeYear_succ (year : Int) :
    daysBeforeYear (year + 1) =
      daysBeforeYear year + (monthLengths (isLeapYear year)).sum := by
  rw [sum_monthLengths]
  unfold daysBeforeYear
  split
  · rename_i leap
    simp only [isLeapYear, Bool.and_eq_true, Bool.or_eq_true, decide_eq_true_eq] at leap
    omega
  · rename_i common
    simp only [isLeapYear, Bool.and_eq_true, Bool.or_eq_true, decide_eq_true_eq] at common
    omega

/-- A day of the year as a month, counted from `first`, and a day in it. -/
structure Placed (first : Nat) (lengths : List Nat) (offset : Nat) (place : Nat × Nat) :
    Prop where
  month : first ≤ place.1 ∧ place.1 < first + lengths.length
  day : 1 ≤ place.2 ∧ place.2 ≤ lengths.getD (place.1 - first) 0
  whole : (lengths.take (place.1 - first)).sum + place.2 = offset + 1

theorem placed_monthAndDay (first : Nat) {lengths : List Nat} {offset : Nat}
    (within : offset < lengths.sum) :
    Placed first lengths offset (Date.monthAndDay first lengths offset) := by
  induction lengths generalizing first offset with
  | nil => cases within
  | cons length rest induction =>
      rw [Date.monthAndDay]
      split
      · rename_i here
        exact ⟨by simp, ⟨Nat.le_add_left 1 offset, by simpa using Nat.succ_le_of_lt here⟩, by simp⟩
      · rename_i later
        rw [List.sum_cons] at within
        obtain ⟨⟨least, greatest⟩, day, whole⟩ :=
          induction (first + 1) (show offset - length < rest.sum by omega)
        generalize Date.monthAndDay (first + 1) rest (offset - length) = place at *
        have onward : place.1 - first = place.1 - (first + 1) + 1 := by omega
        refine ⟨⟨by omega, by rw [List.length_cons]; omega⟩, ?_, ?_⟩
        · rw [onward, List.getD_cons_succ]
          exact day
        · rw [onward, List.take_succ_cons, List.sum_cons]
          omega

namespace Date

/-- The day of the year is that of the month and the day. -/
theorem placed_ofDayNumber (number : Int) :
    let date := ofDayNumber number
    let offset := number + epochDays - daysBeforeYear date.year
    0 ≤ offset ∧
      Placed 1 (monthLengths (isLeapYear date.year)) offset.toNat (date.month, date.day) := by
  obtain ⟨begun, unended⟩ := yearOfDays_bounds (number + epochDays)
  rw [daysBeforeYear_succ] at unended
  have forward : 0 ≤ number + epochDays - daysBeforeYear (ofDayNumber number).year :=
    Int.sub_nonneg_of_le begun
  exact ⟨forward, placed_monthAndDay 1
    ((Int.toNat_lt forward).mpr (Int.sub_left_lt_of_lt_add unended))⟩

theorem Valid.small {date : Date} (valid : date.Valid) :
    date.month ≤ 12 ∧ date.day ≤ 31 := by
  obtain ⟨_, last, _, day⟩ := valid
  have lengths : ∀ (leap : Bool) (index : Fin 12),
      (monthLengths leap).getD index 0 ≤ 31 := by
    decide
  exact ⟨last, Nat.le_trans day (lengths _ ⟨date.month - 1, by omega⟩)⟩

theorem valid_ofDayNumber (number : Int) : (ofDayNumber number).Valid := by
  obtain ⟨_, ⟨least, greatest⟩, ⟨positive, fits⟩, _⟩ := placed_ofDayNumber number
  exact ⟨least, Nat.lt_succ_iff.mp greatest, positive, fits⟩

theorem dayNumber_ofDayNumber (number : Int) : (ofDayNumber number).dayNumber = number := by
  obtain ⟨forward, placed⟩ := placed_ofDayNumber number
  have whole := placed.whole
  rw [dayNumber, daysBeforeMonth, ← List.sum_eq_foldl]
  dsimp only at forward whole
  omega

end Date

end FileCleanup.Time
