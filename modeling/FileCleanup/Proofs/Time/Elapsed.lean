import FileCleanup.Time.Instant

namespace FileCleanup.Time

/-! How much time lies between two instants, and how far back time goes. -/

theorem Span.natAbs_subsecondNanos_lt (span : Span) :
    span.subsecondNanos.natAbs < 1000000000 := by
  rw [subsecondNanos, Int.natAbs_tmod]
  exact Nat.mod_lt _ (by decide)

theorem Span.parts_neg_ofSeconds (seconds : Int) :
    (ofSeconds seconds).neg.wholeSeconds = -seconds ∧
      (ofSeconds seconds).neg.subsecondNanos = 0 := by
  have nanos : (ofSeconds seconds).neg.nanos = -seconds * 1000000000 :=
    (Int.neg_mul _ _).symm
  rw [wholeSeconds, subsecondNanos, nanos]
  exact ⟨Int.mul_tdiv_cancel _ (by decide), Int.mul_tmod_left _ _⟩

/-- The whole seconds of a span and the rest point the same way. -/
theorem Span.parts_sameSign (span : Span) :
    (0 ≤ span.wholeSeconds ∧ 0 ≤ span.subsecondNanos) ∨
      (span.wholeSeconds ≤ 0 ∧ span.subsecondNanos ≤ 0) := by
  have divisor : (0 : Int) ≤ 1000000000 := by decide
  unfold wholeSeconds subsecondNanos
  rcases Int.le_total 0 span.nanos with forward | backward
  · exact .inl ⟨Int.tdiv_nonneg forward divisor, Int.tmod_nonneg _ forward⟩
  · have turned := Int.neg_nonneg_of_nonpos backward
    have whole := Int.tdiv_nonneg turned divisor
    have rest := Int.tmod_nonneg 1000000000 turned
    rw [Int.neg_tdiv] at whole
    rw [Int.neg_tmod] at rest
    exact .inr ⟨Int.nonpos_of_neg_nonneg whole, Int.nonpos_of_neg_nonneg rest⟩

def Span.shorter (left right : Span) : Span :=
  if left.nanos ≤ right.nanos then left else right

@[simp] theorem Span.shorter_self (span : Span) : span.shorter span = span :=
  ite_self span

theorem Span.shorter_comm (left right : Span) :
    left.shorter right = right.shorter left := by
  unfold shorter
  split <;> split
  · rename_i shortens lengthens
    cases left
    cases right
    exact congrArg Span.mk (Int.le_antisymm shortens lengthens)
  · rfl
  · rfl
  · omega

namespace Instant

theorem le_refl (instant : Instant) : instant ≤ instant :=
  Int.le_refl _

/-- Not inside a leap second, as no reading of a clock is. -/
def Ordinary (instant : Instant) : Prop :=
  instant.nano < 1000000000

instance (instant : Instant) : Decidable instant.Ordinary :=
  inferInstanceAs (Decidable (_ < _))

theorem nanosFromBase_lt {left right : Instant} (ordinary : left.Ordinary)
    (before : left < right) : left.nanosFromBase < right.nanosFromBase := by
  have fraction : left.nano < 1000000000 := ordinary
  have leap := right.leap
  rw [lt_iff, key, key] at before
  unfold nanosFromBase
  omega

theorem carried_nanos {second nano : Int} (fraction : 0 ≤ nano)
    (ordinary : nano < 1000000000) (span : Span) :
    (0 ≤ (carried second nano span).2 ∧
      (carried second nano span).2 < 1000000000) ∧
    (carried second nano span).1 * 1000000000 + (carried second nano span).2 =
      second * 1000000000 + nano + span.nanos := by
  have parts := span.nanos_eq
  have small := span.natAbs_subsecondNanos_lt
  unfold carried
  -- Less than a second is added either way, so one carry is enough.
  dsimp only
  split
  · dsimp only
    omega
  · split
    · dsimp only
      omega
    · dsimp only
      omega

theorem nanosFromBase_minus? {instant earlier : Instant} {span : Span}
    (ordinary : instant.Ordinary)
    (led : instant.minus? span = some earlier) :
    earlier.nanosFromBase = instant.nanosFromBase - span.nanos := by
  obtain ⟨second, nano⟩ := eq_of_ofParts? led
  have fraction : instant.nano < 1000000000 := ordinary
  rw [shifted, if_pos fraction] at second nano
  have moved := @carried_nanos instant.second instant.nano
    (Int.natCast_nonneg _) (Int.ofNat_lt.mpr fraction) span.neg
  have back : span.neg.nanos = -span.nanos := rfl
  unfold nanosFromBase
  omega

/-- Where a span leads from an instant.  Seen from inside a leap second, that
one comes before all seconds after it as a second of its own. -/
theorem shifted_nanos (instant : Instant) (span : Span) :
    let place := instant.shifted span
    0 ≤ place.2 ∧
      (place.2 < 1000000000 ∨ place.1 = instant.second ∧
        1000000000 ≤ instant.nano ∧ place.2 < 2000000000) ∧
      place.1 * 1000000000 + place.2 +
          (if 1000000000 ≤ instant.nano ∧ instant.second < place.1 then
            1000000000 else 0) =
        instant.second * 1000000000 + instant.nano + span.nanos := by
  have leap := instant.leap
  have parts := span.nanos_eq
  have small := span.natAbs_subsecondNanos_lt
  have signs := span.parts_sameSign
  unfold shifted
  dsimp only
  split
  · have moved := @carried_nanos instant.second instant.nano (by omega)
      (by omega) span
    omega
  · split
    · have moved := @carried_nanos instant.second (instant.nano - 1000000000)
        (by omega) (by omega) span
      omega
    · split
      · have moved := @carried_nanos (instant.second + 1)
          (instant.nano - 1000000000) (by omega) (by omega) span
        omega
      · dsimp only
        omega

/-- The longer the span, the further back it leads. -/
theorem minus?_antitone {now cutoff earlier : Instant} {age older : Span}
    (longer : age.nanos ≤ older.nanos) (led : now.minus? age = some cutoff)
    (ledOlder : now.minus? older = some earlier) : earlier ≤ cutoff := by
  obtain ⟨second, nano⟩ := eq_of_ofParts? led
  obtain ⟨olderSecond, olderNano⟩ := eq_of_ofParts? ledOlder
  have near := now.shifted_nanos age.neg
  have far := now.shifted_nanos older.neg
  have back : age.neg.nanos = -age.nanos := rfl
  have olderBack : older.neg.nanos = -older.nanos := rfl
  dsimp only at near far
  rw [le_iff, key, key]
  omega

theorem exists_ofParts? {second : Int} {nano : Nat}
    (inRange : firstSecond ≤ second ∧ second ≤ lastSecond)
    (ordinary : nano < 1000000000) :
    ∃ instant, ofParts? second nano = some instant := by
  have leap : nano < 2000000000 ∧ (1000000000 ≤ nano → second % 60 = 59) :=
    ⟨by omega, fun inside => by omega⟩
  exact ⟨_, by rw [ofParts?, dif_pos inRange, dif_pos leap]⟩

/-- Whole seconds lead back as far as the calendar goes. -/
theorem exists_minus? {now : Instant} {seconds : Int}
    (forward : 0 < seconds) (room : firstSecond + seconds ≤ now.second) :
    ∃ earlier, now.minus? (.ofSeconds seconds) = some earlier := by
  obtain ⟨whole, fraction⟩ := Span.parts_neg_ofSeconds seconds
  obtain ⟨_, last⟩ := now.inRange
  obtain ⟨bound, _⟩ := now.leap
  unfold minus? plus? shifted carried
  dsimp only
  rw [whole, fraction]
  split
  · rw [if_neg (by omega), if_neg (by omega)]
    exact exists_ofParts? ⟨by omega, by omega⟩ (by omega)
  · rw [if_neg (by omega), if_pos (by omega), if_neg (by omega),
      if_neg (by omega)]
    exact exists_ofParts? ⟨by omega, by omega⟩ (by omega)

end Instant

end FileCleanup.Time
