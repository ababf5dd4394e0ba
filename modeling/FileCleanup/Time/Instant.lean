import FileCleanup.Time.Calendar
import FileCleanup.Time.Span

namespace FileCleanup.Time

/-!
Points in time, in UTC, to the nanosecond.  A second that ends a minute may be followed by a leap
second, which shares its number: there `nano` runs on from 1000000000 to 1999999999.
-/

/-- The first second of year -262143. -/
def firstSecond : Int := (Date.mk (-262143) 1 1).dayNumber * 86400

/-- The last second of year 262142. -/
def lastSecond : Int := (Date.mk 262142 12 31).dayNumber * 86400 + 86399

structure Instant where
  second : Int
  nano : Nat
  inRange : firstSecond ≤ second ∧ second ≤ lastSecond
  leap : nano < 2000000000 ∧ (1000000000 ≤ nano → second % 60 = 59)
  deriving DecidableEq, Repr

namespace Instant

def ofParts? (second : Int) (nano : Nat) : Option Instant :=
  if inRange : firstSecond ≤ second ∧ second ≤ lastSecond then
    if leap : nano < 2000000000 ∧ (1000000000 ≤ nano → second % 60 = 59) then
      some ⟨second, nano, inRange, leap⟩
    else none
  else none

/-- A number that grows with time, leap seconds included. -/
def key (instant : Instant) : Int :=
  instant.second * 2000000000 + instant.nano

theorem key_injective {left right : Instant} (same : left.key = right.key) : left = right := by
  cases left with
  | mk leftSecond leftNano leftRange leftLeap =>
    cases right with
    | mk rightSecond rightNano rightRange rightLeap =>
      simp only [key] at same
      have second : leftSecond = rightSecond := by omega
      have nano : leftNano = rightNano := by omega
      subst second
      subst nano
      rfl

instance : LE Instant := ⟨fun left right => left.key ≤ right.key⟩
instance : LT Instant := ⟨fun left right => left.key < right.key⟩

instance (left right : Instant) : Decidable (left ≤ right) :=
  inferInstanceAs (Decidable (left.key ≤ right.key))

instance (left right : Instant) : Decidable (left < right) :=
  inferInstanceAs (Decidable (left.key < right.key))

theorem le_iff {left right : Instant} : left ≤ right ↔ left.key ≤ right.key := Iff.rfl

theorem lt_iff {left right : Instant} : left < right ↔ left.key < right.key := Iff.rfl

/-- The sum of a second's parts and a span, with whole seconds carried out of the fraction. -/
def carried (second nano : Int) (span : Span) : Int × Int :=
  let seconds := second + span.wholeSeconds
  let nanos := nano + span.subsecondNanos
  if nanos < 0 then (seconds - 1, nanos + 1000000000)
  else if 1000000000 ≤ nanos then (seconds + 1, nanos - 1000000000)
  else (seconds, nanos)

/-- Where a span leads from an instant, as second and nanosecond.  A leap second is left backward
as the second after it and forward as the second it extends; a fraction that stays inside the
pair is added in place. -/
def shifted (instant : Instant) (span : Span) : Int × Int :=
  if instant.nano < 1000000000 then carried instant.second instant.nano span
  else if 0 < span.wholeSeconds ∨
      (0 < span.subsecondNanos ∧ 2000000000 ≤ instant.nano + span.subsecondNanos) then
    carried instant.second (instant.nano - 1000000000) span
  else if span.wholeSeconds < 0 then
    carried (instant.second + 1) (instant.nano - 1000000000) span
  else (instant.second, instant.nano + span.subsecondNanos)

/-- The instant a span later, unless it lies outside the calendar's range. -/
def plus? (instant : Instant) (span : Span) : Option Instant :=
  let place := shifted instant span
  ofParts? place.1 place.2.toNat

def minus? (instant : Instant) (span : Span) : Option Instant :=
  instant.plus? span.neg

theorem eq_of_ofParts? {second : Int} {nano : Nat} {instant : Instant}
    (made : ofParts? second nano = some instant) :
    instant.second = second ∧ instant.nano = nano := by
  unfold ofParts? at made
  split at made
  · split at made
    · cases made
      exact ⟨rfl, rfl⟩
    · cases made
  · cases made

private theorem carried_le (second : Int) {nano : Int} {span : Span} (fraction : 0 ≤ nano)
    (bound : nano < 1000000000)
    (backward : -1000000000 < span.subsecondNanos ∧ span.subsecondNanos ≤ 0) :
    0 ≤ (carried second nano span).2 ∧
      (carried second nano span).1 * 2000000000 + (carried second nano span).2 ≤
        (second + span.wholeSeconds) * 2000000000 + nano := by
  unfold carried
  dsimp only
  split
  · dsimp only
    omega
  · rw [if_neg (by omega)]
    dsimp only
    omega

private theorem shifted_le (instant : Instant) {span : Span} (whole : span.wholeSeconds ≤ 0)
    (backward : -1000000000 < span.subsecondNanos ∧ span.subsecondNanos ≤ 0) :
    0 ≤ (instant.shifted span).2 ∧
      (instant.shifted span).1 * 2000000000 + (instant.shifted span).2 ≤ instant.key := by
  have leap := instant.leap
  unfold shifted key
  split
  · have moved := carried_le instant.second (Int.natCast_nonneg instant.nano) (by omega) backward
    omega
  · rw [if_neg (by omega)]
    split
    · have fraction : 0 ≤ (instant.nano : Int) - 1000000000 := by omega
      have moved := carried_le (instant.second + 1) fraction (by omega) backward
      omega
    · dsimp only
      omega

theorem minus?_le {instant earlier : Instant} {span : Span} (forward : 0 ≤ span.nanos)
    (led : instant.minus? span = some earlier) : earlier ≤ instant := by
  have whole : span.neg.wholeSeconds ≤ 0 := by
    have seconds := Int.tdiv_nonneg forward (show (0 : Int) ≤ 1000000000 by decide)
    simp only [Span.wholeSeconds, Span.neg, Int.neg_tdiv]
    omega
  have backward : -1000000000 < span.neg.subsecondNanos ∧ span.neg.subsecondNanos ≤ 0 := by
    have rest := Int.tmod_nonneg 1000000000 forward
    have bound := Int.tmod_lt_of_pos span.nanos (show (0 : Int) < 1000000000 by decide)
    simp only [Span.subsecondNanos, Span.neg, Int.neg_tmod]
    omega
  obtain ⟨second, nano⟩ := eq_of_ofParts? led
  have moved := shifted_le instant whole backward
  rw [le_iff, key, second, nano]
  omega

/-- 2024-01-01T00:00:00Z, from which simulated clocks count. -/
def base : Instant :=
  ⟨1704067200, 0, by decide, by decide⟩

/-- The instant `millis` after another one, or the calendar's nearest end. -/
def later (instant : Instant) (millis : Int) : Instant :=
  match instant.plus? (Span.ofMillis millis) with
  | some instant => instant
  | none =>
    if millis < 0 then ⟨firstSecond, 0, by decide, by decide⟩
    else ⟨lastSecond, 999999999, by decide, by decide⟩

def ofMillis (millis : Int) : Instant :=
  base.later millis

/-- Nanoseconds since the base, each leap second counted with the second it extends. -/
def nanosFromBase (instant : Instant) : Int :=
  (instant.second - base.second) * 1000000000 + instant.nano

end Instant

end FileCleanup.Time
