import FileCleanup.Binary64

namespace FileCleanup.Time

/-! Signed lengths of time, exact to the nanosecond. -/

structure Span where
  nanos : Int
  deriving DecidableEq, Repr

namespace Span

def ofSeconds (seconds : Int) : Span := ⟨seconds * 1000000000⟩
def ofMillis (millis : Int) : Span := ⟨millis * 1000000⟩
def ofDays (days : Int) : Span := ofSeconds (days * 86400)

def neg (span : Span) : Span := ⟨-span.nanos⟩

/-- The whole seconds of a span, cut off toward zero. -/
def wholeSeconds (span : Span) : Int := span.nanos.tdiv 1000000000

/-- What the whole seconds leave, with the sign of the span. -/
def subsecondNanos (span : Span) : Int := span.nanos.tmod 1000000000

theorem nanos_eq (span : Span) :
    span.nanos = span.wholeSeconds * 1000000000 + span.subsecondNanos := by
  have := Int.mul_tdiv_add_tmod span.nanos 1000000000
  simp only [wholeSeconds, subsecondNanos]
  omega

/-- The seconds of a span that is not negative: whole and broken seconds are rounded apart, and
then their sum. -/
def inSeconds (span : Span) : Binary64 :=
  (Binary64.ofRatio (.ofNat span.wholeSeconds.toNat)).add
    (Binary64.ofRatio ⟨span.subsecondNanos.toNat, 1000000000⟩)

/-- The longest span that calendar arithmetic takes: as many milliseconds as a signed 64-bit
number counts. -/
def longest : Span := ofMillis 9223372036854775807

def InRange (span : Span) : Prop :=
  -longest.nanos ≤ span.nanos ∧ span.nanos ≤ longest.nanos

instance (span : Span) : Decidable span.InRange :=
  inferInstanceAs (Decidable (_ ∧ _))

end Span

end FileCleanup.Time
