import FileCleanup.Text.Numeral
import FileCleanup.Time.Instant

namespace FileCleanup.Time

open Text

/-! The clock of a machine.  It counts from the beginning of 1970, and what it shows has to lie in
the calendar. -/

/-- The units that a span is told in, by their nanoseconds. -/
def spanUnits : List (Nat × String) :=
  [(1000000000, "s"), (1000000, "ms"), (1000, "\xb5s")]

/-- The digits behind the point of `part / whole`, without zeros at the end. -/
def fractionDigits (part whole : Nat) : List Char :=
  let width := (toString whole).length - 1
  ((lastDigits width part).reverse.dropWhile (· = '0')).reverse

/-- A span in the greatest unit that it fills. -/
def Span.written (span : Span) : String :=
  let nanos := span.nanos.toNat
  match spanUnits.find? fun (unit, _) => unit ≤ nanos with
  | none => toString nanos ++ "ns"
  | some (unit, name) =>
    toString (nanos / unit) ++ (match fractionDigits (nanos % unit) unit with
      | [] => ""
      | digits => "." ++ String.ofList digits) ++ name

inductive ClockFault
  | beforeEpoch (distance : Span)
  | beyondCalendar
  deriving DecidableEq, Repr

def ClockFault.message : ClockFault → String
  | beforeEpoch distance =>
    "system time before Unix epoch: SystemTimeError(" ++ distance.written ++ ")"
  | beyondCalendar => "called \x60Option::unwrap()\x60 on a \x60None\x60 value"

/-- The instant that a clock shows so many milliseconds after the base. -/
def Instant.ofClock (millis : Int) : Except ClockFault Instant :=
  let sinceEpoch := base.second * 1000 + millis
  if sinceEpoch < 0 then .error (.beforeEpoch (.ofMillis (-sinceEpoch)))
  else
    match base.plus? (.ofMillis millis) with
    | some instant => .ok instant
    | none => .error .beyondCalendar

end FileCleanup.Time
