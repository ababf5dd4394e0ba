import FileCleanup.Text.Numeral
import FileCleanup.Time.Instant

namespace FileCleanup.Time

open Text

/-!
The written form of an instant: date, `T`, time of day with as many fraction digits as needed in
groups of three, and `Z`.  Reading also takes an offset, a lower-case or blank separator, blanks
before the numbers, and numbers without leading zeros.
-/

/-- Four digits in the years 0 to 9999; other years carry a sign. -/
def yearText (year : Int) : List Char :=
  if 0 ≤ year ∧ year ≤ 9999 then padded 4 year.toNat
  else if year < 0 then '-' :: padded 4 (-year).toNat
  else '+' :: padded 4 year.toNat

/-- No digits for a whole second, otherwise three, six or nine, whichever suffices. -/
def fractionText (nano : Nat) : List Char :=
  if nano = 0 then []
  else if nano % 1000000 = 0 then '.' :: lastDigits 3 (nano / 1000000)
  else if nano % 1000 = 0 then '.' :: lastDigits 6 (nano / 1000)
  else '.' :: lastDigits 9 nano

namespace Instant

/-- A leap second shows as second 60. -/
def stamp (instant : Instant) : List Char :=
  let date := Date.ofDayNumber (instant.second / 86400)
  let ofDay := (instant.second % 86400).toNat
  let second := ofDay % 60 + instant.nano / 1000000000
  yearText date.year ++ '-' :: lastDigits 2 date.month ++ '-' :: lastDigits 2 date.day ++
    'T' :: lastDigits 2 (ofDay / 3600) ++ ':' :: lastDigits 2 (ofDay / 60 % 60) ++
    ':' :: lastDigits 2 second ++ fractionText (instant.nano % 1000000000) ++ ['Z']

def text (instant : Instant) : String :=
  String.ofList instant.stamp

end Instant

/-- An optional instant as log fields show it. -/
def optionText : Option Instant → String
  | none => "None"
  | some instant => "Some(" ++ instant.text ++ ")"

namespace Stamp

/-- A reader of the start of a text, which leaves the rest. -/
abbrev Scan := StateT (List Char) Option

def blanks : Scan Unit :=
  modify dropBlanks

def expect (c : Char) : Scan Unit := do
  match ← get with
  | head :: rest => if head = c then set rest else failure
  | [] => failure

/-- One to `width` decimal digits, as many as there are. -/
def digits (width : Nat) : Scan (List Char) := do
  let text ← get
  let taken := (text.take width).takeWhile isDigit
  if taken = [] then failure
  set (text.drop taken.length)
  return taken

def field (width : Nat) : Scan Nat := do
  blanks
  return ofDigits (← digits width)

/-- A signed year takes all digits that follow, a bare one at most four. -/
def year : Scan Int := do
  blanks
  match ← get with
  | '-' :: rest =>
    set rest
    return -(ofDigits (← digits rest.length) : Int)
  | '+' :: rest =>
    set rest
    return ofDigits (← digits rest.length)
  | _ => return ofDigits (← digits 4)

def separated (c : Char) (width : Nat) : Scan Nat := do
  blanks
  expect c
  field width

/-- The nanoseconds after an optional point; digits beyond the ninth are skipped. -/
def fraction : Scan Nat := do
  match ← get with
  | '.' :: rest =>
    set rest
    let taken ← digits 9
    modify (·.dropWhile isDigit)
    return ofDigits taken * Nat.pow 10 (9 - taken.length)
  | _ => return 0

def twoDigits (greatestTens : Char) : Scan Nat := do
  match ← get with
  | tens :: units :: rest =>
    if isDigit tens ∧ tens ≤ greatestTens ∧ isDigit units then
      set rest
      return ofDigits [tens, units]
    else failure
  | _ => failure

def hoursAndMinutes : Scan Nat := do
  let hours ← twoDigits '9'
  modify (·.dropWhile fun c => c == ':' || isBlank c)
  let minutes ← twoDigits '5'
  return hours * 3600 + minutes * 60

/-- The offset from UTC in seconds: `UTC` or `Z` in either case, or a sign with hours and
minutes; the sign may be a minus of typography. -/
def offset : Scan Int := do
  blanks
  match ← get with
  | 'Z' :: rest | 'z' :: rest =>
    set rest
    return 0
  | '+' :: rest =>
    set rest
    return (← hoursAndMinutes)
  | '-' :: rest | '\u2212' :: rest =>
    set rest
    return -((← hoursAndMinutes) : Int)
  | a :: b :: c :: rest =>
    if [a, b, c].map Char.toLower = ['u', 't', 'c'] then
      set rest
      return 0
    else failure
  | _ => failure

def separator : Scan Unit := do
  match ← get with
  | 't' :: rest | 'T' :: rest | ' ' :: rest => set rest
  | _ => failure

/-- What the text of a stamp says, before any check of ranges. -/
structure Parts where
  date : Date
  hour : Nat
  minute : Nat
  second : Nat
  nano : Nat
  offset : Int

def parts : Scan Parts := do
  let year ← year
  let month ← separated '-' 2
  let day ← separated '-' 2
  separator
  let hour ← field 2
  let minute ← separated ':' 2
  let second ← separated ':' 2
  let nano ← fraction
  let offset ← offset
  blanks
  if (← get) ≠ [] then failure
  return ⟨⟨year, month, day⟩, hour, minute, second, nano, offset⟩

/-- Second 60 is the leap second after second 59; both the local and the universal time have to
lie in the calendar's range. -/
def Parts.instant? (parts : Parts) : Option Instant :=
  if parts.date.Valid ∧ parts.hour ≤ 23 ∧ parts.minute ≤ 59 ∧ parts.second ≤ 60 ∧
      -86400 < parts.offset ∧ parts.offset < 86400 then
    let ofDay := parts.hour * 3600 + parts.minute * 60 + min parts.second 59
    let here := parts.date.dayNumber * 86400 + ofDay
    if firstSecond ≤ here ∧ here ≤ lastSecond then
      Instant.ofParts? (here - parts.offset)
        (if parts.second = 60 then parts.nano + 1000000000 else parts.nano)
    else none
  else none

end Stamp

def Instant.ofStamp? (text : List Char) : Option Instant :=
  (Stamp.parts.run text).bind fun result => result.1.instant?

end FileCleanup.Time
