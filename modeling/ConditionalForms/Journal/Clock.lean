import ConditionalForms.Fault
import ConditionalForms.Number.Decimal

/-!
# Moments

Moments as they stand in the journal: seconds since the start of 1970, the date and the time of day,
all in UTC. A moment is rounded to millionths of a second, a tie to the even one.
-/

namespace ConditionalForms

/-- A moment: the whole seconds since the start of 1970, and the millionths after them. -/
structure Moment where
  seconds : Int
  micros : Nat := 0
  deriving DecidableEq, Repr, Inhabited

/-- A day of the calendar. -/
structure Date where
  year : Int
  month : Nat
  day : Nat
  deriving DecidableEq, Repr, Inhabited

namespace Date

/-- The date of a day, counted from the first of January 1970. Years are taken to start in March, so
that a leap day ends its year, and the calendar repeats every 146097 days. -/
def ofDays (days : Int) : Date :=
  let shifted := days + 719468
  let cycle := shifted.fdiv 146097
  let dayOfCycle := (shifted.fmod 146097).toNat
  let yearOfCycle :=
    (dayOfCycle - dayOfCycle / 1460 + dayOfCycle / 36524 - dayOfCycle / 146096) / 365
  let dayOfYear := dayOfCycle - (365 * yearOfCycle + yearOfCycle / 4 - yearOfCycle / 100)
  let part := (5 * dayOfYear + 2) / 153
  let month := if part < 10 then part + 3 else part - 9
  { year := yearOfCycle + cycle * 400 + (if month ≤ 2 then 1 else 0)
    month := month
    day := dayOfYear - (153 * part + 2) / 5 + 1 }

example : ofDays 0 = ⟨1970, 1, 1⟩ := by decide
example : ofDays 11016 = ⟨2000, 2, 29⟩ := by decide
example : ofDays (-1) = ⟨1969, 12, 31⟩ := by decide

end Date

namespace Moment

/-- The moment of a number of millionths of a second. -/
def ofMicros (n : Int) : Moment := ⟨n.fdiv 1000000, (n.fmod 1000000).toNat⟩

def ofSeconds? : Binary64 → Except Fault Moment
  | .nan => .error .timeNotANumber
  | .infinite _ => .error .timeOutOfRange
  | .finite negative units =>
    let part := Binary64.roundUnits (units % Binary64.one * 1000000) 1
    let micros := Binary64.roundDiv part Binary64.one
    .ok (ofMicros (Decimal.signed negative (units / Binary64.one * 1000000 + micros)))

/-- The date of a moment. Only the years 1 to 9999 have dates. -/
def date? (m : Moment) : Except Fault Date :=
  if m.seconds < -Int.pow 2 63 || Int.pow 2 63 ≤ m.seconds then .error .timeOutOfRange
  else
    let date := Date.ofDays (m.seconds.fdiv 86400)
    if date.year - 1900 < -Int.pow 2 31 || Int.pow 2 31 ≤ date.year - 1900 then .error .yearTooLarge
    else if date.year < 1 || 9999 < date.year then .error (.yearOutOfRange date.year)
    else .ok date

def padded (width n : Nat) : String := String.ofList (Decimal.padded width n)

/-- Hours, minutes and seconds of the day. -/
def clock (m : Moment) : String :=
  let n := (m.seconds.fmod 86400).toNat
  padded 2 (n / 3600) ++ ":" ++ padded 2 (n / 60 % 60) ++ ":" ++ padded 2 (n % 60)

/-- Date and time of day, with the millionths if there are any. -/
def timestamp? (m : Moment) : Except Fault String := do
  let date ← m.date?
  let fraction := if m.micros = 0 then "" else "." ++ padded 6 m.micros
  .ok (padded 4 date.year.toNat ++ "-" ++ padded 2 date.month ++ "-" ++ padded 2 date.day ++ "T" ++
    m.clock ++ fraction ++ "+00:00")

/-- The time of day alone. The day before has to have a date as well. -/
def clock? (m : Moment) : Except Fault String := do
  let _ ← m.date?
  let _ ← { m with seconds := m.seconds - 86400 : Moment }.date?
  .ok m.clock

end Moment

end ConditionalForms
