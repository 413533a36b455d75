import Postroom.Instant
import Postroom.Text.Positional

/-!
Calendar dates in mail headers, always in Universal Time. The year has four digits, and clocks start
at the epoch, so an instant before it or beyond the year 9999 has no such date.
-/

namespace Postroom

/-- A day of the proleptic Gregorian calendar. -/
structure Day where
  year : Int
  month : Nat
  day : Nat
  deriving DecidableEq

/-- The day that lies `n` days after 1 January 1970. Years are counted from March, so that the
leap day ends one; an era is a full cycle of 400 years. -/
def Day.ofEpochDay (n : Int) : Day :=
  let shifted := n + 719468
  let era := shifted.fdiv 146097
  let dayOfEra := (shifted.fmod 146097).toNat
  let yearOfEra := (dayOfEra - dayOfEra / 1460 + dayOfEra / 36524 - dayOfEra / 146096) / 365
  let dayOfYear := dayOfEra - (365 * yearOfEra + yearOfEra / 4 - yearOfEra / 100)
  let marchMonth := (5 * dayOfYear + 2) / 153
  let month := if marchMonth < 10 then marchMonth + 3 else marchMonth - 9
  let year := era * 400 + yearOfEra + if month ≤ 2 then 1 else 0
  ⟨year, month, dayOfYear - (153 * marchMonth + 2) / 5 + 1⟩

def monthNames : Array String :=
  #["Jan", "Feb", "Mar", "Apr", "May", "Jun", "Jul", "Aug", "Sep", "Oct", "Nov", "Dec"]

/-- Day names from 1 January 1970 on, which was a Thursday. -/
def weekdayNames : Array String :=
  #["Thu", "Fri", "Sat", "Sun", "Mon", "Tue", "Wed"]

/-- The date header text of an instant, as in `Tue, 1 Jul 2003 10:52:37 +0000`. -/
def Instant.mailDate? (t : Instant) : Option String :=
  let days := t.seconds.fdiv 86400
  let second := (t.seconds.fmod 86400).toNat
  let date := Day.ofEpochDay days
  if 0 ≤ t.nanos ∧ date.year ≤ 9999 then
    let weekday := weekdayNames.getD (days.fmod 7).toNat ""
    let month := monthNames.getD (date.month - 1) ""
    let clock := ":".intercalate
      ([second / 3600, second / 60 % 60, second % 60].map (Text.paddedDecimal 2))
    some (weekday ++ ", " ++ toString date.day ++ " " ++ month ++ " " ++
      Text.paddedDecimal 4 date.year.toNat ++ " " ++ clock ++ " +0000")
  else none

end Postroom
