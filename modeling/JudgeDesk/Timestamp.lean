import JudgeDesk.Text.Numeral

/-!
# Points in time

* `Timestamp` — a number of milliseconds before or after the start of 1970, in universal time;
* `Duration` — a span of milliseconds;
* `Timestamp.text` — the date and the time of day, as they are written between programs;
* `Timestamp.IsTellable` — whether there is a date for it.
-/

namespace JudgeDesk

/-- **A point in time**, in milliseconds from the start of 1970. -/
abbrev Timestamp := Int

/-- A span of time in milliseconds; it may be negative. -/
abbrev Duration := Int

namespace Timestamp

/-- The date of a day that is counted from the start of 1970: year, month and day of the month.
Years are taken to begin in March, so that the day that some years lack is their last; four hundred
of them always have the same number of days. -/
def dateOfDay (day : Int) : Int × Nat × Nat :=
  let shifted := day + 719468
  let era := shifted.fdiv 146097
  let dayOfEra := (shifted.fmod 146097).toNat
  let yearOfEra := (dayOfEra - dayOfEra / 1460 + dayOfEra / 36524 - dayOfEra / 146096) / 365
  let dayOfYear := dayOfEra - (365 * yearOfEra + yearOfEra / 4 - yearOfEra / 100)
  let monthFromMarch := (5 * dayOfYear + 2) / 153
  let dayOfMonth := dayOfYear - (153 * monthFromMarch + 2) / 5 + 1
  let month := if monthFromMarch < 10 then monthFromMarch + 3 else monthFromMarch - 9
  let year := era * 400 + yearOfEra
  (if month ≤ 2 then year + 1 else year, month, dayOfMonth)

/-- The numeral of a year: four digits, or a sign and at least four digits where four do not
suffice. -/
def yearText (year : Int) : String :=
  if 0 ≤ year ∧ year ≤ 9999 then Text.padded 4 year.toNat
  else (if year < 0 then "-" else "+") ++ Text.padded 4 year.natAbs

/-- **Text of a point in time.** The milliseconds are left out where there are none. -/
def text (t : Timestamp) : String :=
  let (year, month, day) := dateOfDay (Int.fdiv t 86400000)
  let ms := (Int.fmod t 86400000).toNat
  let fraction := if ms % 1000 = 0 then "" else "." ++ Text.padded 3 (ms % 1000)
  yearText year ++ "-" ++ Text.padded 2 month ++ "-" ++ Text.padded 2 day ++ "T" ++
    Text.padded 2 (ms / 3600000) ++ ":" ++ Text.padded 2 (ms / 60000 % 60) ++ ":" ++
    Text.padded 2 (ms / 1000 % 60) ++ fraction ++ "Z"

/-- The first point in time that has a date: the start of the year -262143. -/
def earliest : Timestamp := -8334601228800000

/-- The last point in time that has a date: the end of the year 262142. -/
def latest : Timestamp := 8210266876799999

/-- **Whether a point in time can be told.** Calendars end some time; what lies beyond has no
date. -/
def IsTellable (t : Timestamp) : Prop := earliest ≤ t ∧ t ≤ latest

instance (t : Timestamp) : Decidable t.IsTellable := inferInstanceAs (Decidable (_ ∧ _))

example : text earliest = "-262143-01-01T00:00:00Z" := by decide +kernel

example : text latest = "+262142-12-31T23:59:59.999Z" := by decide +kernel

end Timestamp

end JudgeDesk
