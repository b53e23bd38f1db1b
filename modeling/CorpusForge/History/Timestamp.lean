import CorpusForge.Number.Decimal

/-!
# Points in time

A point in time is a number of milliseconds since the beginning of 1970, UTC. Only those within a
hundred million days of it are dates (`Timestamp.date?`).
-/

namespace CorpusForge

/-- A date in milliseconds; `none` is a point outside the calendar. -/
abbrev Timestamp := Option Int

namespace Timestamp

def hourMs : Int := 3600000

def dayMs : Int := 86400000

/-- The date of a number of milliseconds. -/
def date? (ms : Int) : Timestamp :=
  if ms.natAbs ≤ 8640000000000000 then some ms else none

/-- The date of a number of milliseconds, of which a fraction does not count. -/
def ofNumber (ms : Number) : Timestamp := if ms.isFinite then date? ms.toInt else none

/-- The milliseconds of a date; not a number outside the calendar. -/
def toNumber (t : Timestamp) : Number := (t.map Number.ofInt).getD .nan

/-- The date of the first commit: `spanDays` before `now`, without the fraction of a second. -/
def bootstrap (now : Timestamp) (spanDays : Number) : Timestamp :=
  ofNumber (((now.toNumber - spanDays * .ofInt dayMs) / 1000).floor * 1000)

/-- The year of the day with the given number, counted from the beginning of 1970. Years are
    counted from March in cycles of 400 years, so that a leap day is the last day of its year. -/
def yearOfDay (day : Int) : Int :=
  let shifted := day + 719468
  let era := shifted / 146097
  let dayOfEra := shifted % 146097
  let yearOfEra := (dayOfEra - dayOfEra / 1460 + dayOfEra / 36524 - dayOfEra / 146096) / 365
  let dayOfYear := dayOfEra - (365 * yearOfEra + yearOfEra / 4 - yearOfEra / 100)
  let year := yearOfEra + era * 400
  if 306 ≤ dayOfYear then year + 1 else year

/-- The calendar year of a date. -/
def year (t : Timestamp) : Option Int := t.map fun ms => yearOfDay (ms / dayMs)

/-- A date in the raw form of a version-control system: whole seconds and the offset of UTC. -/
def rawText (t : Timestamp) : String :=
  match t with
  | some ms => "@" ++ Number.intText (ms / 1000) ++ " +0000"
  | none => "@NaN +0000"

end Timestamp

end CorpusForge
