import CaseWorkflow.Calendar.Moment
import CaseWorkflow.Number.Double

/-!
# The clock

A clock counts the seconds since the start of 1970.  The moment that it shows is in
universal time; a clock can stand outside the calendar, and then it shows none.
-/

namespace CaseWorkflow

structure Clock where
  seconds : Double

/-- Why a clock shows no moment. -/
inductive ClockFlaw where
  | notANumber
  | uncountable
  | unnumbered
  | yearOutOfRange (year : Int)
  deriving DecidableEq

def ClockFlaw.message : ClockFlaw → String
  | .notANumber => "Invalid value NaN (not a number)"
  | .uncountable => "timestamp out of range for platform time_t"
  | .unnumbered => "[Errno 75] Value too large for defined data type"
  | .yearOutOfRange year => s!"year {year} is out of range"

namespace Clock

/-- Microseconds from the start of the calendar.  The part after the point is turned into
microseconds first and rounded then. -/
def instant? (seconds : Double) : Option Int := do
  let (whole, part) ← seconds.split
  let micros ← (part.scale microsPerSecond).round?
  return Moment.epochOrdinal * microsPerDay + whole * microsPerSecond + micros

/-- The year of an instant, also before the calendar's first year and after its last. -/
def yearOf (instant : Int) : Int :=
  let days := instant / microsPerDay - 1
  days / 146097 * 400 + Date.yearOf ((days % 146097).toNat + 1)

/-- The numbers of seconds and years that can be counted are those of a word. -/
def secondLimit : Int := 0x8000000000000000

def yearLimit : Int := 0x80000000

/-- The flaw of a clock at an instant that the calendar does not have.  Years are counted
from 1900; the last of them wrap round when their number is shown. -/
def flawAt (instant : Int) : ClockFlaw :=
  let seconds := instant / microsPerSecond - Moment.epochOrdinal * 86400
  let year := yearOf instant
  if seconds < -secondLimit || secondLimit ≤ seconds then .uncountable
  else if year - 1900 < -yearLimit || yearLimit ≤ year - 1900 then .unnumbered
  else .yearOutOfRange (if yearLimit ≤ year then year - 2 * yearLimit else year)

def moment (clock : Clock) : Except ClockFlaw Moment :=
  match clock.seconds with
  | .nan => .error .notANumber
  | .infinity _ => .error .uncountable
  | seconds =>
    match instant? seconds with
    | none => .error .uncountable
    | some instant =>
      match Moment.ofInstant? instant (some 0) with
      | some moment => .ok moment
      | none => .error (flawAt instant)

end Clock

end CaseWorkflow
