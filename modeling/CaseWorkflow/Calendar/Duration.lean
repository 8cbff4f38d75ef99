import CaseWorkflow.Calendar.Date

/-!
# Durations

A length of time in microseconds.  It is split into days, seconds and microseconds, of
which only the days can be negative.
-/

namespace CaseWorkflow

def microsPerSecond : Nat := 1000000

def microsPerDay : Nat := 86400 * microsPerSecond

namespace Duration

/-- The days, rounded down. -/
def days (micros : Int) : Int := micros / microsPerDay

/-- The seconds beside the days. -/
def seconds (micros : Int) : Nat := (micros % microsPerDay).toNat / microsPerSecond

/-- The microseconds beside the days and seconds. -/
def microseconds (micros : Int) : Nat := (micros % microsPerDay).toNat % microsPerSecond

/-- The longest duration has so many days and all but one microsecond of another one; the
shortest has as many days below zero. -/
def dayLimit : Nat := 999999999

def longest : Int := (dayLimit + 1 : Int) * microsPerDay - 1

def shortest : Int := -(dayLimit : Int) * microsPerDay

/-- The duration as an expression that builds it, zeros left out. -/
def expression (micros : Int) : String :=
  let parts := (if days micros = 0 then [] else [s!"days={days micros}"])
    ++ (if seconds micros = 0 then [] else [s!"seconds={seconds micros}"])
    ++ (if microseconds micros = 0 then [] else [s!"microseconds={microseconds micros}"])
  "datetime.timedelta(" ++ (if parts.isEmpty then "0" else ", ".intercalate parts) ++ ")"

/-- Days where there are any, then hours, minutes and seconds, then microseconds where
there are any. -/
def text (micros : Int) : String :=
  let clock := seconds micros
  (if days micros = 0 then ""
    else s!"{days micros} day" ++ (if (days micros).natAbs = 1 then ", " else "s, "))
    ++ toString (clock / 3600) ++ ":" ++ Date.padded 2 (clock / 60 % 60)
    ++ ":" ++ Date.padded 2 (clock % 60)
    ++ if microseconds micros = 0 then "" else "." ++ Date.padded 6 (microseconds micros)

end Duration

end CaseWorkflow
