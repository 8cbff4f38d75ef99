import CaseWorkflow.Calendar.Duration

/-!
# Moments

A day, a time of day in microseconds, and the distance from universal time if it
is known.  Two moments with a distance are compared on the line of universal
time, two without one by what they show; the two kinds have no order between
them and are never equal.
-/

namespace CaseWorkflow

structure Moment where
  date : Date
  /-- Microseconds since midnight. -/
  time : Nat
  /-- Microseconds that the shown time is ahead of universal time. -/
  offset : Option Int
  time_lt : time < microsPerDay
  offset_lt : ∀ o ∈ offset, o.natAbs < microsPerDay
  deriving DecidableEq

namespace Moment

/-- The moment with these parts, if the clock and the calendar have it. -/
def of? (date : Date) (time : Nat) (offset : Option Int) : Option Moment :=
  if h : time < microsPerDay then
    match offset with
    | none => some ⟨date, time, none, h, by simp⟩
    | some o =>
      if ho : o.natAbs < microsPerDay then some ⟨date, time, some o, h, by simpa using ho⟩ else none
  else none

/-- Midnight at the start of a day. -/
def midnight (date : Date) : Moment := ⟨date, 0, none, by decide, by simp⟩

/-- The first moment of the calendar. -/
def earliest : Moment := midnight Date.earliest

/-- The last moment of the calendar. -/
def latest : Moment := ⟨Date.latest, microsPerDay - 1, none, by decide, by simp⟩

/-- The moment with its time taken as universal time. -/
def asUniversal (m : Moment) : Moment := { m with offset := some 0, offset_lt := by simp; decide }

def isAware (m : Moment) : Bool := m.offset.isSome

def hour (m : Moment) : Nat := m.time / (3600 * microsPerSecond)

def minute (m : Moment) : Nat := m.time / (60 * microsPerSecond) % 60

def second (m : Moment) : Nat := m.time / microsPerSecond % 60

def microsecond (m : Moment) : Nat := m.time % microsPerSecond

/-- Microseconds from the start of the calendar, on the line of universal time if
the distance from it is known. -/
def instant (m : Moment) : Int :=
  (m.date.ordinal * microsPerDay + m.time : Int) - m.offset.getD 0

/-- The order of two moments of the same kind. -/
def cmp? (a b : Moment) : Option Ordering :=
  if a.isAware == b.isAware then some (compare a.instant b.instant) else none

theorem cmp?_swap (a b : Moment) : (cmp? a b).map Ordering.swap = cmp? b a := by
  unfold cmp?
  rw [Bool.beq_comm]
  split <;> simp [Int.compare_swap]

/-- The moment at a number of microseconds from the start of the calendar. -/
def ofInstant? (instant : Int) (offset : Option Int) : Option Moment := do
  let date ← Date.ofOrdinal? (instant / microsPerDay).toNat
  of? date (instant % microsPerDay).toNat offset

/-- The ordinal number of the first of January 1970. -/
def epochOrdinal : Nat := 719163

/-- Hours and minutes, joined by a colon, then seconds and microseconds where
they are not zero. -/
def offsetText (offset : Int) : String :=
  let micros := offset.natAbs
  let seconds := micros / microsPerSecond
  let part := micros % microsPerSecond
  (if offset < 0 then "-" else "+") ++ Date.padded 2 (seconds / 3600) ++ ":"
    ++ Date.padded 2 (seconds / 60 % 60)
    ++ (if seconds % 60 = 0 ∧ part = 0 then "" else ":" ++ Date.padded 2 (seconds % 60))
    ++ (if part = 0 then "" else "." ++ Date.padded 6 part)

def clockText (m : Moment) : String :=
  Date.padded 2 m.hour ++ ":" ++ Date.padded 2 m.minute ++ ":" ++ Date.padded 2 m.second

/-- Day and time with a separator between them, microseconds only where they are
not zero, then the distance from universal time. -/
def textWith (separator : String) (m : Moment) : String :=
  m.date.text ++ separator ++ m.clockText
    ++ (if m.microsecond = 0 then "" else "." ++ Date.padded 6 m.microsecond)
    ++ (m.offset.map offsetText).getD ""

def text (m : Moment) : String := m.textWith " "

def isoText (m : Moment) : String := m.textWith "T"

/-- The widest distance from universal time that zones name: a minute less than a day. -/
def widestZone : Int := (microsPerDay : Int) - 60 * microsPerSecond

/-- The name of a distance from universal time. -/
def zoneName (offset : Int) : String :=
  "UTC" ++ if offset = 0 then "" else offsetText offset

/-- A distance from universal time as an expression that builds it. -/
def offsetExpression (offset : Int) : String :=
  if offset = 0 then "datetime.timezone.utc"
  else "datetime.timezone(" ++ Duration.expression offset ++ ")"

/-- The moment as an expression that builds it; seconds and microseconds are left
out while they and all after them are zero. -/
def expression (m : Moment) : String :=
  let parts := [m.date.year, m.date.month, m.date.day, m.hour, m.minute]
    ++ (if m.second = 0 ∧ m.microsecond = 0 then [] else [m.second])
    ++ (if m.microsecond = 0 then [] else [m.microsecond])
  "datetime.datetime(" ++ ", ".intercalate (parts.map toString)
    ++ (m.offset.map fun o => ", tzinfo=" ++ offsetExpression o).getD "" ++ ")"

/-- The moment in universal time as the headers of a web answer show it, if the calendar
has it there. -/
def headerText? (m : Moment) : Option String :=
  (ofInstant? m.instant none).map fun shown =>
    shown.date.headerText ++ " " ++ shown.clockText ++ " GMT"

end Moment

/-- Midnight of a day as the headers of a web answer show it. -/
def Date.headerMoment (d : Date) : String := d.headerText ++ " 00:00:00 GMT"

end CaseWorkflow
