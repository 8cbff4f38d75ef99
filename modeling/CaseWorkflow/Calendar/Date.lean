/-!
# Calendar days

Days of the years 1 to 9999 in the Gregorian calendar, their ordinal numbers
(the first of January of the year 1 is day 1), and the days of ISO weeks.
-/

namespace CaseWorkflow

def isLeapYear (year : Nat) : Bool :=
  year % 4 = 0 && (year % 100 ≠ 0 || year % 400 = 0)

def daysInMonth (year month : Nat) : Nat :=
  if month = 2 then if isLeapYear year then 29 else 28
  else if month = 4 ∨ month = 6 ∨ month = 9 ∨ month = 11 then 30
  else 31

structure Date where
  year : Nat
  month : Nat
  day : Nat
  valid : (1 ≤ year ∧ year ≤ 9999) ∧ (1 ≤ month ∧ month ≤ 12)
    ∧ 1 ≤ day ∧ day ≤ daysInMonth year month
  deriving DecidableEq

namespace Date

/-- The first day of the calendar. -/
def earliest : Date := ⟨1, 1, 1, by decide⟩

/-- The last day of the calendar. -/
def latest : Date := ⟨9999, 12, 31, by decide⟩

/-- The day with these numbers, if the calendar has it. -/
def of? (year month day : Nat) : Option Date :=
  if h : (1 ≤ year ∧ year ≤ 9999) ∧ (1 ≤ month ∧ month ≤ 12)
      ∧ 1 ≤ day ∧ day ≤ daysInMonth year month then
    some ⟨year, month, day, h⟩
  else none

def daysBeforeYear (year : Nat) : Nat :=
  let past := year - 1
  past * 365 + past / 4 - past / 100 + past / 400

def daysBeforeMonth (year month : Nat) : Nat :=
  (List.range (month - 1)).foldl (fun days i => days + daysInMonth year (i + 1)) 0

/-- The number of the day, counted from the first day of the year 1. -/
def ordinal (d : Date) : Nat :=
  daysBeforeYear d.year + daysBeforeMonth d.year d.month + d.day

/-- Finds the month that holds the given day of a year, from the first one on. -/
def monthOf (year : Nat) : Nat → Nat → Nat → Nat × Nat
  | 0, month, day => (month, day)
  | steps + 1, month, day =>
    let length := daysInMonth year month
    if day ≤ length then (month, day) else monthOf year steps (month + 1) (day - length)

/-- The year that holds the day with this ordinal number. -/
def yearOf (n : Nat) : Nat :=
  let guess := n * 400 / 146097 + 1
  let year := if daysBeforeYear guess < n then guess else guess - 1
  if daysBeforeYear (year + 1) < n then year + 1 else year

/-- The day with this ordinal number, if it lies in the years 1 to 9999. -/
def ofOrdinal? (n : Nat) : Option Date :=
  let year := yearOf n
  let (month, day) := monthOf year 11 1 (n - daysBeforeYear year)
  of? year month day

/-- The day of the week; Monday is 0. -/
def weekday (d : Date) : Nat := (d.ordinal + 6) % 7

/-- The ordinal number of the Monday of a year's first ISO week, the week that
holds the first Thursday. -/
def firstMonday (year : Nat) : Nat :=
  let first := daysBeforeYear year + 1
  let day := (first + 6) % 7
  if day > 3 then first + 7 - day else first - day

/-- Whether an ISO year has this week: fifty-two weeks, and one more when the year
begins on a Thursday, or on a Wednesday if it is a leap year. -/
def hasWeek (year week : Nat) : Bool :=
  let first := (daysBeforeYear year + 7) % 7
  (1 ≤ week && week ≤ 52) || (week == 53 && (first == 3 || (first == 2 && isLeapYear year)))

/-- The day of an ISO week; Monday is day 1. -/
def ofWeek? (year week day : Nat) : Option Date :=
  if 1 ≤ year && hasWeek year week && 1 ≤ day && day ≤ 7 then
    ofOrdinal? (firstMonday year + (week - 1) * 7 + (day - 1))
  else none

/-- The days in order of time. -/
def cmp (a b : Date) : Ordering :=
  ((compare a.year b.year).then (compare a.month b.month)).then (compare a.day b.day)

/-- A number with leading zeros up to a width. -/
def padded (width n : Nat) : String :=
  String.ofList ((Nat.toDigits 10 n).leftpad width '0')

/-- Year, month and day, joined by hyphens. -/
def text (d : Date) : String :=
  padded 4 d.year ++ "-" ++ padded 2 d.month ++ "-" ++ padded 2 d.day

def expression (d : Date) : String := s!"datetime.date({d.year}, {d.month}, {d.day})"

def weekdayNames : List String := ["Mon", "Tue", "Wed", "Thu", "Fri", "Sat", "Sun"]

def monthNames : List String :=
  ["Jan", "Feb", "Mar", "Apr", "May", "Jun", "Jul", "Aug", "Sep", "Oct", "Nov", "Dec"]

/-- The day as the headers of a web answer show it. -/
def headerText (d : Date) : String :=
  weekdayNames.getD d.weekday "" ++ ", " ++ padded 2 d.day ++ " "
    ++ monthNames.getD (d.month - 1) "" ++ " " ++ padded 4 d.year

end Date

end CaseWorkflow
