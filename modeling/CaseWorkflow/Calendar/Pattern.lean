import CaseWorkflow.Calendar.Moment
import CaseWorkflow.Text.LowerCase

/-!
# Moments by a pattern

A pattern is a text with directives: a percent sign, flags, a width, a modifier
and a letter that names a part of the moment.  A directive that names no part
stands for itself.
-/

namespace CaseWorkflow

namespace Date

/-- How many days of the year have gone by before the day. -/
def elapsed (d : Date) : Nat := daysBeforeMonth d.year d.month + (d.day - 1)

/-- The day of the week; Sunday is 0. -/
def dayFromSunday (d : Date) : Nat := (d.weekday + 1) % 7

/-- The year and the number of the ISO week that holds the day. -/
def isoWeek (d : Date) : Nat × Nat :=
  let n := d.ordinal
  if n < firstMonday d.year then (d.year - 1, (n - firstMonday (d.year - 1)) / 7 + 1)
  else if firstMonday (d.year + 1) ≤ n then (d.year + 1, 1)
  else (d.year, (n - firstMonday d.year) / 7 + 1)

def longWeekdayNames : List String :=
  ["Monday", "Tuesday", "Wednesday", "Thursday", "Friday", "Saturday", "Sunday"]

def longMonthNames : List String :=
  ["January", "February", "March", "April", "May", "June", "July", "August", "September",
    "October", "November", "December"]

end Date

namespace Pattern

/-- A part of a moment: a number with its least count of digits and the character
that fills them up, a word, a name, or the half of the day. -/
inductive Part where
  | number (least : Nat) (fill : Char) (value : Nat)
  | word (text : String)
  | name (text : String)
  | half (text : String)

def nameAt (names : List String) (i : Nat) : Part := .name (names.getD i "")

/-- The hour on a dial of twelve. -/
def dialHour (m : Moment) : Nat := (m.hour + 11) % 12 + 1

def halfText (m : Moment) : String := if m.hour < 12 then "AM" else "PM"

/-- Month, day and the last two digits of the year, joined by slashes. -/
def slashText (m : Moment) : String :=
  Date.padded 2 m.date.month ++ "/" ++ Date.padded 2 m.date.day ++ "/"
    ++ Date.padded 2 (m.date.year % 100)

def dialText (m : Moment) : String :=
  Date.padded 2 (dialHour m) ++ ":" ++ Date.padded 2 m.minute ++ ":" ++ Date.padded 2 m.second
    ++ " " ++ halfText m

/-- Names of day and month, the day, the time and the year. -/
def fullText (m : Moment) : String :=
  Date.weekdayNames.getD m.date.weekday "" ++ " " ++ Date.monthNames.getD (m.date.month - 1) ""
    ++ " " ++ String.ofList ((toString m.date.day).toList.leftpad 2 ' ') ++ " " ++ m.clockText
    ++ " " ++ toString m.date.year

/-- Seconds from the start of 1970 to the time that the moment shows. -/
def secondsShown (m : Moment) : Int :=
  ((m.date.ordinal : Int) - Moment.epochOrdinal) * 86400 + (m.time / microsPerSecond : Nat)

def part? (m : Moment) (letter : Char) : Option Part :=
  let d := m.date
  let two (n : Nat) : Option Part := some (.number 2 '0' n)
  let short (n : Nat) : Option Part := some (.number 1 '0' n)
  match letter with
  | 'a' => some (nameAt Date.weekdayNames d.weekday)
  | 'A' => some (nameAt Date.longWeekdayNames d.weekday)
  | 'b' | 'h' => some (nameAt Date.monthNames (d.month - 1))
  | 'B' => some (nameAt Date.longMonthNames (d.month - 1))
  | 'c' => some (.word (fullText m))
  | 'C' => short (d.year / 100)
  | 'd' => two d.day
  | 'D' | 'x' => some (.word (slashText m))
  | 'e' => some (.number 2 '_' d.day)
  | 'F' =>
    some (.word (toString d.year ++ "-" ++ Date.padded 2 d.month ++ "-" ++ Date.padded 2 d.day))
  | 'g' => two (d.isoWeek.1 % 100)
  | 'G' => short d.isoWeek.1
  | 'H' => two m.hour
  | 'I' => two (dialHour m)
  | 'j' => some (.number 3 '0' (d.elapsed + 1))
  | 'k' => some (.number 2 '_' m.hour)
  | 'l' => some (.number 2 '_' (dialHour m))
  | 'm' => two d.month
  | 'M' => two m.minute
  | 'n' => some (.word "\n")
  | 'p' => some (.half (halfText m))
  | 'P' => some (.half ((halfText m).map Char.toLower))
  | 'r' => some (.word (dialText m))
  | 'R' => some (.word (Date.padded 2 m.hour ++ ":" ++ Date.padded 2 m.minute))
  | 's' => some (.word (toString (secondsShown m)))
  | 'S' => two m.second
  | 't' => some (.word "\t")
  | 'T' | 'X' => some (.word m.clockText)
  | 'u' => short (d.weekday + 1)
  | 'U' => two ((d.elapsed + 7 - d.dayFromSunday) / 7)
  | 'V' => two d.isoWeek.2
  | 'w' => short d.dayFromSunday
  | 'W' => two ((d.elapsed + 7 - d.weekday) / 7)
  | 'y' => two (d.year % 100)
  | 'Y' => short d.year
  | 'Z' => some (.word "")
  | '%' => some (.word "%")
  | _ => none

def admits (modifier letter : Char) : Bool :=
  letter ∈ ['C', 'n', 'p', 'P', 'r', 'R', 's', 't', 'T', 'u', 'y', 'z', 'Z', '%']
    || letter ∈ (if modifier == 'E' then ['c', 'x', 'X', 'Y']
      else ['b', 'B', 'd', 'e', 'g', 'G', 'h', 'H', 'I', 'j', 'k', 'l', 'm', 'M', 'S', 'U', 'V',
        'w', 'W'])

/-- A directive after its percent sign, as it is written. -/
structure Directive where
  fill : Option Char
  capitals : Bool
  turned : Bool
  width : Nat
  modifier : Option Char
  letter : Option Char
  /-- How many characters the directive has. -/
  length : Nat

def isFlag (c : Char) : Bool := c ∈ ['_', '-', '0', '^', '#']

def isModifier (c : Char) : Bool := c == 'E' || c == 'O'

/-- The directive at the start of a text; of several fills the last one holds. -/
def Directive.read (cs : List Char) : Directive :=
  let flags := cs.takeWhile isFlag
  let digits := (cs.drop flags.length).takeWhile Char.isDigit
  let rest := cs.drop (flags.length + digits.length)
  let modifier := rest.head?.filter isModifier
  let letter := (if modifier.isSome then rest.drop 1 else rest).head?
  { fill := (flags.filter fun c => c ∈ ['_', '-', '0']).getLast?
    capitals := '^' ∈ flags
    turned := '#' ∈ flags
    width := digits.foldl (fun n c => n * 10 + (c.toNat - '0'.toNat)) 0
    modifier, letter
    length := flags.length + digits.length + modifier.toList.length + letter.toList.length }

/-- A number with at least so many digits; blanks or nothing may stand for zeros. -/
def numberText (least : Nat) (fill : Char) (value : Nat) : List Char :=
  let digits := Nat.toDigits 10 value
  if fill == '-' then digits else digits.leftpad least (if fill == '_' then ' ' else '0')

/-- The text of a part, with the flags for capitals and for the change of case. -/
def Directive.partText (d : Directive) : Part → List Char
  | .number least fill value => numberText (max least d.width) (d.fill.getD fill) value
  | .word text => (if d.capitals then text.map Char.toUpper else text).toList
  | .name text => (if d.capitals || d.turned then text.map Char.toUpper else text).toList
  | .half text => (if d.turned then text.map Char.toLower else text).toList

/-- Whether a directive that names no part is written in capitals: where capitals are
asked for, and where the change of case is asked for a short name of the month. -/
def Directive.raisesSource (d : Directive) : Bool :=
  d.capitals || (d.turned && (d.letter == some 'b' || d.letter == some 'h'))

/-- A directive for a moment.  The width is the least length, filled up with zeros
where the fill says so and else with blanks.  A distance takes up no room. -/
def Directive.lay (m : Moment) (d : Directive) (source : List Char) : List Char :=
  let known := d.letter.filter fun letter => d.modifier.all (admits · letter)
  let body := match known.bind (part? m) with
    | some part => d.partText part
    | none => if d.raisesSource then source.map Text.capitalOf else source
  if known = some 'z' then [] else body.leftpad d.width (if d.fill == some '0' then '0' else ' ')

/-- Writes a pattern, no directive wider than the room. -/
def write (m : Moment) (room : Nat) : List Char → List Char
  | [] => []
  | c :: rest =>
    if c == '%' then
      let d := Directive.read rest
      { d with width := min d.width room }.lay m ('%' :: rest.take d.length)
        ++ write m room (rest.drop d.length)
    else c :: write m room rest
  termination_by cs => cs.length
  decreasing_by all_goals simp only [List.length_drop, List.length_cons]; omega

/-- The distance from universal time without colons. -/
def distanceText (m : Moment) : List Char :=
  (m.offset.map fun o => (Moment.offsetText o).toList.filter (· != ':')).getD []

/-- The name of the distance from universal time. -/
def zoneText (m : Moment) : List Char :=
  (m.offset.map fun o => (Moment.zoneName o).toList).getD []

/-- Puts microseconds and the distance from universal time in place, whose directives
have neither flags nor width. -/
def settle (m : Moment) : List Char → List Char
  | '%' :: 'f' :: rest => (Date.padded 6 m.microsecond).toList ++ settle m rest
  | '%' :: 'z' :: rest => distanceText m ++ settle m rest
  | '%' :: 'Z' :: rest => zoneText m ++ settle m rest
  | '%' :: c :: rest => '%' :: c :: settle m rest
  | c :: rest => c :: settle m rest
  | [] => []

/-- The room for a text: at least a thousand characters, and by doubling so many
that each character of the pattern has a quarter of that. -/
def roomFor (length : Nat) : Nat := 1024 * Nat.nextPowerOfTwo ((length + 3) / 4)

end Pattern

/-- The moment by a pattern, which ends at a zero character.  A text without room
is empty. -/
def Moment.textBy (m : Moment) (pattern : List Char) : List Char :=
  let pattern := Pattern.settle m (pattern.takeWhile (· != '\x00'))
  let room := Pattern.roomFor pattern.length
  let text := Pattern.write m room pattern
  if text.length < room then text else []

end CaseWorkflow
