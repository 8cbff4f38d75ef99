import CaseWorkflow.Calendar.Moment

/-!
# Reading ISO 8601 texts

Days and moments in the basic and the extended form, with calendar days or
weeks.  The reader works on the UTF-8 bytes of the text and looks at positions;
beyond the end it sees a zero byte.  It is lenient in places: what follows a
complete day of a full-length text is not looked at, one stray character may
stand between the time and the distance from universal time, and digits of a
fraction beyond the sixth are skipped.
-/

namespace CaseWorkflow.Iso

abbrev Bytes := List UInt8

def byteOf (c : Char) : UInt8 := c.toNat.toUInt8

def isDigit (b : UInt8) : Bool := 48 ≤ b.toNat && b.toNat ≤ 57

/-- The byte at a position, zero beyond the end. -/
def at? (bytes : Bytes) (position : Nat) : UInt8 := bytes.getD position 0

/-- The number that exactly `count` digits at a position spell. -/
def digits? (bytes : Bytes) (position count : Nat) : Option Nat :=
  (List.range count).foldl
    (fun value i => do
      let value ← value
      let b := at? bytes (position + i)
      if isDigit b then some (value * 10 + (b.toNat - 48)) else none)
    (some 0)

/-- The day of a week date; the week stands at the position, and the text of the
date is taken to end at `length`. -/
def weekDay? (bytes : Bytes) (length year position : Nat) (extended : Bool) : Option Date := do
  let week ← digits? bytes position 2
  let position := position + 2
  if position < length then
    if extended && at? bytes position != byteOf '-' then none
    let day ← digits? bytes (if extended then position + 1 else position) 1
    Date.ofWeek? year week day
  else Date.ofWeek? year week 1

/-- The day at the start of a text. -/
def dayOf? (bytes : Bytes) (length : Nat) : Option Date := do
  let year ← digits? bytes 0 4
  let extended := at? bytes 4 == byteOf '-'
  let position := if extended then 5 else 4
  if at? bytes position == byteOf 'W' then
    weekDay? bytes length year (position + 1) extended
  else
    let month ← digits? bytes position 2
    let position := position + 2
    if extended && at? bytes position != byteOf '-' then none
    let day ← digits? bytes (if extended then position + 1 else position) 2
    Date.of? year month day

/-- A time of day, or a distance from universal time, with whether text follows. -/
structure Clock where
  hour : Nat
  minute : Nat
  second : Nat
  microsecond : Nat
  followed : Bool

def isFractionMark (b : UInt8) : Bool := b == byteOf '.' || b == byteOf ','

/-- The fraction at a position: up to six digits, and more that are skipped. -/
def fraction? (bytes : Bytes) (position stop hour minute second : Nat) : Option Clock := do
  let count := min 6 (stop - position)
  let value ← digits? bytes position count
  let rest := (bytes.drop (position + count)).dropWhile isDigit
  some ⟨hour, minute, second, value * Nat.pow 10 (6 - count), rest.headD 0 != 0⟩

/-- Hours, minutes and seconds, two digits each, with colons between them or
without, then a fraction.  Any of the later parts may be missing. -/
def clock? (bytes : Bytes) (position stop : Nat) : Option Clock := do
  let hour ← digits? bytes position 2
  let position := position + 2
  let mark := at? bytes position
  let colons := mark == byteOf ':'
  if stop ≤ position + 1 then return ⟨hour, 0, 0, 0, mark != 0⟩
  if isFractionMark mark then fraction? bytes (position + 1) stop hour 0 0
  else
    let position := if colons then position + 1 else position
    let minute ← digits? bytes position 2
    let position := position + 2
    let mark := at? bytes position
    if stop ≤ position + 1 then return ⟨hour, minute, 0, 0, mark != 0⟩
    if isFractionMark mark then fraction? bytes (position + 1) stop hour minute 0
    else
      if colons && mark != byteOf ':' then none
      let position := if colons then position + 1 else position
      let second ← digits? bytes position 2
      let position := position + 2
      let mark := at? bytes position
      if stop ≤ position + 1 then return ⟨hour, minute, second, 0, mark != 0⟩
      if isFractionMark mark || (colons && mark == byteOf ':') then
        fraction? bytes (position + 1) stop hour minute second
      else if colons then none
      else fraction? bytes position stop hour minute second

def Clock.seconds (c : Clock) : Nat := c.hour * 3600 + c.minute * 60 + c.second

/-- The time of day in microseconds, if every part is in its range. -/
def Clock.time? (c : Clock) : Option Nat :=
  if c.hour < 24 && c.minute < 60 && c.second < 60 then
    some (c.seconds * microsPerSecond + c.microsecond)
  else none

/-- The distance in microseconds; less than a second counts as none. -/
def Clock.offset (c : Clock) (negative : Bool) : Int :=
  let distance : Int := c.seconds * microsPerSecond + c.microsecond
  if c.seconds = 0 then 0 else if negative then -distance else distance

def isZoneMark (b : UInt8) : Bool := b == byteOf '+' || b == byteOf '-' || b == byteOf 'Z'

/-- The time and the distance from universal time that stand at a position. -/
def timeOf? (bytes : Bytes) (position : Nat) : Option (Nat × Option Int) := do
  let stop := bytes.length
  let zone := position + ((bytes.drop position).takeWhile fun b => !isZoneMark b).length
  let time ← clock? bytes position zone
  if zone = stop then
    if time.followed then none else return (← time.time?, none)
  else if at? bytes zone == byteOf 'Z' then
    if at? bytes (zone + 1) != 0 then none else return (← time.time?, some 0)
  else
    let distance ← clock? bytes (zone + 1) stop
    if distance.followed then none
    else return (← time.time?, some (distance.offset (at? bytes zone == byteOf '-')))

/-- Where the separator between day and time stands, judged by the form of the day. -/
def separatorOf (bytes : Bytes) : Nat :=
  let length := bytes.length
  if length = 7 then 7
  else if at? bytes 4 == byteOf '-' then
    if at? bytes 5 == byteOf 'W' then
      if at? bytes 8 == byteOf '-' && !(10 < length && isDigit (at? bytes 10)) then 10 else 8
    else 10
  else if at? bytes 4 == byteOf 'W' then
    let position := 7 + ((bytes.drop 7).takeWhile isDigit).length
    if position < 9 then position else if position % 2 = 0 then 7 else 8
  else 8

/-- How many bytes a character has, by its first one. -/
def widthOf (lead : UInt8) : Nat :=
  if lead < 0x80 then 1
  else if lead &&& 0xF0 == 0xE0 then 3
  else if lead &&& 0xF0 == 0xF0 then 4
  else 2

def bytesOf (s : String) : Bytes := s.toList.flatMap String.utf8EncodeChar

/-- The day that a text gives. -/
def readDate? (s : String) : Option Date :=
  let bytes := bytesOf s
  let length := bytes.length
  if length = 7 ∨ length = 8 ∨ length = 10 then dayOf? bytes length else none

/-- The moment that a text gives; without a time it is midnight. -/
def readMoment? (s : String) : Option Moment := do
  let bytes := bytesOf s
  if bytes.length < 7 then none
  let separator := separatorOf bytes
  let date ← dayOf? bytes separator
  if bytes.length ≤ separator then return Moment.midnight date
  let (time, offset) ← timeOf? bytes (separator + widthOf (at? bytes separator))
  Moment.of? date time offset

/-- The text with every `Z` written as the distance zero. -/
def withPlainZone (s : String) : String :=
  String.ofList (s.toList.flatMap fun c => if c == 'Z' then "+00:00".toList else [c])

/-- The moment that a text gives, where `Z` stands for universal time. -/
def readZoned? (s : String) : Option Moment := readMoment? (withPlainZone s)

end CaseWorkflow.Iso
