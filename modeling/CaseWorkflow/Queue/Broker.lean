import CaseWorkflow.Attempt
import CaseWorkflow.Table
import CaseWorkflow.Text.Encodable

/-!
# The store of the queues

The store keeps three things under keys: lists of texts, schedules of texts by the time
at which they are due, and marks that last up to and including the second at which they
end.  What is empty or has ended is not there.  A key holds one of the three; a command
for another one is refused, except that setting a mark takes the key over.
-/

namespace CaseWorkflow

/-- Texts with the time at which they are due, in that order. -/
abbrev Schedule := List (Double × String)

namespace Schedule

/-- Whether an entry comes before another one: by its time, then by its text. -/
def before (a b : Double × String) : Bool :=
  a.1.lt b.1 || (!b.1.lt a.1 && a.2 ≤ b.2)

def insert (entry : Double × String) : Schedule → Schedule
  | [] => [entry]
  | other :: rest =>
    if before entry other then entry :: other :: rest else other :: insert entry rest

def isDue (now : Double) (entry : Double × String) : Bool :=
  (Double.zeroOf false).le entry.1 && entry.1.le now

end Schedule

/-- Whether the store can be reached.  At a bad address no new connection can be made,
while those that exist go on. -/
inductive Connection where
  | up
  | down
  | badAddress
  deriving DecidableEq

/-- The store, with the number of message ids given out. -/
structure Broker where
  connection : Connection
  issued : Nat
  lists : Table (List String)
  schedules : Table Schedule
  /-- The end of each mark. -/
  marks : Table Double

inductive Holding where
  | list
  | schedule
  | mark
  deriving DecidableEq

/-- The least number that the store cannot count to. -/
def countLimit : Nat := 0x8000000000000000

/-- The end of a mark that is set now and lasts so many seconds.  The store takes whole
positive seconds whose end it can count in milliseconds. -/
def markEnd (now : Double) (seconds : Int) : Except Fault Double :=
  if seconds < -(countLimit : Int) || (countLimit : Int) ≤ seconds then
    .error (.storeRefused "value is not an integer or out of range")
  else
    let stop := now.add (Double.ofNat seconds.toNat)
    if seconds ≤ 0 || (Double.ofNat countLimit).le (stop.scale 1000) then
      .error (.storeRefused "invalid expire time in set")
    else .ok stop

namespace Broker

def empty : Broker := ⟨.up, 0, [], [], []⟩

def list (b : Broker) (key : String) : List String := (b.lists.lookup key).getD []

def schedule (b : Broker) (key : String) : Schedule := (b.schedules.lookup key).getD []

/-- Whether a mark stands under a key and has not ended. -/
def isMarked (b : Broker) (now : Double) (key : String) : Bool :=
  match b.marks.lookup key with
  | some stop => now.le stop
  | none => false

def withList (b : Broker) (key : String) (texts : List String) : Broker :=
  { b with lists := b.lists.insert key texts }

def withSchedule (b : Broker) (key : String) (schedule : Schedule) : Broker :=
  { b with schedules := b.schedules.insert key schedule }

/-- The store without what a key holds. -/
def without (b : Broker) (key : String) : Broker :=
  { b with
    lists := b.lists.erase key
    schedules := b.schedules.erase key
    marks := b.marks.erase key }

def withMark (b : Broker) (key : String) (stop : Double) : Broker :=
  let b := b.without key
  { b with marks := b.marks.insert key stop }

def holding? (b : Broker) (now : Double) (key : String) : Option Holding :=
  if !(b.list key).isEmpty then some .list
  else if !(b.schedule key).isEmpty then some .schedule
  else if b.isMarked now key then some .mark
  else none

/-- The store without a mark that has ended. -/
def refreshed (b : Broker) (now : Double) (key : String) : Broker :=
  if (b.marks.lookup key).isSome && !b.isMarked now key then
    { b with marks := b.marks.erase key }
  else b

@[simp] theorem list_withList (b : Broker) (key other : String) (texts : List String) :
    (b.withList key texts).list other = if other = key then texts else b.list other := by
  unfold Broker.list withList
  rw [Table.lookup_insert]
  split <;> rfl

@[simp] theorem schedule_withSchedule (b : Broker) (key other : String) (schedule : Schedule) :
    (b.withSchedule key schedule).schedule other
      = if other = key then schedule else b.schedule other := by
  unfold Broker.schedule withSchedule
  rw [Table.lookup_insert]
  split <;> rfl

@[simp] theorem lookup_marks_withMark (b : Broker) (key other : String) (stop : Double) :
    (b.withMark key stop).marks.lookup other
      = if other = key then some stop else b.marks.lookup other := by
  simp only [withMark, without, Table.lookup_insert, Table.lookup_erase]
  split <;> rfl

/-! ## Commands -/

/-- A text of a command, which must have an encoding. -/
def check (text : String) : Attempt Broker Unit :=
  match Text.unencodable? text.toList with
  | some flaw => Attempt.fail (.unencodable flaw)
  | none => pure ()

/-- A value as the text that the store keeps of it. -/
def sent : Value → Except Fault String
  | .text s => .ok s
  | .member m => .ok m.wire
  | .int i => .ok (toString i)
  | .float d => .ok d.text
  | v => .error (.unsendable v.kindName)

def wrongHolding : Fault :=
  .storeRefused "WRONGTYPE Operation against a key holding the wrong kind of value"

/-- Looks at a key, which must hold nothing but what is asked for. -/
def look (now : Double) (key : String) (wanted : Holding) : Attempt Broker Broker := do
  Attempt.modify (·.refreshed now key)
  let b ← Attempt.get
  if (b.holding? now key).any (· ≠ wanted) then Attempt.fail wrongHolding
  return b

/-- The texts of a list, the newest first. -/
def texts (now : Double) (key : String) : Attempt Broker (List String) := do
  check key
  return (← look now key .list).list key

/-- Puts a text at the head of a list. -/
def push (now : Double) (key text : String) : Attempt Broker Unit := do
  check key
  check text
  let b ← look now key .list
  Attempt.set (b.withList key (text :: b.list key))

/-- Drops the first copy of a text from a list. -/
def drop (now : Double) (key text : String) : Attempt Broker Unit := do
  check key
  check text
  let b ← look now key .list
  Attempt.set (b.withList key ((b.list key).erase text))

/-- Moves the last text of a list to the head of another one, if there is one. -/
def moveLast (now : Double) (source target : String) : Attempt Broker (Option String) := do
  check source
  check target
  match ((← look now source .list).list source).getLast? with
  | none => return none
  | some text =>
    let b ← look now target .list
    let b := b.withList source (b.list source).dropLast
    Attempt.set (b.withList target (text :: b.list target))
    return some text

def entries (now : Double) (key : String) : Attempt Broker Schedule := do
  check key
  return (← look now key .schedule).schedule key

/-- Puts a text on a schedule; a text that stands there already gets the new time. -/
def plan (now : Double) (key : String) (due : Double) (text : String) : Attempt Broker Unit := do
  check key
  check text
  let b ← look now key .schedule
  let others := (b.schedule key).filter (·.2 != text)
  Attempt.set (b.withSchedule key (Schedule.insert (due, text) others))

/-- Takes the texts that are due off a schedule and puts them on a list. -/
def releaseDue (now : Double) (schedule list : String) : Attempt Broker Unit := do
  let due := (← entries now schedule).filter (Schedule.isDue now)
  if !due.isEmpty then
    Attempt.modify fun b =>
      b.withSchedule schedule ((b.schedule schedule).filter (!Schedule.isDue now ·))
    let b ← look now list .list
    Attempt.set (b.withList list ((due.map Prod.snd).reverse ++ b.list list))

def mark (now : Double) (key : String) (seconds : Int) : Attempt Broker Unit := do
  check key
  let stop ← Attempt.ofExcept (markEnd now seconds)
  Attempt.modify (·.withMark key stop)

/-- Sets a mark where nothing stands; tells whether it was set. -/
def markFree (now : Double) (key : String) (seconds : Int) : Attempt Broker Bool := do
  check key
  let stop ← Attempt.ofExcept (markEnd now seconds)
  Attempt.modify (·.refreshed now key)
  let b ← Attempt.get
  if (b.holding? now key).isSome then return false
  Attempt.set (b.withMark key stop)
  return true

def holds (now : Double) (key : String) : Attempt Broker Bool := do
  check key
  Attempt.modify (·.refreshed now key)
  return ((← Attempt.get).holding? now key).isSome

def delete (key : String) : Attempt Broker Unit := do
  check key
  Attempt.modify (·.without key)

/-- The keys that hold something, in order. -/
def keys (now : Double) : Attempt Broker (List String) := do
  Attempt.modify fun b => { b with marks := b.marks.filter fun (_, stop) => now.le stop }
  let b ← Attempt.get
  let lists := b.lists.filter fun (_, texts) => !texts.isEmpty
  let schedules := b.schedules.filter fun (_, schedule) => !schedule.isEmpty
  return (Table.keys lists ++ Table.keys schedules ++ Table.keys b.marks).mergeSort (· ≤ ·)

end Broker

end CaseWorkflow
