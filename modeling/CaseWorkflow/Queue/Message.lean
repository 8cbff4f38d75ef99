import CaseWorkflow.Event
import CaseWorkflow.Fault
import CaseWorkflow.Json.Writer

/-!
# Messages

A message carries an event through a queue, with what the delivery needs to know.
On the queue it is a JSON text, which anyone may have written: each part of a
message that was read can be any value.
-/

namespace CaseWorkflow

structure Message where
  id : Value
  event : Value
  enqueuedAt : Value
  attempt : Value
  reason : Value

/-- One more than a value, which must be a number. -/
def Value.plusOne (v : Value) : Except Fault Value :=
  match v.number? with
  | some (.int i) => .ok (.int (i + 1))
  | some (.float d) => .ok (.float (d.add (Double.ofNat 1)))
  | none =>
    .error (.wrongKind (match v with
      | .text _ | .list _ =>
        s!"can only concatenate {v.kindName} (not \"int\") to {v.kindName}"
      | _ => s!"unsupported operand type(s) for +: '{v.qualifiedKind}' and 'int'"))

/-- Whether a value is at least another one; both must be numbers, or both texts. -/
def Value.atLeast (v limit : Value) : Except Fault Bool :=
  match v.number?, limit.number?, v.text?, limit.text? with
  | some x, some least, _, _ => .ok (least.le x)
  | _, _, some s, some least => .ok (least ≤ s)
  | _, _, _, _ =>
    .error (.wrongKind ("'>=' not supported between instances of "
      ++ s!"'{v.qualifiedKind}' and '{limit.qualifiedKind}'"))

namespace Message

def create (id : String) (event : Event) (now : Double) : Message where
  id := .text id
  event := event.toValue
  enqueuedAt := .float now
  attempt := .int 1
  reason := .null

def toValue (m : Message) : Value :=
  .object [("id", m.id), ("event", m.event), ("enqueued_at", m.enqueuedAt),
    ("attempt", m.attempt), ("dead_letter_reason", m.reason)]

def encode (m : Message) : String := Json.write m.toValue

/-- The message as it stands on a queue, unless it nests too deep or has an integer with
too many digits in it. -/
def write (m : Message) : Except Fault String :=
  if Json.writtenDepth < Json.depth m.toValue then .error (.json (.tooDeep none))
  else if Json.isLegible m.toValue then .ok m.encode
  else .error (.number .tooManyToWrite)

def parts : List String := ["id", "event", "enqueued_at", "attempt", "dead_letter_reason"]

def requiredParts : List String := ["id", "event", "enqueued_at"]

/-- Quoted names in a row, the last one after an `and`. -/
def enumerate (names : List String) : String :=
  match names.map Text.quoted with
  | [] => ""
  | [a] => a
  | [a, b] => s!"{a} and {b}"
  | names => ", ".intercalate names.dropLast ++ ", and " ++ names.getLastD ""

/-- What is said of a message that lacks parts. -/
def missingText (names : List String) : String :=
  s!"QueueMessage.__init__() missing {names.length} required positional "
    ++ (if names.length = 1 then "argument: " else "arguments: ") ++ enumerate names

/-- A message made of the entries of an object, which must hold all required parts
and nothing but parts. -/
def ofEntries (entries : Entries) : Except Fault Message :=
  match entries.keys.find? (· ∉ parts) with
  | some key =>
    .error (.wrongKind
      s!"QueueMessage.__init__() got an unexpected keyword argument {Text.quoted key}")
  | none =>
    match requiredParts.filter (!entries.keys.contains ·) with
    | [] =>
      .ok {
        id := entries.field "id"
        event := entries.field "event"
        enqueuedAt := entries.field "enqueued_at"
        attempt := (entries.lookup "attempt").getD (.int 1)
        reason := entries.field "dead_letter_reason" }
    | names => .error (.wrongKind (missingText names))

def decode (text : String) : Except Fault Message :=
  match Json.read text with
  | .error error => .error (.json error)
  | .ok v =>
    match v.entries? with
    | some entries => ofEntries entries
    | none =>
      .error (.wrongKind
        ("legal_workflows.worker.queue.QueueMessage() argument after ** must be a mapping, not "
          ++ v.kindName))

def nextAttempt (m : Message) : Except Fault Message := do
  return { m with attempt := ← m.attempt.plusOne }

end Message

end CaseWorkflow
