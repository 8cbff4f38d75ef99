import CaseWorkflow.Queue.Broker
import CaseWorkflow.Queue.Message
import CaseWorkflow.Settings

/-!
# The queue

Events are published, at once or with a delay, and claimed by a worker.  A claimed
message stays among the claimed ones under a lease until it is completed, retried
or given up; if its lease ends first it is put back.  A guard keeps an event from
being published twice within a day.  Messages are told apart by their ids, since
the stored text may differ from the copy that a worker holds.
-/

namespace CaseWorkflow

structure Queue where
  name : String
  /-- How long a claimed message is left to its worker, in seconds. -/
  leaseSeconds : Value
  /-- Whether a connection to the store has still to be made. -/
  fresh : Bool

namespace Queue

def ofSettings (s : Settings) : Queue := ⟨s.queueName, .int s.leaseSeconds, true⟩

/-- How long a guard lasts, in seconds. -/
def guardSeconds : Int := 24 * 60 * 60

/-- The key of the messages to be delivered, the newest first. -/
def pending (q : Queue) : String := q.name

/-- The key of the messages that were claimed, the latest first. -/
def processing (q : Queue) : String := q.name ++ ":processing"

/-- The key of the messages for later. -/
def delayed (q : Queue) : String := q.name ++ ":delayed"

/-- The key of the messages that were given up, the latest first. -/
def dead (q : Queue) : String := q.name ++ ":dlq"

/-- The key of the lease of a message. -/
def lease (q : Queue) (id : Value) : String := q.name ++ ":lease:" ++ id.plainText

/-- The key of the guard of an event. -/
def guardOf (q : Queue) (id : String) : String := q.name ++ ":seen:" ++ id

/-- Gives a command to the store, if the store answers. -/
def ask {α : Type} (q : Queue) (command : Attempt Broker α) : Attempt Broker α := do
  match (← Attempt.get).connection with
  | .down => Attempt.fail .storeDown
  | .badAddress => if q.fresh then Attempt.fail .addressUnusable else command
  | .up => command

def drawId : Attempt Broker String := do
  let b ← Attempt.get
  Attempt.set { b with issued := b.issued + 1 }
  return s!"msg-{b.issued + 1}"

/-- By how many seconds a message is put off; none if there is no delay. -/
def putOff? (delay : Value) : Except Fault (Option Number) :=
  match delay.number? with
  | none =>
    .error (.wrongKind
      s!"'>' not supported between instances of '{delay.qualifiedKind}' and 'int'")
  | some seconds => .ok (if seconds.isPositive then some seconds else none)

/-- The time at which a message is due that is put off. -/
def dueTime (now : Double) : Number → Except Fault Double
  | .float seconds => .ok (now.add seconds)
  | .int seconds =>
    match Double.ofInt? seconds with
    | some seconds => .ok (now.add seconds)
    | none => .error (.tooLarge "int too large to convert to float")

/-- What is put on the queue: the text of a message, and the time at which it is due if there
is a delay. -/
def prepare (now : Double) (message : Message) (delay : Value) :
    Except Fault (String × Option Double) := do
  let seconds? ← putOff? delay
  let text ← message.write
  match seconds? with
  | some seconds => return (text, some (← dueTime now seconds))
  | none => return (text, none)

/-- Puts a message on the queue, among the delayed ones if there is a delay. -/
def enqueue (q : Queue) (now : Double) (event : Event) (message : Message) (delay : Value) :
    Attempt Broker Unit := do
  let (text, due?) ← Attempt.ofExcept (prepare now message delay)
  match due? with
  | some due =>
    q.ask (Broker.plan now q.delayed due text)
    Attempt.note .queue .info
      s!"Event {event.id} queued as {message.id.plainText}, due in {delay.plainText}s"
  | none =>
    q.ask (Broker.push now q.pending text)
    Attempt.note .queue .info
      s!"Event {event.id} ({Vocabulary.wire event.kind}) queued as {message.id.plainText}"

/-- Publishes an event; answers the message, or none for a duplicate. -/
def publish (q : Queue) (now : Double) (event : Event) (delay : Value) (deduplicate : Bool) :
    Attempt Broker (Option Message) := do
  let message := Message.create (← drawId) event now
  let accepted ←
    if deduplicate then q.ask (Broker.markFree now (q.guardOf event.id) guardSeconds)
    else pure true
  if accepted then
    q.enqueue now event message delay
    return some message
  else
    Attempt.note .queue .info s!"Duplicate event {event.id} not queued"
    return none

/-- What a claim finds: nothing, an empty text, or a message. -/
inductive Claim where
  | nothing
  | blank
  | message (message : Message)

def Claim.message? : Claim → Option Message
  | .message m => some m
  | _ => none

/-- Sets the lease of a message, whose length must be an integer or a text of digits. -/
def hold (q : Queue) (now : Double) (m : Message) : Attempt Broker Unit := do
  match q.leaseSeconds with
  | .int seconds => q.ask (Broker.mark now (q.lease m.id) seconds)
  | .text digits =>
    if !digits.isEmpty && digits.toList.all Text.isDigit then
      let seconds ← Attempt.ofExcept ((readInt digits).mapError .number)
      q.ask (Broker.mark now (q.lease m.id) seconds)
    else Attempt.fail .leaseUnusable
  | .bool b =>
    Broker.check (q.lease m.id)
    Attempt.fail (.unsendable (Value.bool b).kindName)
  | _ => Attempt.fail .leaseUnusable

/-- Claims the oldest pending message, after the delayed ones that are due have
joined it. -/
def claim (q : Queue) (now : Double) : Attempt Broker Claim := do
  q.ask (Broker.releaseDue now q.delayed q.pending)
  match ← q.ask (Broker.moveLast now q.pending q.processing) with
  | none => return .nothing
  | some text =>
    if text.isEmpty then return .blank
    let message ← Attempt.ofExcept (Message.decode text)
    q.hold now message
    Attempt.note .queue .debug
      s!"Claimed message {message.id.plainText} (attempt {message.attempt.plainText})"
    return .message message

/-- The first text that is a message with an id; every text before it must be a message. -/
def findText (id : Value) : List String → Except Fault (Option String)
  | [] => .ok none
  | text :: rest => do
    if (← Message.decode text).id.same id then return some text else findText id rest

/-- Drops a claimed message and its lease. -/
def release (q : Queue) (now : Double) (m : Message) : Attempt Broker Unit := do
  match ← Attempt.ofExcept (findText m.id (← q.ask (Broker.texts now q.processing))) with
  | some text => q.ask (Broker.drop now q.processing text)
  | none => pure ()
  q.ask (Broker.delete (q.lease m.id))

/-- Drops a message that was handled. -/
def complete (q : Queue) (now : Double) (m : Message) : Attempt Broker Unit := q.release now m

/-- Puts a claimed message back behind the pending ones. -/
def retry (q : Queue) (now : Double) (m : Message) : Attempt Broker Message := do
  q.release now m
  let next ← Attempt.ofExcept m.nextAttempt
  let text ← Attempt.ofExcept next.write
  q.ask (Broker.push now q.pending text)
  Attempt.note .queue .info
    s!"Message {m.id.plainText} requeued for attempt {next.attempt.plainText}"
  return next

/-- Gives a claimed message up for a reason. -/
def bury (q : Queue) (now : Double) (m : Message) (reason : Value) : Attempt Broker Unit := do
  q.release now m
  let text ← Attempt.ofExcept { m with reason }.write
  q.ask (Broker.push now q.dead text)
  Attempt.note .queue .warning s!"Message {m.id.plainText} dead-lettered: {reason.plainText}"

/-- Gives up a message that was delivered often enough, and retries any other. -/
def returnExpired (q : Queue) (now : Double) (limit : Value) (m : Message) :
    Attempt Broker Unit := do
  if ← Attempt.ofExcept (m.attempt.atLeast limit) then q.bury now m (.text "lease_expired")
  else let _ ← q.retry now m

/-- Returns the messages among the given texts whose lease has ended; answers how many. -/
def requeueTexts (q : Queue) (now : Double) (limit : Value) : List String → Attempt Broker Nat
  | [] => return 0
  | text :: rest => do
    let message ← Attempt.ofExcept (Message.decode text)
    let held ← q.ask (Broker.holds now (q.lease message.id))
    if !held then q.returnExpired now limit message
    return (if held then 0 else 1) + (← q.requeueTexts now limit rest)

/-- Returns all claimed messages whose lease has ended. -/
def requeueExpired (q : Queue) (now : Double) (limit : Value) : Attempt Broker Nat := do
  q.requeueTexts now limit (← q.ask (Broker.texts now q.processing))

/-- How many messages are in each of the four places. -/
def depth (q : Queue) (now : Double) : Attempt Broker Value := do
  let pending ← q.ask (Broker.texts now q.pending)
  let processing ← q.ask (Broker.texts now q.processing)
  let delayed ← q.ask (Broker.entries now q.delayed)
  let dead ← q.ask (Broker.texts now q.dead)
  return .object [("pending", .int pending.length), ("processing", .int processing.length),
    ("delayed", .int delayed.length), ("dead_letter", .int dead.length)]

/-- Whether the store answers. -/
def ping (q : Queue) : Attempt Broker Bool := do
  match ← Attempt.guarded (q.ask (pure ())) with
  | .ok _ => return true
  | .error .storeDown =>
    Attempt.note .queue .error s!"Redis ping failed: {Fault.message .storeDown}"
    return false
  | .error fault => Attempt.fail fault

end Queue

end CaseWorkflow
