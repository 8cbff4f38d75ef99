import CaseWorkflow.Template.Markup
import CaseWorkflow.Template.Subject.Feature

/-!
# Rendering templates

The fields of a template are replaced by values from the data.  A name that the
data lack stands for itself in braces.  A name may go on with attributes after
points and with indices in square brackets.  Formats may hold fields, and those
fields' formats too, but no deeper.  Where anything is malformed the whole text
is left as it is.
-/

namespace CaseWorkflow.Template

/-- One step of a name: an attribute, an index by number, or an index by key. -/
inductive Step where
  | member (name : List Char)
  | position (index : Nat)
  | key (name : List Char)

/-- A step to take, the end of the name, or a flaw in it. -/
inductive Path where
  | finish
  | flawed
  | step (step : Step) (rest : List Char)

/-- The number that a row of decimal digits spells, given the number of those before it;
none for a text that is not such a row.  The digits must not lead beyond the largest size,
also where other characters come after them. -/
def positionAfter (value : Nat) : List Char → Except Obstacle (Option Nat)
  | [] => .ok (some value)
  | c :: cs =>
    match Text.digit? c with
    | none => .ok none
    | some digit =>
      let value := value * 10 + digit
      if Spec.sizeLimit ≤ value then .error .malformed else positionAfter value cs

/-- The number that a name spells, if it does. -/
def position (cs : List Char) : Except Obstacle (Option Nat) :=
  if cs.isEmpty then .ok none else positionAfter 0 cs

def nextStep : List Char → Path
  | [] => .finish
  | '.' :: cs =>
    let name := cs.takeWhile fun c => c != '.' && c != '['
    if name.isEmpty then .flawed else .step (.member name) (cs.drop name.length)
  | '[' :: cs =>
    let name := cs.takeWhile (· != ']')
    match cs.dropWhile (· != ']') with
    | [] => .flawed
    | _ :: rest =>
      if name.isEmpty then .flawed
      else
        match position name with
        | .error _ => .flawed
        | .ok none => .step (.key name) rest
        | .ok (some index) => .step (.position index) rest
  | _ => .flawed

def Step.take (subject : Subject) : Step → Except Obstacle Subject
  | .member name => subject.member (String.ofList name)
  | .position index => subject.atPosition index
  | .key name => subject.atKey (String.ofList name)

/-- Follows the steps of a name.  The length of the name is fuel enough. -/
def follow : Nat → Subject → List Char → Except Obstacle Subject
  | 0, subject, _ => .ok subject
  | fuel + 1, subject, cs =>
    match nextStep cs with
    | .finish => .ok subject
    | .flawed => .error .malformed
    | .step step rest => do follow fuel (← step.take subject) rest

/-- The text that stands for a name which the data lack. -/
def standIn (name : List Char) : String :=
  String.ofList ('\x7b' :: name ++ ['\x7d'])

/-- What a field's name leads to.  Fields without a name and fields with a number
for a name have nothing to lead to. -/
def resolve (data : Entries) (name : List Char) : Except Obstacle Subject := do
  let first := name.takeWhile fun c => c != '.' && c != '['
  if name.isEmpty || (← position first).isSome then .error .malformed
  else
    let key := String.ofList first
    let subject := (data.lookup key).getD (.text (standIn first))
    follow (name.length + 1) (.value subject) (name.drop first.length)

/-- Turns the subject into a text first, if a conversion asks for it. -/
def convert (subject : Subject) : Option Char → Except Obstacle Subject
  | none => .ok subject
  | some c =>
    if c == 's' then .ok (.text subject.plainText)
    else if c == 'r' then .ok (.text subject.expression)
    else if c == 'a' then .ok (.text (Text.asciiOnly subject.expression))
    else if c == '\x00' then .ok subject
    else .error .malformed

def lay (subject : Subject) (format : List Char) : Laid :=
  match subject with
  | .value v => layValue v format
  | subject =>
    if format.isEmpty then .ok subject.plainText.toList
    else .error (.wrongKind s!"unsupported format string passed to {subject.shown}.__format__")

/-- Renders the pieces in order, with so many levels of fields inside formats left. -/
def renderChars (data : Entries) : Nat → List Char → Laid
  | 0, _ => .error .malformed
  | levels + 1, cs => do
    let markup := Markup.of cs
    let parts ← markup.pieces.mapM fun piece => do
      match piece.field with
      | none => return piece.literal
      | some field =>
        let subject ← resolve data field.name
        let subject ← convert subject field.conversion
        let format ← renderChars data levels field.format
        return piece.literal ++ (← lay subject format)
    if markup.sound then return parts.flatten else .error .malformed

/-- How many levels of fields there can be. -/
def levelLimit : Nat := 3

/-- The text with its fields replaced, or as it is where anything is malformed. -/
def render (text : String) (data : Entries) : Except Obstacle String :=
  match renderChars data levelLimit text.toList with
  | .ok cs => .ok (String.ofList cs)
  | .error .malformed => .ok text
  | .error obstacle => .error obstacle

end CaseWorkflow.Template
