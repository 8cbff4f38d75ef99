import CaseWorkflow.Template.Layout
import CaseWorkflow.Template.Subject.Basic

/-!
# Features of subjects

What a subject answers when it is asked for an attribute, for an item at a position, or
for an item under a key.
-/

namespace CaseWorkflow.Template

def numericAttribute? (v : Value) (name : String) : Option Value :=
  match v.number? with
  | some (.int i) =>
    if name = "real" || name = "numerator" then some (.int i)
    else if name = "imag" then some (.int 0)
    else if name = "denominator" then some (.int 1)
    else none
  | some (.float d) =>
    if name = "real" then some (.float d)
    else if name = "imag" then some (.float (Double.zeroOf false))
    else none
  | none => none

def dateAttribute? (d : Date) (name : String) : Option Value :=
  if name = "year" then some (.int d.year)
  else if name = "month" then some (.int d.month)
  else if name = "day" then some (.int d.day)
  else none

def momentAttribute? (m : Moment) (name : String) : Option Value :=
  if name = "hour" then some (.int m.hour)
  else if name = "minute" then some (.int m.minute)
  else if name = "second" then some (.int m.second)
  else if name = "microsecond" then some (.int m.microsecond)
  else if name = "fold" then some (.int 0)
  else dateAttribute? m.date name

def durationAttribute? (micros : Int) (name : String) : Option Value :=
  if name = "days" then some (.int (Duration.days micros))
  else if name = "seconds" then some (.int (Duration.seconds micros))
  else if name = "microseconds" then some (.int (Duration.microseconds micros))
  else none

/-- What a member answers about itself. -/
def memberAttribute? (m : Member) (name : String) : Option Value :=
  if name = "value" || name = "_value_" then some (.text m.wire)
  else if name = "name" || name = "_name_" then some (.text m.label)
  else if name = "_sort_order_" then some (.int (Subject.members.idxOf m))
  else none

namespace Subject

def text (s : String) : Subject := .value (.text s)

/-- What a kind says of itself. -/
def docOf (base : String) : Subject :=
  .value ((((Kind.named? base).bind Kind.doc).map .text).getD .null)

/-- What a kind answers about itself. -/
def kindAttribute? (base name : String) : Option Subject := do
  let k ← Kind.named? base
  if name = "__name__" || name = "__qualname__" then some (text base)
  else if name = "__module__" then some (text k.home)
  else if name = "__mro__" then some (.row (.kind base :: k.above.map .kind))
  else if name = "__bases__" then some (.row (k.bases.map .kind))
  else if name = "__base__" then some ((k.bases.head?.map .kind).getD (.value .null))
  else if name = "__doc__" then some (docOf base)
  else none

/-- What a vocabulary and its members answer about all members; each leads to the others. -/
def vocabularyAttribute? (name : String) : Option Value :=
  if name = "_member_names_" then some (.list (members.map fun m => .text m.label))
  else if name = "_member_map_" then
    some (.object (members.map fun m => (m.label, .member m)))
  else if name = "_value2member_map_" then
    some (.object (members.map fun m => (m.wire, .member m)))
  else (members.find? (·.label == name)).map .member

def memberKindAttribute? (name : String) : Option Subject :=
  if name = "__members__" then some (.entries (members.map fun m => (m.label, .member m)))
  else (vocabularyAttribute? name).map .value

/-- What an operation, or another feature, of a kind answers about itself; the kind that
counts for its full name is given. -/
def operationAttribute? (base name : String) (asked : String) : Option Subject :=
  if asked = "__name__" then some (text name)
  else if asked = "__qualname__" then some (text (base ++ "." ++ name))
  else none

def ownKind : Subject → String
  | .kind name => name
  | s => s.kindName

/-- The parts of a thing. -/
def attribute? (s : Subject) (name : String) : Option Subject :=
  if name = "__class__" then some (.kind s.kindName)
  else
    match s with
    | .value (.date d) => (dateAttribute? d name).map .value
    | .value (.moment m) =>
      if name = "tzinfo" then some ((m.offset.map .zone).getD (.value .null))
      else (momentAttribute? m name).map .value
    | .value v => (numericAttribute? v name).map .value
    | .span micros => (durationAttribute? micros name).map .value
    | .alias base argument =>
      if name = "__origin__" then some (.kind base)
      else if name = "__args__" then some (.row [.value argument])
      else if name = "__parameters__" then some (.row [])
      else if name = "__unpacked__" then some (.value (.bool false))
      else none
    | .kind base => kindAttribute? base name
    | .bound owner base operation isOperator =>
      if name = "__self__" then some owner
      else if name = "__objclass__" then some (.kind base)
      else if name = "__module__" then some (.value .null)
      else operationAttribute? (if isOperator then base else owner.ownKind) operation name
    | .free base feature _ =>
      if name = "__objclass__" then some (.kind base) else operationAttribute? base feature name
    | .row _ | .zone _ | .entries _ => none

/-- What is the same for a whole kind. -/
def constant (base name : String) : Subject :=
  match base, name with
  | _, "__doc__" => docOf base
  | "date", "min" => .value (.date Date.earliest)
  | "date", "max" => .value (.date Date.latest)
  | "date", "resolution" => .span microsPerDay
  | "datetime", "min" => .value (.moment Moment.earliest)
  | "datetime", "max" => .value (.moment Moment.latest)
  | "datetime", "resolution" | "timedelta", "resolution" => .span 1
  | "timedelta", "min" => .span Duration.shortest
  | "timedelta", "max" => .span Duration.longest
  | "timezone", "utc" => .zone 0
  | "timezone", "min" => .zone (-Moment.widestZone)
  | "timezone", "max" => .zone Moment.widestZone
  | _, _ => .value .null

/-- A feature that a thing has from its kind. -/
def ofThing? (s : Subject) (name : String) : Option Subject :=
  match Kind.feature? s.kindName name with
  | some (_, .attribute) | some (_, .field) => s.attribute? name
  | some (base, .constant) => some (constant base.name name)
  | some (base, .method) => some (.bound s base.name name false)
  | some (base, .operator) => some (.bound s base.name name true)
  | some (base, .shared) => some (.bound (.kind s.kindName) base.name name false)
  | some (base, .fixed) => some (.bound (.kind base.name) base.name name false)
  | none => none

/-- A feature of a kind itself: the parts of a kind come first, then the features that
things of the kind have, then those that all kinds have. -/
def ofKind? (base name : String) : Option Subject :=
  match Kind.feature? (kindOfKind base) name with
  | some (_, .attribute) | some (_, .field) => (Subject.kind base).attribute? name
  | _ =>
    match if base = memberKind then memberKindAttribute? name else none with
    | some found => some found
    | none =>
      match Kind.feature? base name with
      | some (owner, .constant) => some (constant owner.name name)
      | some (owner, .shared) => some (.bound (.kind base) owner.name name false)
      | some (owner, .fixed) => some (.bound (.kind owner.name) owner.name name false)
      | some (owner, feature) => some (.free owner.name name feature)
      | none => (Subject.kind base).ofThing? name

/-- The features that a kind with an argument answers for itself; for all others it asks
the kind. -/
def aliasFeatures : List String :=
  ["__class__", "__origin__", "__args__", "__unpacked__", "__parameters__",
    "__typing_unpacked_tuple_args__", "__mro_entries__", "__reduce_ex__", "__reduce__",
    "__copy__", "__deepcopy__"]

def feature? (s : Subject) (name : String) : Option Subject :=
  match s with
  | .kind base => ofKind? base name
  | .alias base _ => if name ∈ aliasFeatures then s.ofThing? name else ofKind? base name
  | .value (.member m) =>
    match memberAttribute? m name <|> vocabularyAttribute? name with
    | some found => some (.value found)
    | none =>
      if name = "__objclass__" then some (.kind m.title)
      else if name = "__module__" then kindAttribute? m.title name
      else if name = "__doc__" then some (docOf m.title)
      else s.ofThing? name
  | s => s.ofThing? name

def takesArgument (base : String) : Bool :=
  base = "type" || (Kind.feature? base "__class_getitem__").isSome

/-- The refusal of a subject that has no items. -/
def notIndexable (s : Subject) : Obstacle :=
  match s with
  | .kind base => .wrongKind s!"type '{shownKind base}' is not subscriptable"
  | .alias .. => .wrongKind s!"{s.expression} is not a generic class"
  | s => .wrongKind s!"'{s.shown}' object is not subscriptable"

def found (s : Option Subject) : Except Obstacle Subject :=
  match s with
  | some s => .ok s
  | none => .error .malformed

def member (s : Subject) (name : String) : Except Obstacle Subject := found (s.feature? name)

def atPosition (s : Subject) (index : Nat) : Except Obstacle Subject :=
  match s with
  | .value (.list items) => found (items[index]?.map .value)
  | .value (.object _) | .entries _ => .error .malformed
  | .row items => found items[index]?
  | .kind base =>
    if base = memberKind then .error .malformed
    else if takesArgument base then .ok (.alias base (.int index))
    else .error s.notIndexable
  | .value v =>
    match v.text? with
    | some characters =>
      found (characters.toList[index]?.map fun c => text (String.singleton c))
    | none => .error s.notIndexable
  | s => .error s.notIndexable

def atKey (s : Subject) (key : String) : Except Obstacle Subject :=
  match s with
  | .value (.object table) | .entries table => found ((table.lookup key).map .value)
  | .value (.list _) => .error (.wrongKind "list indices must be integers or slices, not str")
  | .row _ => .error (.wrongKind "tuple indices must be integers or slices, not str")
  | .kind base =>
    if base = memberKind then
      found ((members.find? (·.label == key)).map fun m => .value (.member m))
    else if takesArgument base then .ok (.alias base (.text key))
    else .error s.notIndexable
  | .value v =>
    if v.text?.isSome then .error (.wrongKind "string indices must be integers, not 'str'")
    else .error s.notIndexable
  | s => .error s.notIndexable

end Subject

end CaseWorkflow.Template
