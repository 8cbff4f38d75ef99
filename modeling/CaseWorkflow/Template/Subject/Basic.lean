import CaseWorkflow.Calendar.Moment
import CaseWorkflow.Kind
import CaseWorkflow.Template.Kind.Table

/-!
# Subjects

What the name of a field leads to: a value, the kind of a thing, or a feature of one or
the other.
-/

namespace CaseWorkflow.Template

inductive Subject where
  | value (value : Value)
  | kind (name : String)
  /-- A kind for things with an argument. -/
  | alias (kind : String) (argument : Value)
  | row (items : List Subject)
  /-- A distance from universal time. -/
  | zone (offset : Int)
  | span (micros : Int)
  /-- Entries that can only be read. -/
  | entries (entries : Entries)
  /-- An operation of a kind, asked of a thing. -/
  | bound (owner : Subject) (kind name : String) (isOperator : Bool)
  /-- A feature of a kind, asked of the kind. -/
  | free (kind name : String) (feature : Feature)

namespace Subject

def memberKind : String := Vocabulary.title ActionKind

def members : List Member :=
  (Vocabulary.members (α := ActionKind)).map fun kind =>
    ⟨memberKind, Vocabulary.label kind, Vocabulary.wire kind⟩

def kindOfKind (name : String) : String :=
  if name = memberKind || name = "Enum" then "EnumType" else "type"

def kindName : Subject → String
  | .value v => v.kindName
  | .kind name => kindOfKind name
  | .alias .. => "GenericAlias"
  | .row _ => "tuple"
  | .zone _ => "timezone"
  | .span _ => "timedelta"
  | .entries _ => "mappingproxy"
  | .bound _ _ _ isOperator => if isOperator then "method-wrapper" else "builtin_function_or_method"
  | .free _ _ feature =>
    match feature with
    | .operator => "wrapper_descriptor"
    | .attribute => "getset_descriptor"
    | .field => "member_descriptor"
    | _ => "method_descriptor"

def shownKind (name : String) : String := ((Kind.named? name).map Kind.shown).getD name

def shown (s : Subject) : String := shownKind s.kindName

/-- A kind in angle brackets. -/
def kindText (name : String) : String :=
  if kindOfKind name = "EnumType" then s!"<enum '{name}'>"
  else
    match Kind.named? name with
    | some k => s!"<class '{k.fullName}'>"
    | none => s!"<class '{name}'>"

/-- A feature of a kind in angle brackets. -/
def featureText (kind name : String) (feature : Feature) : String :=
  let word := match feature with
    | .operator => "slot wrapper"
    | .attribute => "attribute"
    | .field => "member"
    | _ => "method"
  s!"<{word} '{name}' of '{shownKind kind}' objects>"

mutual

def expression : Subject → String
  | .value v => v.expression
  | .kind name => kindText name
  | .alias base argument => s!"{base}[{argument.expression}]"
  | .row items =>
    match itemExpressions items with
    | [item] => "(" ++ item ++ ",)"
    | texts => "(" ++ ", ".intercalate texts ++ ")"
  | .zone offset => Moment.offsetExpression offset
  | .span micros => Duration.expression micros
  | .entries table => "mappingproxy(" ++ (Value.object table).expression ++ ")"
  | .bound owner _ name isOperator =>
    if isOperator then s!"<method-wrapper '{name}' of {owner.shown} object>"
    else s!"<built-in method {name} of {owner.shown} object>"
  | .free base name feature => featureText base name feature

def itemExpressions : List Subject → List String
  | [] => []
  | item :: rest => expression item :: itemExpressions rest

end

def plainText : Subject → String
  | .value v => v.plainText
  | .zone offset => Moment.zoneName offset
  | .span micros => Duration.text micros
  | .entries table => (Value.object table).expression
  | s => s.expression

end Subject

end CaseWorkflow.Template
