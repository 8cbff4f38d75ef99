/-!
# Kinds

Everything that the name of a field can reach is of a kind.  A kind has features of its
own and those of the kinds above it, where the nearest kind that brings a feature counts.
-/

namespace CaseWorkflow.Template

/-- How a feature of a kind is used. -/
inductive Feature where
  /-- An operation that an expression writes with signs. -/
  | operator
  /-- An operation on one thing of the kind. -/
  | method
  /-- An operation on the kind itself. -/
  | shared
  /-- An operation of the kind that brings it, whatever it is asked of. -/
  | fixed
  /-- A part of a thing, worked out when it is asked for. -/
  | attribute
  /-- A part of a thing, kept in it. -/
  | field
  /-- A thing that is the same for the whole kind. -/
  | constant
  deriving DecidableEq

structure Kind where
  name : String
  /-- The library that the kind belongs to. -/
  home : String := "builtins"
  /-- Whether messages leave the library out. -/
  short : Bool := false
  /-- The kinds above it, the nearest first. -/
  above : List String := []
  /-- The kinds right above it, if there is more than the nearest. -/
  bases : List String := above.take 1
  operators : List String := []
  methods : List String := []
  shared : List String := []
  fixed : List String := []
  attributes : List String := []
  fields : List String := []
  constants : List String := []
  /-- What the kind says of itself. -/
  doc : Option String := none

namespace Kind

def own? (kind : Kind) (name : String) : Option Feature :=
  if name ∈ kind.constants then some .constant
  else if name ∈ kind.attributes then some .attribute
  else if name ∈ kind.fields then some .field
  else if name ∈ kind.methods then some .method
  else if name ∈ kind.operators then some .operator
  else if name ∈ kind.shared then some .shared
  else if name ∈ kind.fixed then some .fixed
  else none

def fullName (kind : Kind) : String :=
  if kind.home = "builtins" then kind.name else kind.home ++ "." ++ kind.name

def shown (kind : Kind) : String := if kind.short then kind.name else kind.fullName

end Kind

end CaseWorkflow.Template
