import CaseWorkflow.Number.Decimal
import CaseWorkflow.Text.Quoted
import CaseWorkflow.Value.Basic

/-!
# The text of a value

Two texts for each value: the expression that builds it, with quoted texts, and the
plain text, which differs from it for texts, days, moments and members only.
-/

namespace CaseWorkflow.Value

def openBrace : String := "\x7b"

def closeBrace : String := "\x7d"

mutual

def expression : Value → String
  | .null => "None"
  | .bool value => if value then "True" else "False"
  | .int value => toString value
  | .float value => value.text
  | .text value => Text.quoted value
  | .list items => "[" ++ ", ".intercalate (itemExpressions items) ++ "]"
  | .object entries => openBrace ++ ", ".intercalate (entryExpressions entries) ++ closeBrace
  | .date value => value.expression
  | .moment value => value.expression
  | .member value => s!"<{value.text}: {Text.quoted value.wire}>"

def itemExpressions : List Value → List String
  | [] => []
  | item :: rest => expression item :: itemExpressions rest

def entryExpressions : List (String × Value) → List String
  | [] => []
  | (key, value) :: rest =>
    (Text.quoted key ++ ": " ++ expression value) :: entryExpressions rest

end

def plainText : Value → String
  | .text value => value
  | .date value => value.text
  | .moment value => value.text
  | .member value => value.text
  | value => value.expression

theorem itemExpressions_eq_map (items : List Value) :
    itemExpressions items = items.map expression := by
  induction items with
  | nil => rfl
  | cons item rest ih => simp [itemExpressions, ih]

end CaseWorkflow.Value
