import CaseWorkflow.Number.Reader
import CaseWorkflow.Value.Text

/-!
# Writing JSON

The text of a value in JSON: a blank after each comma and colon, every character
outside printable ASCII escaped by its UTF-16 code units, numbers by their
shortest text, and days and moments as texts.  A value is written if it neither nests
too deep nor has an integer with too many digits in it.
-/

namespace CaseWorkflow.Json

/-- The escape of a UTF-16 code unit. -/
def unitEscape (unit : Nat) : List Char := '\\' :: 'u' :: Text.hex 4 unit

/-- The escape of a character by its code units: two for those beyond the basic plane. -/
def escaped (c : Char) : List Char :=
  if Text.codeOf c < 0x10000 then unitEscape (Text.codeOf c)
  else
    let rest := c.toNat - 0x10000
    unitEscape (0xD800 + rest / 0x400) ++ unitEscape (0xDC00 + rest % 0x400)

def writeChar (c : Char) : List Char :=
  if c == Text.doubleQuote || c == '\\' then ['\\', c]
  else if c == '\n' then ['\\', 'n']
  else if c == '\r' then ['\\', 'r']
  else if c == '\t' then ['\\', 't']
  else if c == '\x0c' then ['\\', 'f']
  else if c == '\x08' then ['\\', 'b']
  else if 0x20 ≤ c.toNat && c.toNat < 0x7F then [c]
  else escaped c

def writeText (s : String) : String :=
  String.ofList (Text.doubleQuote :: s.toList.flatMap writeChar ++ [Text.doubleQuote])

def writeDouble : Double → String
  | .nan => "NaN"
  | .infinity negative => if negative then "-Infinity" else "Infinity"
  | d => d.text

/-- How many lists and objects may stand in each other in what is written. -/
def writtenDepth : Nat := 485

mutual

/-- How many lists and objects stand in each other. -/
def depth : Value → Nat
  | .list items => itemsDepth items + 1
  | .object entries => entriesDepth entries + 1
  | _ => 0

def itemsDepth : List Value → Nat
  | [] => 0
  | item :: rest => max (depth item) (itemsDepth rest)

def entriesDepth : List (String × Value) → Nat
  | [] => 0
  | (_, value) :: rest => max (depth value) (entriesDepth rest)

end

mutual

/-- Whether no integer has too many digits. -/
def isLegible : Value → Bool
  | .int value => value.natAbs < Nat.pow 10 NumberText.digitLimit
  | .list items => areLegible items
  | .object entries => haveLegible entries
  | _ => true

def areLegible : List Value → Bool
  | [] => true
  | item :: rest => isLegible item && areLegible rest

def haveLegible : List (String × Value) → Bool
  | [] => true
  | (_, value) :: rest => isLegible value && haveLegible rest

end

mutual

def write : Value → String
  | .null => "null"
  | .bool value => if value then "true" else "false"
  | .int value => toString value
  | .float value => writeDouble value
  | .text value => writeText value
  | .member value => writeText value.wire
  | .list items => "[" ++ ", ".intercalate (writeItems items) ++ "]"
  | .object entries =>
    Value.openBrace ++ ", ".intercalate (writeEntries entries) ++ Value.closeBrace
  | .date value => writeText value.text
  | .moment value => writeText value.text

def writeItems : List Value → List String
  | [] => []
  | item :: rest => write item :: writeItems rest

def writeEntries : List (String × Value) → List String
  | [] => []
  | (key, value) :: rest => (writeText key ++ ": " ++ write value) :: writeEntries rest

end

end CaseWorkflow.Json
