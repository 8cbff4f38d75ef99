import CaseWorkflow.Number.Double
import CaseWorkflow.Text.Blank
import CaseWorkflow.Text.Digit
import CaseWorkflow.Text.Quoted

/-!
# Reading numbers

Texts that a person writes for an integer or a floating point number: blanks
around, a sign, digits of any script, and single underscores between digits.
-/

namespace CaseWorkflow

/-- Why a text is not a number. -/
inductive NumberError where
  | notAnInteger (text : String)
  | notAFloat (text : String)
  | tooManyDigits (count : Nat)
  | tooManyToWrite

namespace NumberError

/-- A text that is quoted in a message is cut after two hundred characters. -/
def cut (quoted : String) : String := String.ofList (quoted.toList.take 200)

def message : NumberError → String
  | .notAnInteger text => "invalid literal for int() with base 10: " ++ cut (Text.quoted text)
  | .notAFloat text => "could not convert string to float: " ++ Text.quoted text
  | .tooManyDigits count =>
    s!"Exceeds the limit (4300 digits) for integer string conversion: value has {count} digits; "
      ++ "use sys.set_int_max_str_digits() to increase the limit"
  | .tooManyToWrite =>
    "Exceeds the limit (4300 digits) for integer string conversion; "
      ++ "use sys.set_int_max_str_digits() to increase the limit"

end NumberError

namespace NumberText

/-- The longest row of digits that is read as an integer. -/
def digitLimit : Nat := 4300

/-- The position controls and the plain blank, which may stand around a number. -/
def isAsciiBlank (c : Char) : Bool := (9 ≤ c.toNat && c.toNat ≤ 13) || c == ' '

/-- A character as an ASCII one: blanks and digits of every script are known.  A question
mark stands for all the others, none of which can stand in a number. -/
def plainChar (c : Char) : Char :=
  if c.toNat < 0x7F then c
  else if Text.isBlank c then ' '
  else ((Text.digit? c).map Nat.digitChar).getD '?'

/-- The text in ASCII without the blanks around it. -/
def plain (s : String) : List Char := Text.trimBy isAsciiBlank (s.toList.map plainChar)

/-- Drops single underscores that stand between digits; none where another stands. -/
def withoutUnderscores (before : Char) : List Char → Option (List Char)
  | [] => if before == '_' then none else some []
  | c :: cs =>
    if c == '_' then if before.isDigit then withoutUnderscores c cs else none
    else if before == '_' && !c.isDigit then none
    else (withoutUnderscores c cs).map (c :: ·)

/-- Splits a sign off. -/
def sign : List Char → Bool × List Char
  | '-' :: cs => (true, cs)
  | '+' :: cs => (false, cs)
  | cs => (false, cs)

def isDigitOrUnderscore (c : Char) : Bool := c.isDigit || c == '_'

/-- A power of ten as it stands after the digits, or zero where none stands. -/
def power? : List Char → Option Int
  | [] => some 0
  | mark :: cs =>
    let (negative, digits) := sign cs
    if (mark == 'e' || mark == 'E') && !digits.isEmpty && digits.all Char.isDigit then
      some (Double.signed negative (Text.ofDigits digits))
    else none

/-- An unsigned floating point text. -/
def magnitude? (negative : Bool) (cs : List Char) : Option Double :=
  let name := cs.map Char.toLower
  if name = "inf".toList || name = "infinity".toList then some (.infinity negative)
  else if name = "nan".toList then some .nan
  else
    let whole := cs.takeWhile Char.isDigit
    let cs := cs.dropWhile Char.isDigit
    let (places, cs) := match cs with
      | '.' :: cs => (cs.takeWhile Char.isDigit, cs.dropWhile Char.isDigit)
      | cs => ([], cs)
    if whole.isEmpty && places.isEmpty then none
    else (power? cs).map fun power =>
      Double.ofDecimal negative (Text.ofDigits (whole ++ places)) (power - places.length)

end NumberText

/-- The integer that a text spells.  The digits at its start are counted before a look at
what follows them. -/
def readInt (s : String) : Except NumberError Int :=
  let (negative, cs) := NumberText.sign (NumberText.plain s)
  let run := cs.takeWhile NumberText.isDigitOrUnderscore
  match NumberText.withoutUnderscores ' ' run with
  | none => .error (.notAnInteger s)
  | some digits =>
    if NumberText.digitLimit < digits.length then .error (.tooManyDigits digits.length)
    else if digits.isEmpty || run.length < cs.length then .error (.notAnInteger s)
    else .ok (Double.signed negative (Text.ofDigits digits))

/-- The floating point number that a text spells. -/
def readFloat (s : String) : Except NumberError Double :=
  let (negative, cs) := NumberText.sign (NumberText.plain s)
  match (NumberText.withoutUnderscores ' ' cs).bind (NumberText.magnitude? negative) with
  | some d => .ok d
  | none => .error (.notAFloat s)

end CaseWorkflow
