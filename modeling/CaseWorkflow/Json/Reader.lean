import CaseWorkflow.Number.Reader
import CaseWorkflow.Value.Basic

/-!
# Reading JSON

A reader for JSON texts that also takes `NaN` and the infinities.  It works on
the characters that remain; a failure names what was wrong and how many
characters remained there, from which the line and the column follow.
-/

namespace CaseWorkflow.Json

/-- What can be wrong with a JSON text. -/
inductive Flaw where
  | expectingValue
  | expectingName
  | expectingColon
  | expectingComma
  | extraData
  | unterminatedText
  | controlCharacter
  | badEscape
  | badCodeEscape
  | byteOrderMark
  deriving DecidableEq

def Flaw.description : Flaw → String
  | .expectingValue => "Expecting value"
  | .expectingName => "Expecting property name enclosed in double quotes"
  | .expectingColon => "Expecting ':' delimiter"
  | .expectingComma => "Expecting ',' delimiter"
  | .extraData => "Extra data"
  | .unterminatedText => "Unterminated string starting at"
  | .controlCharacter => "Invalid control character at"
  | .badEscape => "Invalid \\escape"
  | .badCodeEscape => "Invalid \\uXXXX escape"
  | .byteOrderMark => "Unexpected UTF-8 BOM (decode using utf-8-sig)"

/-- What holds other values. -/
inductive Holder where
  | list
  | object
  deriving DecidableEq

def Holder.name : Holder → String
  | .list => "array"
  | .object => "object"

/-- A failure while reading: a flaw and the number of characters from its place
to the end, a number with too many digits, or too many lists and objects in each other. -/
inductive Failure where
  | flaw (flaw : Flaw) (remaining : Nat)
  | number (error : NumberError)
  | tooDeep (innermost : Holder)

/-- Why a text is not read, or a value not written. -/
inductive Error where
  | malformed (flaw : Flaw) (line column position : Nat)
  | number (error : NumberError)
  /-- Too many lists and objects in each other; the innermost one is known of a text only. -/
  | tooDeep (innermost? : Option Holder)

def Error.message : Error → String
  | .malformed flaw line column position =>
    s!"{flaw.description}: line {line} column {column} (char {position})"
  | .number error => error.message
  | .tooDeep innermost? =>
    "maximum recursion depth exceeded" ++ match innermost? with
      | some innermost => s!" while decoding a JSON {innermost.name} from a unicode string"
      | none => ""

/-- How many lists and objects may stand in each other in a text. -/
def depthLimit : Nat := 980

def fail {α : Type} (flaw : Flaw) (remaining : Nat) : Except Failure α :=
  .error (.flaw flaw remaining)

def isSpace (c : Char) : Bool := c == ' ' || c == '\t' || c == '\n' || c == '\r'

def skipSpace (cs : List Char) : List Char := cs.dropWhile isSpace

def hexDigit? (c : Char) : Option Nat :=
  if c.isDigit then some (c.toNat - 48)
  else if 'a' ≤ c && c ≤ 'f' then some (c.toNat - 87)
  else if 'A' ≤ c && c ≤ 'F' then some (c.toNat - 55)
  else none

/-- The number that four hexadecimal digits spell. -/
def unit? : List Char → Option (Nat × List Char)
  | a :: b :: c :: d :: rest => do
    let a ← hexDigit? a
    let b ← hexDigit? b
    let c ← hexDigit? c
    let d ← hexDigit? d
    return (((a * 16 + b) * 16 + c) * 16 + d, rest)
  | _ => none

def isHighUnit (unit : Nat) : Bool := 0xD800 ≤ unit && unit < 0xDC00

def isLowUnit (unit : Nat) : Bool := 0xDC00 ≤ unit && unit < 0xE000

/-- The character of one code unit. -/
def ofUnit (unit : Nat) : Char :=
  if isHighUnit unit || isLowUnit unit then Text.ofHalf unit else Char.ofNat unit

/-- The character of a pair of halves. -/
def ofPair (high low : Nat) : Char :=
  Char.ofNat (0x10000 + (high - 0xD800) * 0x400 + (low - 0xDC00))

/-- Whether two units are the halves of a pair.  The pair of a private character that stands
for a half is left as it is. -/
def isPair (high low : Nat) : Bool :=
  isHighUnit high && isLowUnit low && !Text.isHalf (ofPair high low)

/-- The character that a code escape stands for, read after its `u`.  A second
escape belongs to it when the two are the halves of a pair.  The text must go on
after the digits. -/
def codeEscape (cs : List Char) : Except Failure (Char × List Char) :=
  match unit? cs with
  | none => fail .badCodeEscape (cs.length + 1)
  | some (_, []) => fail .badCodeEscape (cs.length + 1)
  | some (unit, rest) =>
    match rest with
    | '\\' :: 'u' :: after =>
      if isHighUnit unit && !(after.drop 4).isEmpty then
        match unit? after with
        | none => fail .badCodeEscape (after.length + 1)
        | some (low, beyond) =>
          if isPair unit low then .ok (ofPair unit low, beyond) else .ok (ofUnit unit, rest)
      else .ok (ofUnit unit, rest)
    | _ => .ok (ofUnit unit, rest)

def simpleEscape? (c : Char) : Option Char :=
  if c == Text.doubleQuote || c == '\\' || c == '/' then some c
  else if c == 'b' then some '\x08'
  else if c == 'f' then some '\x0c'
  else if c == 'n' then some '\n'
  else if c == 'r' then some '\r'
  else if c == 't' then some '\t'
  else none

/-- The characters up to the closing quote.  `start` is what follows the opening
quote. -/
def readChars (start : List Char) : Nat → List Char → Except Failure (List Char × List Char)
  | 0, _ => fail .unterminatedText (start.length + 1)
  | _, [] => fail .unterminatedText (start.length + 1)
  | fuel + 1, c :: cs =>
    if c == Text.doubleQuote then .ok ([], cs)
    else if c == '\\' then
      match cs with
      | [] => fail .unterminatedText (start.length + 1)
      | 'u' :: digits => do
        let (decoded, rest) ← codeEscape digits
        let (more, rest) ← readChars start fuel rest
        return (decoded :: more, rest)
      | escape :: rest =>
        match simpleEscape? escape with
        | none => fail .badEscape (cs.length + 1)
        | some decoded => do
          let (more, rest) ← readChars start fuel rest
          return (decoded :: more, rest)
    else if c.toNat < 0x20 then fail .controlCharacter (cs.length + 1)
    else do
      let (more, rest) ← readChars start fuel cs
      return (c :: more, rest)

/-- A text, read after its opening quote.  What the text and its closing quote are long
is fuel enough. -/
def readText (fuel : Nat) (cs : List Char) : Except Failure (String × List Char) := do
  let (chars, rest) ← readChars cs fuel cs
  return (String.ofList chars, rest)

/-- The digits before the point: a zero alone, or digits that do not begin with one. -/
def wholeDigits? : List Char → Option (List Char × List Char)
  | '0' :: rest => some (['0'], rest)
  | cs =>
    let digits := cs.takeWhile Char.isDigit
    if digits.isEmpty then none else some (digits, cs.dropWhile Char.isDigit)

/-- The places after the point, if a point with digits stands there. -/
def places : List Char → List Char × List Char
  | '.' :: cs =>
    let digits := cs.takeWhile Char.isDigit
    if digits.isEmpty then ([], '.' :: cs) else (digits, cs.dropWhile Char.isDigit)
  | cs => ([], cs)

/-- The power of ten, if a mark with digits stands there. -/
def power? (cs : List Char) : Option (Int × List Char) :=
  match cs with
  | mark :: after =>
    if mark == 'e' || mark == 'E' then
      let (negative, digits) := NumberText.sign after
      let power := digits.takeWhile Char.isDigit
      if power.isEmpty then none
      else some (Double.signed negative (Text.ofDigits power), digits.dropWhile Char.isDigit)
    else none
  | [] => none

/-- Splits a minus sign off. -/
def splitMinus : List Char → Bool × List Char
  | '-' :: rest => (true, rest)
  | rest => (false, rest)

/-- A number: an integer unless places or a power of ten stand there. -/
def readNumber (cs : List Char) : Except Failure (Value × List Char) :=
  let (negative, unsigned) := splitMinus cs
  match wholeDigits? unsigned with
  | none => fail .expectingValue cs.length
  | some (whole, rest) =>
    let (fraction, rest) := places rest
    match power? rest with
    | some (power, rest) =>
      .ok (.float (.ofDecimal negative (Text.ofDigits (whole ++ fraction))
        (power - fraction.length)), rest)
    | none =>
      if fraction.isEmpty then
        if NumberText.digitLimit < whole.length then
          .error (.number (.tooManyDigits whole.length))
        else .ok (.int (Double.signed negative (Text.ofDigits whole)), rest)
      else
        .ok (.float (.ofDecimal negative (Text.ofDigits (whole ++ fraction))
          (-(fraction.length : Int))), rest)

def words : List (List Char × Value) := [
  ("null".toList, .null), ("true".toList, .bool true), ("false".toList, .bool false),
  ("NaN".toList, .float .nan), ("Infinity".toList, .float (.infinity false)),
  ("-Infinity".toList, .float (.infinity true))]

def readWord? (cs : List Char) : Option (Value × List Char) :=
  (words.find? fun word => word.1.isPrefixOf cs).map fun word =>
    (word.2, cs.drop word.1.length)

mutual

/-- The value at the start of the text, in which so many more lists and objects may be
opened.  Twice the length of the text is fuel enough. -/
def readValue : Nat → Nat → List Char → Except Failure (Value × List Char)
  | 0, _, cs => fail .expectingValue cs.length
  | _, _, [] => fail .expectingValue 0
  | fuel + 1, room, c :: cs =>
    if c == Text.doubleQuote then do
      let (value, rest) ← readText fuel cs
      return (.text value, rest)
    else if c == '[' then
      if room = 0 then .error (.tooDeep .list)
      else
        match skipSpace cs with
        | ']' :: rest => .ok (.list [], rest)
        | rest => do
          let (items, rest) ← readItems fuel (room - 1) rest
          return (.list items, rest)
    else if c == '\x7b' then
      if room = 0 then .error (.tooDeep .object)
      else
        match skipSpace cs with
        | '\x7d' :: rest => .ok (.object [], rest)
        | rest => do
          let (entries, rest) ← readEntries fuel (room - 1) [] rest
          return (.object entries, rest)
    else
      match readWord? (c :: cs) with
      | some (value, rest) => .ok (value, rest)
      | none => readNumber (c :: cs)

/-- The items of a list up to its closing bracket. -/
def readItems : Nat → Nat → List Char → Except Failure (List Value × List Char)
  | 0, _, cs => fail .expectingValue cs.length
  | fuel + 1, room, cs => do
    let (item, rest) ← readValue fuel room cs
    match skipSpace rest with
    | ']' :: rest => return ([item], rest)
    | ',' :: rest =>
      let (items, rest) ← readItems fuel room (skipSpace rest)
      return (item :: items, rest)
    | rest => fail .expectingComma rest.length

/-- The entries of an object up to its closing brace, added to those already
read; a repeated key replaces the value in its place. -/
def readEntries : Nat → Nat → Entries → List Char → Except Failure (Entries × List Char)
  | 0, _, _, cs => fail .expectingValue cs.length
  | fuel + 1, room, entries, cs =>
    match cs with
    | [] => fail .expectingName 0
    | quote :: after =>
      if quote != Text.doubleQuote then fail .expectingName cs.length
      else do
        let (key, rest) ← readText fuel after
        match skipSpace rest with
        | ':' :: rest =>
          let (value, rest) ← readValue fuel room (skipSpace rest)
          let entries := entries.insert key value
          match skipSpace rest with
          | '\x7d' :: rest => return (entries, rest)
          | ',' :: rest => readEntries fuel room entries (skipSpace rest)
          | rest => fail .expectingComma rest.length
        | rest => fail .expectingColon rest.length

end

/-- A whole text: one value with nothing but blanks around it. -/
def readAll (cs : List Char) : Except Failure Value := do
  match cs with
  | '\uFEFF' :: _ => .error (.flaw .byteOrderMark cs.length)
  | _ =>
    let (value, rest) ← readValue (2 * cs.length + 2) depthLimit (skipSpace cs)
    match skipSpace rest with
    | [] => return value
    | rest => .error (.flaw .extraData rest.length)

/-- The line and the column of a place, both from one. -/
def lineAndColumn (before : List Char) : Nat × Nat :=
  (before.count '\n' + 1, (before.reverse.takeWhile (· != '\n')).length + 1)

def locate (cs : List Char) : Failure → Error
  | .flaw flaw remaining =>
    let position := cs.length - remaining
    let (line, column) := lineAndColumn (cs.take position)
    .malformed flaw line column position
  | .number error => .number error
  | .tooDeep innermost => .tooDeep (some innermost)

/-- The value that a JSON text spells. -/
def read (s : String) : Except Error Value :=
  (readAll s.toList).mapError (locate s.toList)

end CaseWorkflow.Json
