import CaseWorkflow.Text.Half
import CaseWorkflow.Text.Printable

/-!
# Quoted texts

A text is quoted with single quotes, or with double quotes when it holds a
single quote and no double one.  The quote in use and the backslash are escaped
by a backslash, three controls by their letter, and every other character that
cannot be shown by its code in two, four or eight hexadecimal digits.
-/

namespace CaseWorkflow.Text

/-- A number in hexadecimal, with leading zeros up to the width. -/
def hex (width : Nat) (n : Nat) : List Char :=
  let digits := Nat.toDigits 16 n
  List.replicate (width - digits.length) '0' ++ digits

/-- The escape of a code, as short as the code allows. -/
def codeEscape (code : Nat) : List Char :=
  if code < 0x100 then '\\' :: 'x' :: hex 2 code
  else if code < 0x10000 then '\\' :: 'u' :: hex 4 code
  else '\\' :: 'U' :: hex 8 code

def quoteChar (quote c : Char) : List Char :=
  if c == quote || c == '\\' then ['\\', c]
  else if c == '\t' then ['\\', 't']
  else if c == '\n' then ['\\', 'n']
  else if c == '\r' then ['\\', 'r']
  else if isPrintable c then [c]
  else codeEscape (codeOf c)

def singleQuote : Char := '\x27'

def doubleQuote : Char := '\x22'

/-- The quote that a text is written with. -/
def quoteFor (cs : List Char) : Char :=
  if cs.contains singleQuote && !cs.contains doubleQuote then doubleQuote else singleQuote

def quoted (s : String) : String :=
  let quote := quoteFor s.toList
  String.ofList (quote :: s.toList.flatMap (quoteChar quote) ++ [quote])

/-- The text with every character above the ASCII block escaped by its code. -/
def asciiOnly (s : String) : String :=
  String.ofList (s.toList.flatMap fun c => if c.toNat < 0x80 then [c] else codeEscape (codeOf c))

end CaseWorkflow.Text
