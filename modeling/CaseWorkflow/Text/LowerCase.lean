import CaseWorkflow.Text.LowerCase.Table

/-!
# Small letters

Lower-casing of a whole text.  Each capital has a small letter of its own, with
two exceptions: the dotted capital I becomes two characters, and the capital
sigma becomes the final sigma where it ends a word.
-/

namespace CaseWorkflow.Text

/-- The small form of one character, apart from its neighbours. -/
def lowerChar (c : Char) : List Char :=
  if c == 'İ' then ['i', '\u0307']
  else match capitalRuns.find? (·.covers c.toNat) with
    | some run => [Char.ofNat (c.toNat + run.distance).toNat]
    | none => [c]

/-- The first capital that has the character for its small letter, or the character itself. -/
def capitalOf (c : Char) : Char :=
  ((capitalRuns.findSome? (·.capital? c.toNat)).map Char.ofNat).getD c

def isCased (c : Char) : Bool := covered casedSpans c

def isCaseIgnorable (c : Char) : Bool := covered caseIgnorableSpans c

/-- Whether the nearest character that counts is a letter with a case. -/
def nextIsCased (cs : List Char) : Bool :=
  match cs.dropWhile isCaseIgnorable with
  | [] => false
  | c :: _ => isCased c

/-- A capital sigma ends a word when a cased letter stands before it and none after it. -/
def lowerSigma (before after : List Char) : Char :=
  if nextIsCased before && !nextIsCased after then 'ς' else 'σ'

/-- Lower-cases the characters; `before` holds those already passed, the nearest first. -/
def lowerFrom (before : List Char) : List Char → List Char
  | [] => []
  | c :: after =>
    (if c == 'Σ' then [lowerSigma before after] else lowerChar c) ++ lowerFrom (c :: before) after

/-- The text in small letters. -/
def lower (s : String) : String := String.ofList (lowerFrom [] s.toList)

end CaseWorkflow.Text
