import CaseWorkflow.Text.Span

/-!
# Blank characters

The characters that count as blank when a text is trimmed or asked whether it
says anything: the controls that move the position, the four information
separators, and every space of Unicode.
-/

namespace CaseWorkflow.Text

def blankSpans : List Span := [
  (0x9, 0xD), (0x1C, 0x20), (0x85, 0x85), (0xA0, 0xA0), (0x1680, 0x1680), (0x2000, 0x200A),
  (0x2028, 0x2029), (0x202F, 0x202F), (0x205F, 0x205F), (0x3000, 0x3000)]

def isBlank (c : Char) : Bool := covered blankSpans c

/-- The list without its leading and trailing members of a class. -/
def trimBy (drop : Char → Bool) (cs : List Char) : List Char :=
  ((cs.dropWhile drop).reverse.dropWhile drop).reverse

/-- The text without leading and trailing blanks. -/
def trim (s : String) : String := String.ofList (trimBy isBlank s.toList)

/-- Whether the text has no character but blanks. -/
def allBlank (s : String) : Bool := s.toList.all isBlank

theorem isBlank_of_isWhitespace {c : Char} (h : c.isWhitespace = true) : isBlank c = true := by
  simp only [Char.isWhitespace, Bool.or_eq_true, decide_eq_true_eq] at h
  rcases h with ((rfl | rfl) | rfl) | rfl <;> decide

end CaseWorkflow.Text
