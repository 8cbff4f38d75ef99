import CaseWorkflow.Template.Markup
import Mathlib.Data.List.TakeWhile

/-!
# Templates as trees

A template that follows the rules is a row of literal characters and of fields; the format of a
field is such a template again.  Reading the text of one finds the literals and the fields of
which it was written.
-/

namespace CaseWorkflow.Template

/-! ## Names -/

/-- A character that a key or the name of an attribute can have. -/
def isNamePart (c : Char) : Bool :=
  !isBrace c && c != ':' && c != '!' && c != '.' && c != '['

/-- What a name goes on with: an attribute after a point, or an index in square brackets. -/
inductive Suffix where
  | member (name : List Char)
  | index (name : List Char)

namespace Suffix

def text : Suffix → List Char
  | .member name => '.' :: name
  | .index name => '[' :: name ++ [']']

def Valid : Suffix → Prop
  | .member name => name ≠ [] ∧ ∀ c ∈ name, isNamePart c = true
  | .index name => name ≠ [] ∧ ']' ∉ name

end Suffix

/-- What a field has before its format. -/
structure Head where
  key : List Char
  suffixes : List Suffix
  conversion : Option Char
  key_plain : ∀ c ∈ key, isNamePart c = true
  suffixes_valid : ∀ s ∈ suffixes, s.Valid

namespace Head

def name (head : Head) : List Char := head.key ++ head.suffixes.flatMap Suffix.text

def text (head : Head) : List Char :=
  head.name ++ match head.conversion with
    | none => []
    | some c => ['!', c]

end Head

theorem isNamePart_iff {c : Char} :
    isNamePart c = true ↔
      c ≠ '\x7b' ∧ c ≠ '\x7d' ∧ c ≠ ':' ∧ c ≠ '!' ∧ c ≠ '.' ∧ c ≠ '[' := by
  simp [isNamePart, isBrace, and_assoc]

/-! ## Reading names -/

variable {cs name rest lit : List Char}

theorem fieldName_append (h : ∀ c ∈ cs, isNamePart c = true) (rest : List Char) :
    fieldName false (cs ++ rest)
      = (fieldName false rest).map fun (name, stop, after) => (cs ++ name, stop, after) := by
  induction cs with
  | nil => simp
  | cons c cs ih =>
      obtain ⟨hc, hcs⟩ := List.forall_mem_cons.mp h
      obtain ⟨hopen, hclose, hcolon, hmark, -, hbracket⟩ := isNamePart_iff.mp hc
      have hplain : (c == '[') = false := beq_eq_false_iff_ne.mpr hbracket
      rw [List.cons_append, fieldName, hplain, ih hcs]
      simp [hopen, hclose, hcolon, hmark, Function.comp_def]

theorem fieldName_bracketed (h : ']' ∉ name) (rest : List Char) :
    fieldName true (name ++ ']' :: rest)
      = (fieldName false rest).map fun (inner, stop, after) =>
          (name ++ ']' :: inner, stop, after) := by
  induction name with
  | nil => simp [fieldName]
  | cons c name ih =>
      rw [List.mem_cons, not_or] at h
      have hinside : (c != ']') = true := bne_iff_ne.mpr (Ne.symm h.1)
      rw [List.cons_append, fieldName, hinside, ih h.2]
      simp [Function.comp_def]

theorem fieldName_suffix {s : Suffix} (h : s.Valid) (rest : List Char) :
    fieldName false (s.text ++ rest)
      = (fieldName false rest).map fun (name, stop, after) => (s.text ++ name, stop, after) := by
  cases s with
  | member name =>
      rw [Suffix.text, List.cons_append, fieldName]
      simp [fieldName_append h.2, Function.comp_def]
  | index name =>
      rw [Suffix.text, List.append_assoc, List.cons_append, fieldName]
      simp [fieldName_bracketed h.2, Function.comp_def]

theorem fieldName_suffixes {suffixes : List Suffix} (h : ∀ s ∈ suffixes, s.Valid)
    (rest : List Char) :
    fieldName false (suffixes.flatMap Suffix.text ++ rest)
      = (fieldName false rest).map fun (name, stop, after) =>
          (suffixes.flatMap Suffix.text ++ name, stop, after) := by
  induction suffixes with
  | nil => simp
  | cons s suffixes ih =>
      obtain ⟨hs, hsuffixes⟩ := List.forall_mem_cons.mp h
      rw [List.flatMap_cons, List.append_assoc, fieldName_suffix hs, ih hsuffixes]
      simp [Function.comp_def]

/-- The name of a field ends at the first brace, colon or exclamation mark after it. -/
theorem Head.fieldName_name (head : Head) {stop : Char}
    (hstop : stop = '\x7d' ∨ stop = ':' ∨ stop = '!') (rest : List Char) :
    fieldName false (head.name ++ stop :: rest) = some (head.name, stop, rest) := by
  have hends : fieldName false (stop :: rest) = some ([], stop, rest) := by
    rw [fieldName]
    rcases hstop with rfl | rfl | rfl <;> rfl
  rw [name, List.append_assoc, fieldName_append head.key_plain,
    fieldName_suffixes head.suffixes_valid, hends]
  simp

/-! ## Reading fields -/

/-- Whether every brace is closed, and none before it is opened, with so many open before. -/
def paired : Nat → List Char → Bool
  | depth, [] => depth == 0
  | depth, c :: cs =>
    if c == '\x7d' then
      match depth with
      | 0 => false
      | depth + 1 => paired depth cs
    else paired (if c == '\x7b' then depth + 1 else depth) cs

/-- Paired braces do not end a format. -/
theorem balanced_of_paired {depth : Nat} (h : paired depth cs = true) (rest : List Char) :
    balanced depth (cs ++ '\x7d' :: rest) = some (cs, rest) := by
  induction cs generalizing depth with
  | nil =>
      rw [paired, beq_iff_eq] at h
      rw [h]
      rfl
  | cons c cs ih =>
      rw [List.cons_append]
      unfold balanced
      unfold paired at h
      by_cases hclose : (c == '\x7d') = true
      · rw [if_pos hclose] at h ⊢
        cases depth with
        | zero => cases h
        | succ depth => simp only [ih h, Option.map_some]
      · rw [if_neg hclose] at h ⊢
        rw [ih h, Option.map_some]

/-- The format of a field as it is written: a colon stands also before an empty one. -/
def formatText (colon : Bool) (format : List Char) : List Char :=
  if colon then ':' :: format else []

/-- No field begins with a brace, so that the brace before it is not a doubled one. -/
theorem Head.exists_first (head : Head) (colon : Bool) (format rest : List Char) :
    ∃ first cs, head.text ++ formatText colon format ++ '\x7d' :: rest = first :: cs ∧
      first ≠ '\x7b' := by
  unfold text name
  cases hkey : head.key with
  | cons c key =>
      have hc : isNamePart c = true := head.key_plain c (by rw [hkey]; exact List.mem_cons_self)
      exact ⟨c, _, rfl, (isNamePart_iff.mp hc).1⟩
  | nil =>
      cases head.suffixes with
      | cons s suffixes => cases s <;> exact ⟨_, _, rfl, by decide⟩
      | nil =>
          cases head.conversion with
          | some c => exact ⟨_, _, rfl, by decide⟩
          | none => cases colon <;> exact ⟨_, _, rfl, by decide⟩

/-- A field is read as it was written. -/
theorem readField_text (head : Head) {colon : Bool} {format : List Char}
    (hcolon : colon = false → format = []) (hformat : paired 0 format = true) (rest : List Char) :
    readField (head.text ++ formatText colon format ++ '\x7d' :: rest)
      = some (⟨head.name, head.conversion, format⟩, rest) := by
  have hbalanced := balanced_of_paired hformat rest
  unfold readField Head.text
  cases colon with
  | true =>
      cases head.conversion with
      | none =>
          rw [List.append_nil, List.append_assoc, formatText, if_pos rfl, List.cons_append,
            head.fieldName_name (.inr (.inl rfl))]
          simp [withFormat, hbalanced]
      | some conversion =>
          rw [List.append_assoc, List.append_assoc, List.cons_append,
            head.fieldName_name (.inr (.inr rfl))]
          simp [formatText, withFormat, hbalanced]
  | false =>
      obtain rfl := hcolon rfl
      cases head.conversion with
      | none =>
          rw [List.append_nil, formatText, List.append_assoc, if_neg Bool.false_ne_true,
            List.nil_append, head.fieldName_name (.inl rfl)]
          rfl
      | some conversion =>
          rw [List.append_assoc, List.append_assoc, List.cons_append,
            head.fieldName_name (.inr (.inr rfl))]
          simp [formatText]

/-! ## Trees -/

/-- A template by its rules. -/
inductive Tree where
  | done
  | literal (c : Char) (rest : Tree)
  | field (head : Head) (colon : Bool) (format rest : Tree)

namespace Tree

/-- A template as it is written: a literal brace is doubled. -/
def text : Tree → List Char
  | done => []
  | literal c rest => (if isBrace c then [c, c] else [c]) ++ rest.text
  | field head colon format rest =>
    '\x7b' :: head.text ++ formatText colon format.text ++ '\x7d' :: rest.text

/-- Formats stand after colons, and their braces pair up, so that each ends where its field
ends. -/
def Sound : Tree → Prop
  | done => True
  | literal _ rest => rest.Sound
  | field _ colon format rest =>
    (colon = false → format = done) ∧ paired 0 format.text = true ∧ format.Sound ∧ rest.Sound

/-- The pieces of a template, given the literal text that was read before. -/
def pieces : Tree → List Char → List Piece
  | done, lit => if lit.isEmpty then [] else [⟨lit, none⟩]
  | literal c rest, lit =>
    if isBrace c then ⟨lit ++ [c], none⟩ :: rest.pieces [] else rest.pieces (lit ++ [c])
  | field head _ format rest, lit =>
    ⟨lit, some ⟨head.name, head.conversion, format.text⟩⟩ :: rest.pieces []

end Tree

/-! ## Reading templates -/

namespace Markup

theorem takeWhile_literal (h : ∀ c ∈ lit, isBrace c = false) {brace : Char}
    (hbrace : isBrace brace = true) (rest : List Char) :
    (lit ++ brace :: rest).takeWhile (!isBrace ·) = lit ∧
      (lit ++ brace :: rest).dropWhile (!isBrace ·) = brace :: rest := by
  have hlit : ∀ c ∈ lit, (!isBrace c) = true := fun c hc => by simp [h c hc]
  rw [List.takeWhile_append_of_pos hlit, List.dropWhile_append_of_pos hlit]
  simp [hbrace]

theorem parse_literal (fuel : Nat) (h : ∀ c ∈ lit, isBrace c = false) :
    parse (fuel + 1) lit = ⟨if lit.isEmpty then [] else [⟨lit, none⟩], true⟩ := by
  have hlit : ∀ c ∈ lit, (!isBrace c) = true := fun c hc => by simp [h c hc]
  have htake : lit.takeWhile (!isBrace ·) = lit := List.takeWhile_eq_self_iff.mpr hlit
  have hdrop : lit.dropWhile (!isBrace ·) = [] := List.dropWhile_eq_nil_iff.mpr hlit
  rw [parse, htake, hdrop]

theorem parse_doubled (fuel : Nat) (h : ∀ c ∈ lit, isBrace c = false) {brace : Char}
    (hbrace : isBrace brace = true) (after : List Char) :
    parse (fuel + 1) (lit ++ brace :: brace :: after)
      = (parse fuel after).cons ⟨lit ++ [brace], none⟩ := by
  obtain ⟨htake, hdrop⟩ := takeWhile_literal h hbrace (brace :: after)
  rw [parse, htake, hdrop]
  simp

theorem parse_field (fuel : Nat) (h : ∀ c ∈ lit, isBrace c = false) (head : Head) {colon : Bool}
    {format : List Char} (hcolon : colon = false → format = []) (hformat : paired 0 format = true)
    (rest : List Char) :
    parse (fuel + 1)
        (lit ++ '\x7b' :: (head.text ++ formatText colon format ++ '\x7d' :: rest))
      = (parse fuel rest).cons ⟨lit, some ⟨head.name, head.conversion, format⟩⟩ := by
  have hread := readField_text head hcolon hformat rest
  obtain ⟨first, cs, hcs, hfirst⟩ := head.exists_first colon format rest
  rw [hcs] at hread ⊢
  have hbrace : isBrace '\x7b' = true := rfl
  obtain ⟨htake, hdrop⟩ := takeWhile_literal h hbrace (first :: cs)
  rw [parse, htake, hdrop]
  simp [hfirst, hread]

/-- Reading the text of a template finds its pieces. -/
theorem parse_text {t : Tree} (ht : t.Sound) (fuel : Nat) (lit : List Char)
    (h : ∀ c ∈ lit, isBrace c = false) (hfuel : (lit ++ t.text).length < fuel) :
    parse fuel (lit ++ t.text) = ⟨t.pieces lit, true⟩ := by
  -- `lit` is what was read since the last piece; a literal brace or a field ends it
  induction t generalizing fuel lit with
  | done =>
      obtain ⟨fuel, rfl⟩ := Nat.exists_eq_succ_of_ne_zero (Nat.ne_zero_of_lt hfuel)
      rw [Tree.text, List.append_nil]
      exact parse_literal fuel h
  | literal c rest ih =>
      obtain ⟨fuel, rfl⟩ := Nat.exists_eq_succ_of_ne_zero (Nat.ne_zero_of_lt hfuel)
      rw [Tree.text] at hfuel ⊢
      rw [Tree.pieces]
      cases hc : isBrace c with
      | true =>
          rw [hc, if_pos rfl] at hfuel
          simp only [List.length_append, List.length_cons] at hfuel
          rw [if_pos rfl, if_pos rfl]
          change parse (fuel + 1) (lit ++ c :: c :: rest.text) = _
          have hrestparse := ih ht fuel [] (by simp)
            (by simp only [List.nil_append]; omega)
          rw [List.nil_append] at hrestparse
          rw [parse_doubled fuel h hc, hrestparse]
          rfl
      | false =>
          rw [if_neg Bool.false_ne_true, if_neg Bool.false_ne_true, ← List.append_assoc]
          rw [hc, if_neg Bool.false_ne_true, ← List.append_assoc] at hfuel
          apply ih ht (fuel + 1) _ _ hfuel
          intro d hd
          rcases List.mem_append.mp hd with hd | hd
          · exact h d hd
          · exact List.mem_singleton.mp hd ▸ hc
  | field head colon format rest ihformat ihrest =>
      obtain ⟨fuel, rfl⟩ := Nat.exists_eq_succ_of_ne_zero (Nat.ne_zero_of_lt hfuel)
      obtain ⟨hcolon, hformat, -, hrest⟩ := ht
      rw [Tree.text, List.cons_append, List.cons_append] at hfuel ⊢
      simp only [List.length_append, List.length_cons] at hfuel
      have hempty : colon = false → format.text = [] := fun hc => by rw [hcolon hc, Tree.text]
      have hrestparse := ihrest hrest fuel [] (by simp)
        (by simp only [List.nil_append]; omega)
      rw [List.nil_append] at hrestparse
      rw [parse_field fuel h head hempty hformat, hrestparse]
      rfl

/-- The markup of a template's text has the template's pieces and no flaw. -/
theorem of_text {t : Tree} (ht : t.Sound) : Markup.of t.text = ⟨t.pieces [], true⟩ := by
  have hparse := parse_text ht (t.text.length + 1) [] (by simp) (by simp)
  rw [List.nil_append] at hparse
  exact hparse

end Markup

end CaseWorkflow.Template
