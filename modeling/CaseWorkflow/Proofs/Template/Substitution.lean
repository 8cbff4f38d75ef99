import CaseWorkflow.Proofs.Template.Unknown

/-!
# Substitution

Bare placeholders are substituted once.  A known key gives the text of its value, which is not
read again, and an unknown key gives its placeholder.  A key that begins with a number which no
size can have is malformed, so that the whole text is left as it is.
-/

namespace CaseWorkflow.Template

variable {data : Entries}

/-! ## Keys -/

/-- The number that the decimal digits at the front of a text spell after those before it. -/
def numberAfter (value : ℕ) (cs : List Char) : ℕ :=
  (cs.takeWhile fun c => (Text.digit? c).isSome).foldl
    (fun value c => value * 10 + (Text.digit? c).getD 0) value

theorem numberAfter_cons_digit {c : Char} {digit : ℕ} (h : Text.digit? c = some digit)
    (value : ℕ) (cs : List Char) :
    numberAfter value (c :: cs) = numberAfter (value * 10 + digit) cs := by
  simp [numberAfter, h]

theorem numberAfter_cons_other {c : Char} (h : Text.digit? c = none) (value : ℕ)
    (cs : List Char) : numberAfter value (c :: cs) = value := by
  simp [numberAfter, h]

theorem le_numberAfter (value : ℕ) (cs : List Char) : value ≤ numberAfter value cs := by
  induction cs generalizing value with
  | nil => exact le_refl value
  | cons c cs ih =>
      cases hdigit : Text.digit? c with
      | none => rw [numberAfter_cons_other hdigit]
      | some digit =>
          rw [numberAfter_cons_digit hdigit]
          have hrest := ih (value * 10 + digit)
          omega

/-- A text that is not made of digits alone is no number, but its digits are counted as far as
they go. -/
theorem positionAfter_of_word {value : ℕ} {cs : List Char} (h : ∃ c ∈ cs, Text.digit? c = none)
    (hvalue : value < Spec.sizeLimit) :
    positionAfter value cs =
      if numberAfter value cs < Spec.sizeLimit then .ok none else .error .malformed := by
  induction cs generalizing value with
  | nil => simp at h
  | cons c cs ih =>
      rw [positionAfter]
      cases hdigit : Text.digit? c with
      | none =>
          rw [numberAfter_cons_other hdigit]
          simp [hvalue]
      | some digit =>
          rw [numberAfter_cons_digit hdigit]
          have hrest : ∃ c ∈ cs, Text.digit? c = none := by simpa [hdigit] using h
          by_cases hlarge : Spec.sizeLimit ≤ value * 10 + digit
          · have hnumber := hlarge.trans (le_numberAfter (value * 10 + digit) cs)
            simp [hlarge, Nat.not_lt.mpr hnumber]
          · simp [hlarge, ih hrest (Nat.lt_of_not_le hlarge)]

namespace Head

variable {head : Head}

/-- The key is not made of decimal digits alone. -/
def IsWord (head : Head) : Prop := ∃ c ∈ head.key, Text.digit? c = none

/-- The key does not begin with a number beyond the largest size. -/
def InRange (head : Head) : Prop := numberAfter 0 head.key < Spec.sizeLimit

/-- What the data have under the key, or the stand-in. -/
def value (head : Head) (data : Entries) : Value :=
  (data.lookup (String.ofList head.key)).getD (.text (standIn head.key))

theorem position_of_isWord (h : head.IsWord) :
    position head.key =
      if numberAfter 0 head.key < Spec.sizeLimit then .ok none else .error .malformed := by
  have hkey : head.key.isEmpty = false := by
    obtain ⟨c, hc, -⟩ := h
    exact List.isEmpty_eq_false_iff_exists_mem.mpr ⟨c, hc⟩
  rw [position, hkey]
  exact positionAfter_of_word h (by decide)

theorem subject_of_inRange (h : head.IsWord) (hrange : head.InRange)
    (hsuffixes : head.suffixes = []) : head.subject data = .ok (.value (head.value data)) := by
  have hname : head.name.isEmpty = false := by
    obtain ⟨c, hc, -⟩ := h
    exact List.isEmpty_eq_false_iff_exists_mem.mpr ⟨c, List.mem_append_left _ hc⟩
  have hposition : position head.key = .ok none := by
    rw [position_of_isWord h]
    exact if_pos hrange
  rw [subject, hposition, hsuffixes]
  change (if head.name.isEmpty || false then _ else _) = _
  rw [hname]
  rfl

theorem subject_of_not_inRange (h : head.IsWord) (hrange : ¬head.InRange) :
    head.subject data = .error .malformed := by
  have hposition : position head.key = .error .malformed := by
    rw [position_of_isWord h]
    exact if_neg hrange
  rw [subject, hposition]
  rfl

end Head

/-! ## Placeholders -/

namespace Placeholder

variable {p : Placeholder}

theorem shown_of_inRange (h : p.IsBare) (hword : p.head.IsWord) (hrange : p.head.InRange) :
    p.head.shown data (.ok []) = .ok (p.head.value data).plainText.toList := by
  obtain ⟨hsuffixes, hconversion, -⟩ := h
  rw [Head.shown, Head.subject_of_inRange hword hrange hsuffixes, hconversion]
  rfl

theorem shown_of_not_inRange (hword : p.head.IsWord) (hrange : ¬p.head.InRange)
    (data : Entries) (format : Laid) : p.head.shown data format = .error .malformed := by
  rw [Head.shown, Head.subject_of_not_inRange hword hrange]
  rfl

end Placeholder

/-! ## Texts -/

namespace Tree

variable {t : Tree}

/-- A template of bare placeholders with each of them replaced by the text of its value. -/
def filled (data : Entries) : Tree → List Char
  | done => []
  | literal c rest => c :: rest.filled data
  | field head _ _ rest => (head.value data).plainText.toList ++ rest.filled data

theorem shown_filled (ht : t.Sound) (hbare : ∀ p ∈ t.fields, p.IsBare)
    (hwords : ∀ p ∈ t.fields, p.head.IsWord) (hrange : ∀ p ∈ t.fields, p.head.InRange)
    (levels : ℕ) : t.shown data (levels + 2) = .ok (t.filled data) := by
  induction t with
  | done => rfl
  | literal c rest ih =>
      rw [shown_literal, ih ht hbare hwords hrange]
      rfl
  | field head colon format rest _ ih =>
      obtain ⟨hcolon, -, -, hrest⟩ := ht
      obtain ⟨hfirst, hothers⟩ := List.forall_mem_cons.mp hbare
      obtain ⟨hword, hotherWords⟩ := List.forall_mem_cons.mp hwords
      obtain ⟨hsmall, hotherSmall⟩ := List.forall_mem_cons.mp hrange
      have hformat : format = .done := hcolon hfirst.2.2
      subst hformat
      rw [shown_field, ih hrest hothers hotherWords hotherSmall]
      change (head.shown data (.ok []) >>= _) = _
      rw [Placeholder.shown_of_inRange hfirst hword hsmall]
      rfl

/-- One key out of range makes the whole template malformed. -/
theorem shown_malformed (ht : t.Sound) (hbare : ∀ p ∈ t.fields, p.IsBare)
    (hwords : ∀ p ∈ t.fields, p.head.IsWord) (hrange : ∃ p ∈ t.fields, ¬p.head.InRange)
    (levels : ℕ) : t.shown data (levels + 2) = .error .malformed := by
  induction t with
  | done => simp [fields] at hrange
  | literal c rest ih =>
      rw [shown_literal, ih ht hbare hwords hrange]
      rfl
  | field head colon format rest _ ih =>
      obtain ⟨hcolon, -, -, hrest⟩ := ht
      obtain ⟨hfirst, hothers⟩ := List.forall_mem_cons.mp hbare
      obtain ⟨hword, hotherWords⟩ := List.forall_mem_cons.mp hwords
      have hformat : format = .done := hcolon hfirst.2.2
      subst hformat
      rw [shown_field]
      by_cases hsmall : head.InRange
      · have hlater : ∃ p ∈ rest.fields, ¬p.head.InRange := by
          simpa [fields, hsmall] using hrange
        rw [ih hrest hothers hotherWords hlater]
        change (head.shown data (.ok []) >>= _) = _
        rw [Placeholder.shown_of_inRange hfirst hword hsmall]
        rfl
      · have hfield := Placeholder.shown_of_not_inRange hword hsmall data
          (Tree.done.shown data (levels + 1))
        rw [hfield]
        rfl

/-- Rendering literals and bare placeholders whose keys are words gives the literals and the
texts of the values in order, unless a key begins with a number beyond the largest size: then it
gives the text as it is. -/
theorem render_filled (data : Entries) (ht : t.Sound) (hbare : ∀ p ∈ t.fields, p.IsBare)
    (hwords : ∀ p ∈ t.fields, p.head.IsWord) :
    ((∀ p ∈ t.fields, p.head.InRange) →
        render (String.ofList t.text) data = .ok (String.ofList (t.filled data))) ∧
      ((∃ p ∈ t.fields, ¬p.head.InRange) →
        render (String.ofList t.text) data = .ok (String.ofList t.text)) := by
  rw [render_text data ht, levelLimit]
  constructor
  · intro hrange
    rw [shown_filled ht hbare hwords hrange]
  · intro hrange
    rw [shown_malformed ht hbare hwords hrange]

def after (cs : List Char) (rest : Tree) : Tree := cs.foldr literal rest

def bare (key : List Char) (hkey : ∀ c ∈ key, isNamePart c = true) (rest : Tree) : Tree :=
  field ⟨key, [], none, hkey, List.forall_mem_nil Suffix.Valid⟩ false done rest

/-- A notice with a name in braces between two placeholders. -/
def notice : Tree :=
  bare ['s', 'u', 'm'] (List.all_eq_true.mp rfl)
    (after ['\x7b', 'd', 'i', 'a', '\x7d']
      (bare ['d', 'i', 'a'] (List.all_eq_true.mp rfl)
        (bare ['7', 'a'] (List.all_eq_true.mp rfl) done)))

/-- A value that looks like a placeholder is copied, and the unknown day is left. -/
theorem render_filled_notice :
    let data : Entries := [("sum", .text "\x7b7a\x7d\x7b"), ("7a", .int 3)]
    notice.Sound ∧ (∀ p ∈ notice.fields, p.IsBare) ∧ (∀ p ∈ notice.fields, p.head.IsWord) ∧
      (∀ p ∈ notice.fields, p.head.InRange) ∧
      String.ofList notice.text = "\x7bsum\x7d\x7b\x7bdia\x7d\x7d\x7bdia\x7d\x7b7a\x7d" ∧
      render (String.ofList notice.text) data = .ok "\x7b7a\x7d\x7b\x7bdia\x7d\x7bdia\x7d3" := by
  intro data
  have hsound : notice.Sound :=
    ⟨fun _ => rfl, rfl, trivial, fun _ => rfl, rfl, trivial, fun _ => rfl, rfl, trivial, trivial⟩
  have hbare : ∀ p ∈ notice.fields, p.IsBare := by
    simp [notice, bare, after, fields, Placeholder.IsBare]
  have hletter : Text.digit? 'a' = none ∧ Text.digit? 'd' = none ∧ Text.digit? 'm' = none ∧
      Text.digit? 's' = none := by
    decide +kernel
  have hdigit : Text.digit? '7' = some 7 := by decide +kernel
  have hwords : ∀ p ∈ notice.fields, p.head.IsWord := by
    simp [notice, bare, after, fields, Head.IsWord, hletter]
  have hrange : ∀ p ∈ notice.fields, p.head.InRange := by
    simp [notice, bare, after, fields, Head.InRange, numberAfter, hletter, hdigit, Spec.sizeLimit]
  have hfilled : String.ofList (notice.filled data)
      = "\x7b7a\x7d\x7b\x7bdia\x7d\x7bdia\x7d3" := by
    decide +kernel
  refine ⟨hsound, hbare, hwords, hrange, by decide +kernel, ?_⟩
  rw [(render_filled data hsound hbare hwords).1 hrange, hfilled]

/-- A placeholder whose key begins with a number just beyond the largest size. -/
def numbered : Tree :=
  bare "9223372036854775808a".toList (List.all_eq_true.mp (by decide)) done

/-- A known key that begins with a number beyond the largest size is not substituted. -/
theorem numbered_kept :
    let data : Entries := [("9223372036854775808a", .text "x")]
    numbered.Sound ∧ (∀ p ∈ numbered.fields, p.IsBare ∧ p.head.IsWord) ∧
      String.ofList (numbered.filled data) = "x" ∧
      render (String.ofList numbered.text) data = .ok "\x7b9223372036854775808a\x7d" := by
  refine ⟨⟨fun _ => rfl, rfl, trivial, trivial⟩, ?_, by decide +kernel, by decide +kernel⟩
  intro p hp
  obtain rfl := List.mem_singleton.mp hp
  exact ⟨⟨rfl, rfl, rfl⟩, 'a', by decide, by decide⟩

end Tree

end CaseWorkflow.Template
