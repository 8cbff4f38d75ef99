import CaseWorkflow.Proofs.Template.Meaning

/-!
# Placeholders that the data lack

The stand-in for an unknown key goes through the rest of its field like any value, so that only a
bare placeholder comes to itself: conversions and formats are carried out on the stand-in, and
attributes and indices are taken of it.  Malformed fields leave the whole text as it is.
-/

namespace CaseWorkflow.Template

variable {data : Entries}

/-! ## Data without the keys -/

/-- The keys that a template asks the data for, those in its formats too. -/
def Tree.keys : Tree → List String
  | done => []
  | literal _ rest => rest.keys
  | field head _ format rest => String.ofList head.key :: format.keys ++ rest.keys

theorem Head.subject_of_unknown {head : Head}
    (h : data.lookup (String.ofList head.key) = none) : head.subject data = head.subject [] := by
  unfold subject
  rw [h]
  rfl

/-- A template comes to the same for all data that lack its keys. -/
theorem Tree.shown_of_unknown {t : Tree} (h : ∀ key ∈ t.keys, data.lookup key = none)
    (levels : Nat) : t.shown data levels = t.shown [] levels := by
  induction t generalizing levels with
  | done => cases levels <;> rfl
  | literal c rest ih =>
      cases levels with
      | zero => rfl
      | succ levels => rw [shown_literal, shown_literal, ih h]
  | field head colon format rest ihformat ihrest =>
      simp only [keys, List.cons_append, List.forall_mem_cons, List.forall_mem_append] at h
      obtain ⟨hhead, hformat, hrest⟩ := h
      cases levels with
      | zero => rfl
      | succ levels =>
          rw [shown_field, shown_field, ihformat hformat, ihrest hrest, Head.shown, Head.shown,
            Head.subject_of_unknown hhead]

/-! ## Stand-ins -/

theorem positionAfter_error {value : Nat} {cs : List Char} {obstacle : Obstacle}
    (h : positionAfter value cs = .error obstacle) : obstacle = .malformed := by
  induction cs generalizing value with
  | nil => cases h
  | cons c cs ih =>
      rw [positionAfter] at h
      split at h
      · cases h
      · simp only at h
        split at h
        · cases h
          rfl
        · exact ih h

/-- Without suffixes an unknown key leads to its stand-in, unless the field is malformed. -/
theorem Head.subject_standIn {head : Head} (h : head.suffixes = []) :
    (head.key ≠ [] ∧ head.subject [] = .ok (.text (standIn head.key))) ∨
      head.subject [] = .error .malformed := by
  unfold subject
  cases hposition : position head.key with
  | error obstacle =>
      have hmalformed : obstacle = .malformed := by
        unfold position at hposition
        split at hposition
        · cases hposition
        · exact positionAfter_error hposition
      rw [hmalformed]
      exact .inr rfl
  | ok index =>
      by_cases hflawed : (head.name.isEmpty || index.isSome) = true
      · exact .inr (if_pos hflawed)
      · have hkey : head.key ≠ [] := by
          intro hkey
          rw [name, hkey, h] at hflawed
          exact hflawed rfl
        refine .inl ⟨hkey, ?_⟩
        rw [h]
        exact if_neg hflawed

/-- A field of a template. -/
structure Placeholder where
  head : Head
  colon : Bool
  format : Tree

namespace Placeholder

variable {p : Placeholder}

def text (p : Placeholder) : List Char :=
  '\x7b' :: p.head.text ++ formatText p.colon p.format.text ++ ['\x7d']

/-- What a placeholder comes to for data that lack its keys. -/
def shown (p : Placeholder) (levels : Nat) : Laid := p.head.shown [] (p.format.shown [] levels)

/-- A key in braces and nothing else. -/
def IsBare (p : Placeholder) : Prop :=
  p.head.suffixes = [] ∧ p.head.conversion = none ∧ p.colon = false

/-- A bare placeholder comes to itself, unless its key is a number. -/
theorem shown_of_isBare (h : p.IsBare) (hcolon : p.colon = false → p.format = .done)
    (levels : Nat) :
    p.shown (levels + 1) = .ok p.text ∨ p.shown (levels + 1) = .error .malformed := by
  obtain ⟨hsuffixes, hconversion, hno⟩ := h
  unfold shown Head.shown
  rcases Head.subject_standIn hsuffixes with ⟨-, hsubject⟩ | hsubject
  · left
    rw [hsubject, hconversion, hcolon hno]
    have htext : p.text = (standIn p.head.key).toList := by
      simp [text, Head.text, Head.name, hsuffixes, hconversion, hno, formatText, standIn]
    rw [htext]
    rfl
  · right
    rw [hsubject]
    rfl

end Placeholder

/-! ## Padded stand-ins -/

theorem eq_of_replicate_eq {l : List Char} {n : Nat} {fill c d : Char}
    (h : List.replicate n fill = l) (hc : c ∈ l) (hd : d ∈ l) : c = d := by
  subst h
  exact (List.eq_of_mem_replicate hc).trans (List.eq_of_mem_replicate hd).symm

/-- A stand-in that is cut off and filled up on the right has no room for what a field has after
its key. -/
theorem cut_standIn_ne {sep : Char} (hsep : sep ≠ '\x7d') (key rest : List Char) (n b : Nat)
    (fill : Char) :
    (key ++ ['\x7d']).take n ++ List.replicate b fill ≠ key ++ sep :: rest ++ ['\x7d'] := by
  induction key generalizing n with
  | nil =>
      intro h
      cases n with
      | zero => exact hsep (eq_of_replicate_eq h (by simp) (by simp))
      | succ n =>
          obtain ⟨hfirst, -⟩ := List.cons.inj h
          exact hsep hfirst.symm
  | cons k key ih =>
      intro h
      cases n with
      | zero => exact hsep (eq_of_replicate_eq h (by simp) (by simp))
      | succ n => exact ih n (List.cons.inj h).2

/-- A text that is made of a key's stand-in: the stand-in itself, or one in quotes. -/
def FromStandIn (key content : List Char) : Prop :=
  content = '\x7b' :: key ++ ['\x7d'] ∨ ∃ quote rest, content = quote :: '\x7b' :: rest ∧
    quote ≠ '\x7b'

/-- A text made of a stand-in does not begin with the key, however it is cut off: a brace comes
first or second in it. -/
theorem FromStandIn.take_ne {key content : List Char} (h : FromStandIn key content)
    (hne : key ≠ []) (hkey : '\x7b' ∉ key) {sep : Char} (hopen : sep ≠ '\x7b') (n : Nat)
    (rest : List Char) : content.take n ≠ key ++ sep :: rest := by
  intro heq
  obtain ⟨k, ks, rfl⟩ := List.exists_cons_of_ne_nil hne
  rw [List.mem_cons, not_or] at hkey
  cases n with
  | zero => cases heq
  | succ n =>
      rcases h with rfl | ⟨quote, inner, rfl, -⟩
      · exact hkey.1 (List.cons.inj heq).1
      · obtain ⟨-, hinner⟩ := List.cons.inj heq
        cases n with
        | zero => cases ks <;> cases hinner
        | succ n =>
            cases ks with
            | nil => exact hopen (List.cons.inj hinner).1.symm
            | cons c ks => exact hkey.2 (List.mem_cons.mpr (.inl (List.cons.inj hinner).1))

/-- However it is cut off and filled up, a text made of a stand-in is not the field. -/
theorem FromStandIn.padded_ne {key content : List Char} (h : FromStandIn key content)
    (hne : key ≠ []) (hkey : '\x7b' ∉ key) {sep : Char} (hopen : sep ≠ '\x7b')
    (hclose : sep ≠ '\x7d') (a n b : Nat) (fill : Char) (rest : List Char) :
    List.replicate a fill ++ content.take n ++ List.replicate b fill
      ≠ '\x7b' :: key ++ sep :: rest ++ ['\x7d'] := by
  intro heq
  cases a with
  | zero =>
      rw [List.replicate_zero, List.nil_append] at heq
      cases n with
      | zero =>
          have hsame : '\x7b' = '\x7d' := eq_of_replicate_eq heq (by simp) (by simp)
          exact absurd hsame (by decide)
      | succ n =>
          rcases h with rfl | ⟨quote, inner, rfl, hquote⟩
          · exact cut_standIn_ne hclose key rest n b fill (List.cons.inj heq).2
          · exact hquote (List.cons.inj heq).1
  | succ a =>
      -- an opening brace fills the text, so that nothing stands on the right, where the field
      -- has a closing one, and only one brace on the left, where the key begins
      obtain ⟨rfl, hthen⟩ := List.cons.inj heq
      cases b with
      | succ b =>
          rw [List.replicate_succ' (n := b), ← List.append_assoc] at heq
          exact absurd (List.cons.inj (List.append_inj' heq rfl).2).1 (by decide)
      | zero =>
          change List.replicate a '\x7b' ++ content.take n ++ [] = key ++ sep :: rest ++ ['\x7d']
            at hthen
          rw [List.append_nil, List.append_assoc key] at hthen
          cases a with
          | zero => exact h.take_ne hne hkey hopen n (rest ++ ['\x7d']) hthen
          | succ a =>
              obtain ⟨k, ks, rfl⟩ := List.exists_cons_of_ne_nil hne
              exact hkey (List.mem_cons.mpr (.inl (List.cons.inj hthen).1))

/-! ## Laid-out stand-ins -/

/-- A text in a field is cut off and filled up on both sides. -/
theorem layText_eq_ok {spec : Spec} {content cs : List Char}
    (h : spec.layText content = .ok cs) :
    ∃ a n b, cs = List.replicate a spec.fill ++ content.take n ++ List.replicate b spec.fill := by
  unfold Spec.layText at h
  split at h
  · cases h
  · cases hwidth : spec.checkWidth with
    | error obstacle =>
        rw [hwidth] at h
        cases h
    | ok _ =>
        rw [hwidth] at h
        cases h
        cases spec.precision with
        | none => exact ⟨_, content.length, _, by rw [List.take_length]; rfl⟩
        | some precision => exact ⟨_, precision, _, rfl⟩

theorem layValue_text_eq_ok {s : String} {format cs : List Char}
    (h : layValue (.text s) format = .ok cs) :
    ∃ a n b fill, cs = List.replicate a fill ++ s.toList.take n ++ List.replicate b fill := by
  unfold layValue at h
  split at h
  · cases h
    exact ⟨0, s.toList.length, 0, ' ', by simp [Value.plainText]⟩
  · simp only at h
    split at h
    · cases h
    · obtain ⟨a, n, b, hcs⟩ := layText_eq_ok h
      exact ⟨a, n, b, _, hcs⟩

theorem quoteFor_cases (cs : List Char) :
    Text.quoteFor cs = Text.singleQuote ∨ Text.quoteFor cs = Text.doubleQuote := by
  unfold Text.quoteFor
  split
  · exact .inr rfl
  · exact .inl rfl

/-- The brace of a stand-in needs no escape in quotes, nor do the quotes themselves. -/
theorem fromStandIn_quoted (key : List Char) :
    FromStandIn key (Text.quoted (standIn key)).toList ∧
      FromStandIn key (Text.asciiOnly (Text.quoted (standIn key))).toList := by
  unfold Text.asciiOnly Text.quoted standIn
  simp only [String.toList_ofList]
  have hcases := quoteFor_cases ('\x7b' :: key ++ ['\x7d'])
  generalize Text.quoteFor ('\x7b' :: key ++ ['\x7d']) = quote at hcases ⊢
  have hbrace : Text.quoteChar quote '\x7b' = ['\x7b'] := by
    rcases hcases with rfl | rfl <;> decide +kernel
  have hquote : quote ≠ '\x7b' := by rcases hcases with rfl | rfl <;> decide
  have hascii : quote.toNat < 0x80 := by rcases hcases with rfl | rfl <;> decide
  have hquoted : quote :: ('\x7b' :: key ++ ['\x7d']).flatMap (Text.quoteChar quote) ++ [quote]
      = quote :: '\x7b' :: ((key ++ ['\x7d']).flatMap (Text.quoteChar quote) ++ [quote]) := by
    simp only [List.cons_append, List.flatMap_cons, hbrace, List.nil_append]
  rw [hquoted, List.flatMap_cons, List.flatMap_cons, if_pos hascii]
  exact ⟨.inr ⟨quote, _, rfl, hquote⟩, .inr ⟨quote, _, rfl, hquote⟩⟩

/-- A conversion makes a text of the stand-in, or leaves the text that it is. -/
theorem convert_standIn {key : List Char} {conversion : Option Char} {subject : Subject}
    (h : convert (.text (standIn key)) conversion = .ok subject) :
    ∃ s, subject = .text s ∧ FromStandIn key s.toList := by
  have hplain : FromStandIn key (standIn key).toList := .inl (by simp [standIn])
  cases conversion with
  | none =>
      cases h
      exact ⟨_, rfl, hplain⟩
  | some c =>
      simp only [convert] at h
      split_ifs at h
      · cases h
        exact ⟨_, rfl, hplain⟩
      · cases h
        exact ⟨_, rfl, (fromStandIn_quoted key).1⟩
      · cases h
        exact ⟨_, rfl, (fromStandIn_quoted key).2⟩
      · cases h
        exact ⟨_, rfl, hplain⟩

namespace Placeholder

variable {p : Placeholder}

/-- What a field that is not bare has after its key. -/
theorem exists_text_eq (hsuffixes : p.head.suffixes = []) (hbare : ¬p.IsBare) :
    ∃ sep rest, p.text = '\x7b' :: p.head.key ++ sep :: rest ++ ['\x7d'] ∧
      (sep = '!' ∨ sep = ':') := by
  unfold text Head.text Head.name
  rw [hsuffixes]
  cases hconversion : p.head.conversion with
  | some c => exact ⟨'!', c :: formatText p.colon p.format.text, by simp, .inl rfl⟩
  | none =>
      cases hcolon : p.colon with
      | true => exact ⟨':', p.format.text, by simp [formatText], .inr rfl⟩
      | false => exact absurd ⟨hsuffixes, hconversion, hcolon⟩ hbare

/-- Without suffixes only a bare placeholder comes to itself. -/
theorem isBare_of_shown (hsuffixes : p.head.suffixes = []) {levels : Nat}
    (h : p.shown levels = .ok p.text) : p.IsBare := by
  by_contra hbare
  obtain ⟨sep, rest, htext, hsep⟩ := exists_text_eq hsuffixes hbare
  obtain ⟨subject, converted, format, hsubject, hconvert, -, hlay⟩ := Head.shown_eq_ok h
  rcases Head.subject_standIn hsuffixes with ⟨hkey, hstandIn⟩ | hmalformed
  · obtain rfl := Except.ok.inj (hsubject.symm.trans hstandIn)
    obtain ⟨s, rfl, hs⟩ := convert_standIn hconvert
    obtain ⟨a, n, b, fill, hcs⟩ := layValue_text_eq_ok hlay
    have hbrace : '\x7b' ∉ p.head.key := fun hmem =>
      (isNamePart_iff.mp (p.head.key_plain _ hmem)).1 rfl
    have hopen : sep ≠ '\x7b' := by rcases hsep with rfl | rfl <;> decide
    have hclose : sep ≠ '\x7d' := by rcases hsep with rfl | rfl <;> decide
    exact hs.padded_ne hkey hbrace hopen hclose a n b fill rest (hcs.symm.trans htext)
  · rw [hmalformed] at hsubject
    cases hsubject

end Placeholder

/-! ## Texts -/

namespace Tree

variable {t : Tree}

/-- The fields of a template, those in its formats left out. -/
def fields : Tree → List Placeholder
  | done => []
  | literal _ rest => rest.fields
  | field head colon format rest => ⟨head, colon, format⟩ :: rest.fields

/-- No literal character of the template, those in its formats left out, is a brace. -/
def Plain : Tree → Prop
  | done => True
  | literal c rest => isBrace c = false ∧ rest.Plain
  | field _ _ _ rest => rest.Plain

theorem text_literal {c : Char} (hc : isBrace c = false) (rest : Tree) :
    (literal c rest).text = c :: rest.text := by
  rw [text, hc]
  rfl

theorem text_field (head : Head) (colon : Bool) (format rest : Tree) :
    (field head colon format rest).text
      = (Placeholder.mk head colon format).text ++ rest.text := by
  simp [text, Placeholder.text]

/-- A template whose fields are all bare comes to its text, unless a key is a number. -/
theorem shown_of_bare (ht : t.Sound) (hplain : t.Plain) (hbare : ∀ p ∈ t.fields, p.IsBare)
    (levels : Nat) :
    t.shown [] (levels + 2) = .ok t.text ∨ t.shown [] (levels + 2) = .error .malformed := by
  induction t with
  | done => exact .inl rfl
  | literal c rest ih =>
      obtain ⟨hc, hrest⟩ := hplain
      rw [shown_literal, text_literal hc]
      rcases ih ht hrest hbare with hshown | hshown <;> rw [hshown]
      · exact .inl rfl
      · exact .inr rfl
  | field head colon format rest _ ih =>
      obtain ⟨hcolon, -, -, hrest⟩ := ht
      obtain ⟨hfirst, hothers⟩ := List.forall_mem_cons.mp hbare
      have hfield := Placeholder.shown_of_isBare hfirst hcolon levels
      rw [shown_field, text_field]
      unfold Placeholder.shown at hfield
      rcases hfield with hshown | hshown
      · rw [hshown]
        rcases ih hrest hplain hothers with hrestshown | hrestshown <;> rw [hrestshown]
        · exact .inl rfl
        · exact .inr rfl
      · rw [hshown]
        exact .inr rfl

theorem shown_of_no_fields (hplain : t.Plain) (h : t.fields = []) (levels : Nat) :
    t.shown [] (levels + 1) = .ok t.text := by
  induction t with
  | done => rfl
  | literal c rest ih =>
      obtain ⟨hc, hrest⟩ := hplain
      rw [shown_literal, text_literal hc, ih hrest h]
      rfl
  | field head colon format rest _ _ => cases h

/-- A template with one field comes to what the field comes to, between its literals. -/
theorem shown_of_one_field {p : Placeholder} (hplain : t.Plain) (h : t.fields = [p])
    (levels : Nat) :
    ∃ before after, t.text = before ++ p.text ++ after ∧
      t.shown [] (levels + 1) = do return before ++ (← p.shown levels) ++ after := by
  induction t with
  | done => cases h
  | literal c rest ih =>
      obtain ⟨hc, hrest⟩ := hplain
      obtain ⟨before, after, htext, hshown⟩ := ih hrest h
      refine ⟨c :: before, after, by rw [text_literal hc, htext]; rfl, ?_⟩
      rw [shown_literal, hshown]
      cases p.shown levels <;> rfl
  | field head colon format rest _ _ =>
      obtain ⟨rfl, hrest⟩ := List.cons.inj h
      refine ⟨[], rest.text, text_field head colon format rest, ?_⟩
      rw [shown_field, shown_of_no_fields (t := rest) hplain hrest]
      rfl

/-- A text stays as it is if and only if its template comes to it or is malformed. -/
theorem render_eq_text_iff (data : Entries) (ht : t.Sound) :
    render (String.ofList t.text) data = .ok (String.ofList t.text) ↔
      t.shown data levelLimit = .ok t.text ∨ t.shown data levelLimit = .error .malformed := by
  rw [render_text data ht]
  cases t.shown data levelLimit with
  | ok cs => simp [String.ofList_inj]
  | error obstacle => cases obstacle <;> simp

/-- Rendering a template whose keys the data lack does not depend on the data.  Bare placeholders
are left as they are.  A single field without attributes and indices is left as it is only if it
is bare or malformed. -/
theorem render_unknown (ht : t.Sound) (hplain : t.Plain)
    (hunknown : ∀ key ∈ t.keys, data.lookup key = none) :
    render (String.ofList t.text) data = render (String.ofList t.text) [] ∧
      (render (String.ofList t.text) data = .ok (String.ofList t.text) ↔
        t.shown [] levelLimit = .ok t.text ∨ t.shown [] levelLimit = .error .malformed) ∧
      ((∀ p ∈ t.fields, p.IsBare) →
        render (String.ofList t.text) data = .ok (String.ofList t.text)) ∧
      (∀ p, t.fields = [p] → p.head.suffixes = [] →
        (render (String.ofList t.text) data = .ok (String.ofList t.text) ↔
          p.IsBare ∨ t.shown [] levelLimit = .error .malformed)) := by
  have hshown := shown_of_unknown hunknown levelLimit
  have hkept := render_eq_text_iff data ht
  rw [hshown] at hkept
  refine ⟨by rw [render_text data ht, render_text [] ht, hshown], hkept, ?_, ?_⟩
  · exact fun hbare => hkept.mpr (shown_of_bare ht hplain hbare 1)
  · intro p hp hsuffixes
    rw [hkept]
    constructor
    · rintro (hown | hmalformed)
      · left
        obtain ⟨before, after, htext, hone⟩ := shown_of_one_field hplain hp 2
        rw [levelLimit, hone, htext] at hown
        cases hfield : p.shown 2 with
        | error obstacle =>
            rw [hfield] at hown
            cases hown
        | ok cs =>
            rw [hfield] at hown
            have hsame : before ++ cs ++ after = before ++ p.text ++ after := Except.ok.inj hown
            have hcs : cs = p.text :=
              List.append_cancel_left (List.append_cancel_right hsame)
            exact Placeholder.isBare_of_shown hsuffixes (hcs ▸ hfield)
      · exact .inr hmalformed
    · rintro (hbare | hmalformed)
      · exact shown_of_bare ht hplain (by rw [hp]; simpa using hbare) 1
      · exact .inr hmalformed

/-- A reminder of the days that are left. -/
def daysLeft : Tree :=
  .literal 'E' (.literal 'm' (.literal ' '
    (.field ⟨['d', 'i', 'a', 's'], [], none, List.all_eq_true.mp rfl, by simp⟩ false .done
      (.literal '!' .done))))

/-- The days are unknown where only the court is told. -/
theorem render_unknown_days :
    daysLeft.Sound ∧ daysLeft.Plain ∧
      (∀ key ∈ daysLeft.keys, [("tribunal", Value.text "TRF1")].lookup key = none) ∧
      String.ofList daysLeft.text = "Em \x7bdias\x7d!" ∧
      render "Em \x7bdias\x7d!" [("tribunal", .text "TRF1")] = .ok "Em \x7bdias\x7d!" := by
  have hsound : daysLeft.Sound := ⟨fun _ => rfl, rfl, trivial, trivial⟩
  have hplain : daysLeft.Plain := ⟨rfl, rfl, rfl, rfl, trivial⟩
  have hunknown : ∀ key ∈ daysLeft.keys, [("tribunal", Value.text "TRF1")].lookup key = none := by
    decide +kernel
  have hbare : ∀ p ∈ daysLeft.fields, p.IsBare := by
    intro p hp
    obtain rfl := List.mem_singleton.mp hp
    exact ⟨rfl, rfl, rfl⟩
  have htext : String.ofList daysLeft.text = "Em \x7bdias\x7d!" := by decide +kernel
  refine ⟨hsound, hplain, hunknown, htext, ?_⟩
  rw [← htext]
  exact (render_unknown hsound hplain hunknown).2.2.1 hbare

/-- An hour that is to stand to the right. -/
def paddedHour : Tree :=
  .field ⟨['h', 'o', 'r', 'a'], [], none, List.all_eq_true.mp rfl, by simp⟩ true
    (.literal '>' (.literal '8' .done)) .done

/-- The format of an unknown hour is carried out on its stand-in, and lost with it. -/
theorem unknown_hour_padded :
    paddedHour.Sound ∧ paddedHour.Plain ∧
      (∀ key ∈ paddedHour.keys, ([] : Entries).lookup key = none) ∧
      String.ofList paddedHour.text = "\x7bhora:>8\x7d" ∧
      render "\x7bhora:>8\x7d" [] = .ok "  \x7bhora\x7d" :=
  ⟨⟨nofun, rfl, trivial, trivial⟩, trivial, fun _ _ => rfl, by decide +kernel, by decide +kernel⟩

end Tree

end CaseWorkflow.Template
