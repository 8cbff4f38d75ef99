import CaseWorkflow.Proofs.Template.Tree
import CaseWorkflow.Template.Render

/-!
# What templates mean

The meaning of a template is told along its tree: the attributes and indices of a field are taken
one after the other of what its key leads to, and what they lead to is converted and laid out.
Rendering the text of a template comes to its meaning.
-/

namespace CaseWorkflow.Template

/-! ## Meanings -/

/-- What an attribute or an index of a subject leads to. -/
def Suffix.take (subject : Subject) : Suffix → Except Obstacle Subject
  | .member name => subject.member (String.ofList name)
  | .index name =>
    match position name with
    | .error _ => .error .malformed
    | .ok none => subject.atKey (String.ofList name)
    | .ok (some i) => subject.atPosition i

namespace Head

/-- What the name of a field leads to: its key to the value in the data or to its stand-in.  No
name, and a number in the place of the key, lead nowhere. -/
def subject (head : Head) (data : Entries) : Except Obstacle Subject := do
  let index ← position head.key
  if head.name.isEmpty || index.isSome then .error .malformed
  else
    let first := (data.lookup (String.ofList head.key)).getD (.text (standIn head.key))
    head.suffixes.foldlM Suffix.take (.value first)

/-- What a field comes to, given what its format comes to. -/
def shown (head : Head) (data : Entries) (format : Laid) : Laid := do
  let subject ← head.subject data
  let subject ← convert subject head.conversion
  lay subject (← format)

/-- A field comes to a text if each step towards it succeeds. -/
theorem shown_eq_ok {head : Head} {data : Entries} {format : Laid} {cs : List Char}
    (h : head.shown data format = .ok cs) :
    ∃ subject converted laid, head.subject data = .ok subject ∧
      convert subject head.conversion = .ok converted ∧ format = .ok laid ∧
        lay converted laid = .ok cs := by
  unfold shown at h
  cases hsubject : head.subject data with
  | error obstacle =>
      rw [hsubject] at h
      cases h
  | ok subject =>
      rw [hsubject] at h
      change (convert subject head.conversion >>= fun converted => format >>= lay converted)
        = .ok cs at h
      cases hconvert : convert subject head.conversion with
      | error obstacle =>
          rw [hconvert] at h
          cases h
      | ok converted =>
          rw [hconvert] at h
          cases format with
          | error obstacle => cases h
          | ok laid => exact ⟨subject, converted, laid, rfl, hconvert, rfl, h⟩

end Head

/-- What a template comes to, with so many levels of fields left. -/
def Tree.shown (data : Entries) : Tree → Nat → Laid
  | _, 0 => .error .malformed
  | done, _ + 1 => .ok []
  | literal c rest, levels + 1 => do return c :: (← rest.shown data (levels + 1))
  | field head _ format rest, levels + 1 => do
    let laid ← head.shown data (format.shown data levels)
    return laid ++ (← rest.shown data (levels + 1))

/-! ## Following names -/

variable {cs name : List Char} {suffixes : List Suffix} {data : Entries}

/-- A key, or the name of an attribute, reaches up to the next suffix. -/
theorem takeWhile_part (h : ∀ c ∈ cs, isNamePart c = true) (suffixes : List Suffix) :
    (cs ++ suffixes.flatMap Suffix.text).takeWhile (fun c => c != '.' && c != '[') = cs := by
  have hpart : ∀ c ∈ cs, (c != '.' && c != '[') = true := by
    intro c hc
    obtain ⟨-, -, -, -, hpoint, hbracket⟩ := isNamePart_iff.mp (h c hc)
    simp [hpoint, hbracket]
  rw [List.takeWhile_append_of_pos hpart]
  cases suffixes with
  | nil => simp
  | cons s suffixes => cases s <;> simp [Suffix.text]

theorem nextStep_member (hname : name ≠ []) (h : ∀ c ∈ name, isNamePart c = true)
    (suffixes : List Suffix) :
    nextStep ('.' :: name ++ suffixes.flatMap Suffix.text)
      = .step (.member name) (suffixes.flatMap Suffix.text) := by
  rw [List.cons_append, nextStep]
  simp [takeWhile_part h, hname]

theorem nextStep_index (hname : name ≠ []) (h : ']' ∉ name) (rest : List Char) :
    nextStep ('[' :: name ++ [']'] ++ rest) =
      match position name with
      | .error _ => .flawed
      | .ok none => .step (.key name) rest
      | .ok (some i) => .step (.position i) rest := by
  have hpart : ∀ c ∈ name, (c != ']') = true := fun c hc => bne_iff_ne.mpr fun heq => h (heq ▸ hc)
  rw [List.cons_append, List.cons_append, nextStep, List.append_assoc]
  rw [List.takeWhile_append_of_pos hpart, List.dropWhile_append_of_pos hpart]
  cases hposition : position name with
  | error obstacle => simp [hname, hposition]
  | ok index => cases index <;> simp [hname, hposition]

/-- Following a name takes its suffixes one after the other. -/
theorem follow_suffixes (h : ∀ s ∈ suffixes, s.Valid) (fuel : Nat)
    (hfuel : (suffixes.flatMap Suffix.text).length < fuel) (subject : Subject) :
    follow fuel subject (suffixes.flatMap Suffix.text) = suffixes.foldlM Suffix.take subject := by
  induction suffixes generalizing fuel subject with
  | nil =>
      obtain ⟨fuel, rfl⟩ := Nat.exists_eq_succ_of_ne_zero (Nat.ne_zero_of_lt hfuel)
      rfl
  | cons s suffixes ih =>
      obtain ⟨fuel, rfl⟩ := Nat.exists_eq_succ_of_ne_zero (Nat.ne_zero_of_lt hfuel)
      obtain ⟨hs, hsuffixes⟩ := List.forall_mem_cons.mp h
      rw [List.flatMap_cons, List.length_append] at hfuel
      have hlength : 0 < s.text.length := by cases s <;> exact Nat.succ_pos _
      have hrest := ih hsuffixes fuel (by omega)
      rw [List.foldlM_cons, List.flatMap_cons, follow]
      cases s with
      | member name =>
          rw [Suffix.text, nextStep_member hs.1 hs.2]
          simp only [Step.take, hrest]
          rfl
      | index name =>
          rw [Suffix.text, nextStep_index hs.1 hs.2, Suffix.take]
          cases position name with
          | error obstacle => rfl
          | ok index => cases index <;> simp only [Step.take, hrest]

/-- The name of a field leads to the field's subject. -/
theorem Head.resolve_name (head : Head) (data : Entries) :
    resolve data head.name = head.subject data := by
  have hfirst : head.name.takeWhile (fun c => c != '.' && c != '[') = head.key :=
    takeWhile_part head.key_plain head.suffixes
  have hrest : head.name.drop head.key.length = head.suffixes.flatMap Suffix.text :=
    List.drop_left
  have hfuel : (head.suffixes.flatMap Suffix.text).length < head.name.length + 1 := by
    rw [name, List.length_append]
    omega
  unfold resolve subject
  simp only [hfirst, hrest, follow_suffixes head.suffixes_valid _ hfuel]

/-! ## Rendering -/

/-- What a piece comes to, with so many levels left for fields in its format. -/
def Piece.rendered (data : Entries) (levels : Nat) (piece : Piece) : Laid := do
  match piece.field with
  | none => return piece.literal
  | some field =>
    let subject ← resolve data field.name
    let subject ← convert subject field.conversion
    let format ← renderChars data levels field.format
    return piece.literal ++ (← lay subject format)

/-- What pieces come to in order. -/
def renderPieces (data : Entries) (levels : Nat) (pieces : List Piece) : Laid := do
  return (← pieces.mapM (Piece.rendered data levels)).flatten

theorem renderPieces_cons (data : Entries) (levels : Nat) (piece : Piece) (pieces : List Piece) :
    renderPieces data levels (piece :: pieces) = do
      let cs ← piece.rendered data levels
      return cs ++ (← renderPieces data levels pieces) := by
  unfold renderPieces
  rw [List.mapM_cons]
  cases piece.rendered data levels with
  | error obstacle => rfl
  | ok cs => cases pieces.mapM (Piece.rendered data levels) <;> rfl

theorem renderChars_succ (data : Entries) (levels : Nat) {cs : List Char} {pieces : List Piece}
    (h : Markup.of cs = ⟨pieces, true⟩) :
    renderChars data (levels + 1) cs = renderPieces data levels pieces := by
  rw [renderChars, h]
  rfl

theorem Piece.rendered_field (data : Entries) (levels : Nat) (head : Head)
    (lit format : List Char) :
    (Piece.mk lit (some ⟨head.name, head.conversion, format⟩)).rendered data levels = do
      return lit ++ (← head.shown data (renderChars data levels format)) := by
  unfold Piece.rendered Head.shown
  simp only [head.resolve_name, bind_assoc]

namespace Tree

theorem shown_literal (c : Char) (rest : Tree) (levels : Nat) :
    (literal c rest).shown data (levels + 1) = do return c :: (← rest.shown data (levels + 1)) :=
  rfl

theorem shown_field (head : Head) (colon : Bool) (format rest : Tree) (levels : Nat) :
    (field head colon format rest).shown data (levels + 1) = do
      let laid ← head.shown data (format.shown data levels)
      return laid ++ (← rest.shown data (levels + 1)) :=
  rfl

/-- Literal text before a template stands before what the template comes to. -/
theorem renderPieces_pieces {t : Tree} (ht : t.Sound) (levels : Nat)
    (hformat : ∀ format : Tree, format.Sound →
      renderChars data levels format.text = format.shown data levels) (lit : List Char) :
    renderPieces data levels (t.pieces lit) = do return lit ++ (← t.shown data (levels + 1)) := by
  induction t generalizing lit with
  | done => cases lit <;> rfl
  | literal c rest ih =>
      rw [pieces, shown_literal]
      cases isBrace c with
      | true =>
          rw [if_pos rfl, renderPieces_cons, ih ht]
          cases rest.shown data (levels + 1) with
          | error obstacle => rfl
          | ok cs => exact congrArg Except.ok (List.append_assoc lit [c] cs)
      | false =>
          rw [if_neg Bool.false_ne_true, ih ht]
          cases rest.shown data (levels + 1) with
          | error obstacle => rfl
          | ok cs => exact congrArg Except.ok (List.append_assoc lit [c] cs)
  | field head colon format rest _ ih =>
      obtain ⟨-, -, hformatsound, hrest⟩ := ht
      rw [pieces, renderPieces_cons, Piece.rendered_field, hformat format hformatsound, ih hrest,
        shown_field]
      cases head.shown data (format.shown data levels) with
      | error obstacle => rfl
      | ok laid =>
          cases rest.shown data (levels + 1) with
          | error obstacle => rfl
          | ok cs => exact congrArg Except.ok (List.append_assoc lit laid cs)

/-- Rendering the text of a template comes to the template's meaning, whatever the data. -/
theorem renderChars_text (data : Entries) (levels : Nat) {t : Tree} (ht : t.Sound) :
    renderChars data levels t.text = t.shown data levels := by
  induction levels generalizing t with
  | zero => cases t <;> rfl
  | succ levels ih =>
      rw [renderChars_succ data levels (Markup.of_text ht),
        renderPieces_pieces ht levels (fun format hformat => ih hformat)]
      cases t.shown data (levels + 1) <;> rfl

/-- Rendering a text ends with what its template comes to; where that is malformed the text is
left as it is. -/
theorem render_text (data : Entries) {t : Tree} (ht : t.Sound) :
    render (String.ofList t.text) data =
      match t.shown data levelLimit with
      | .ok cs => .ok (String.ofList cs)
      | .error .malformed => .ok (String.ofList t.text)
      | .error obstacle => .error obstacle := by
  cases hshown : t.shown data levelLimit with
  | ok cs => simp [render, renderChars_text data levelLimit ht, hshown]
  | error obstacle =>
      cases obstacle <;> simp [render, renderChars_text data levelLimit ht, hshown]

end Tree

end CaseWorkflow.Template
