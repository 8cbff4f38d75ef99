import CaseWorkflow.Proofs.Queue.Ledger

/-!
# What a queue shows of one message

Of all that stands in the places of a queue one message sees its own texts only.  What is
done for another message leaves them as they are.
-/

namespace CaseWorkflow

/-- The texts of one message in the places. -/
structure View where
  waiting : List String
  processing : List String
  dead : List String

namespace Board

/-- What a message sees of the places. -/
def view (p : Message) (places : Board) : View where
  waiting := places.waiting.filter p.owns
  processing := places.processing.filter p.owns
  dead := places.dead.filter p.owns

end Board

namespace View

/-- The same texts, in any order. -/
structure Alike (v w : View) : Prop where
  waiting : w.waiting.Perm v.waiting
  processing : w.processing.Perm v.processing
  dead : w.dead.Perm v.dead

@[refl] theorem Alike.refl (v : View) : v.Alike v := ⟨.refl _, .refl _, .refl _⟩

/-- All texts of the message. -/
def texts (v : View) : List String := v.waiting ++ v.processing ++ v.dead

theorem Alike.length_eq {v w : View} (h : v.Alike w) : w.texts.length = v.texts.length := by
  simp only [texts, List.length_append, h.waiting.length_eq, h.processing.length_eq,
    h.dead.length_eq]

end View

namespace Board

variable {places : Board} {p : Message} {text : String}

/-- How many texts stand for a message. -/
def copies (p : Message) (places : Board) : ℕ := places.texts.countP p.owns

theorem copies_eq_length (p : Message) (places : Board) :
    places.copies p = (places.view p).texts.length := by
  rw [copies, List.countP_eq_length_filter]
  simp only [view, View.texts, texts, List.filter_append]

theorem copies_eq (p : Message) (places : Board) :
    places.copies p = places.waiting.countP p.owns + places.processing.countP p.owns
      + places.dead.countP p.owns := by
  rw [copies, texts, List.countP_append, List.countP_append]

theorem copies_of_alike {places' : Board} (h : (places.view p).Alike (places'.view p)) :
    places'.copies p = places.copies p := by
  rw [copies_eq_length, copies_eq_length, h.length_eq]

theorem alike_claimed_of_no_next {now : Double} (h : places.next? now = none) :
    (places.view p).Alike ((places.claimed now).view p) := by
  obtain ⟨hwaiting, hprocessing, hdead⟩ := claimed_of_no_next h
  constructor
  · exact hwaiting.filter _
  · rw [view, view, hprocessing]
  · rw [view, view, hdead]

/-- A claim leaves the other messages as they are. -/
theorem alike_claimed {now : Double} (h : places.next? now = some text)
    (hother : p.owns text = false) : (places.view p).Alike ((places.claimed now).view p) := by
  obtain ⟨hwaiting, hprocessing, hdead⟩ := claimed_of_next h
  have hfilter := hwaiting.filter p.owns
  rw [List.filter_cons_of_neg (Bool.eq_false_iff.mp hother)] at hfilter
  constructor
  · exact hfilter.symm
  · rw [view, view, hprocessing, List.filter_cons_of_neg (Bool.eq_false_iff.mp hother)]
  · rw [view, view, hdead]

/-- The only text of a message that waits is the one that is claimed for it. -/
theorem view_claimed {now : Double} (h : places.next? now = some text) (howns : p.owns text = true)
    {other : String} (hview : places.view p = ⟨[other], [], []⟩) :
    other = text ∧ (places.claimed now).view p = ⟨[], [text], []⟩ := by
  obtain ⟨hwaiting, hprocessing, hdead⟩ := claimed_of_next h
  simp only [view, View.mk.injEq] at hview
  have hfilter := hwaiting.filter p.owns
  rw [hview.1, List.filter_cons_of_pos howns] at hfilter
  obtain ⟨hsame, hrest⟩ := List.cons.inj (List.singleton_perm.mp hfilter)
  refine ⟨hsame, ?_⟩
  simp only [view, hprocessing, hdead, hview.2.1, hview.2.2, hrest, List.filter_cons_of_pos howns]

/-- A message that sees a text next has one that waits. -/
theorem view_waiting_ne_nil {now : Double} (h : places.next? now = some text)
    (howns : p.owns text = true) : (places.view p).waiting ≠ [] := by
  obtain ⟨hwaiting, -, -⟩ := claimed_of_next h
  have hmem : text ∈ places.waiting := hwaiting.mem_iff.mpr List.mem_cons_self
  exact List.ne_nil_of_mem (List.mem_filter.mpr ⟨hmem, howns⟩)

end Board

namespace Queue

variable {q : Queue} {b t : Broker} {published : List Message} {bound : ℕ}

namespace Ledger

variable {p p' : Message} {k : ℕ} {text : String} {text? : Option String}

/-- What is dropped for one message is no text of another one. -/
theorem view_dropped_other (h : q.Ledger published bound b) (hp : p ∈ published)
    (hp' : p' ∈ published) (hne : p' ≠ p) (hfound : Found (q.board b).processing p text?) :
    ((q.board b).view p').Alike (((q.board b).dropped text?).view p') := by
  cases text? with
  | none => exact .refl _
  | some found =>
      have hperm := (List.perm_cons_erase hfound.1).filter p'.owns
      rw [List.filter_cons_of_neg (h.not_owns_found hp hp' hne hfound)] at hperm
      exact ⟨.refl _, hperm.symm, .refl _⟩

/-- A message that is published waits, and the others see what they saw before. -/
theorem view_joined (h : q.Ledger published bound b) (hlater : q.Ledger (p :: published) bound t)
    (hfresh : ∀ p' ∈ published, p'.id ≠ p.id) (hjoined : Joined p.encode (q.board b) (q.board t)) :
    (q.board t).view p = ⟨[p.encode], [], []⟩ ∧
      ∀ p' ∈ published, ((q.board b).view p').Alike ((q.board t).view p') := by
  have hp : p ∈ p :: published := List.mem_cons_self
  have hfirst : p.Entry 1 none p.encode := .first
  have howns := hfirst.owns (hlater.issued p hp)
  have hnone : ∀ text ∈ (q.board b).texts, ¬p.owns text = true := by
    intro text htext howns
    obtain ⟨owner, howner, k, -, reason, hentry⟩ := h.entry_of_mem htext
    obtain rfl := (hlater.owns_iff (List.mem_cons_of_mem p howner) hp hentry).mp howns
    exact hfresh p howner rfl
  constructor
  · have hwaiting := hjoined.waiting.filter p.owns
    rw [List.filter_cons_of_pos howns, List.filter_eq_nil_iff.mpr fun text htext =>
      hnone text (Board.mem_texts.mpr (.inl htext))] at hwaiting
    rw [Board.view, List.perm_singleton.mp hwaiting, hjoined.processing, hjoined.dead,
      List.filter_eq_nil_iff.mpr fun text htext =>
        hnone text (Board.mem_texts.mpr (.inr (.inl htext))),
      List.filter_eq_nil_iff.mpr fun text htext =>
        hnone text (Board.mem_texts.mpr (.inr (.inr htext)))]
  · intro p' hp'
    have hnot : ¬p'.owns p.encode = true := by
      intro howns
      obtain rfl := (hlater.owns_iff hp (List.mem_cons_of_mem p hp') hfirst).mp howns
      exact hfresh p' hp' rfl
    have hwaiting := hjoined.waiting.filter p'.owns
    rw [List.filter_cons_of_neg hnot] at hwaiting
    constructor
    · exact hwaiting
    · rw [Board.view, Board.view, hjoined.processing]
    · rw [Board.view, Board.view, hjoined.dead]

/-- A claimed message is found by its only text. -/
theorem view_dropped_same {places : Board} (hfound : Found places.processing p text?)
    (hview : places.view p = ⟨[], [text], []⟩) :
    text? = some text ∧ (places.dropped text?).view p = ⟨[], [], []⟩ := by
  simp only [Board.view, View.mk.injEq] at hview
  obtain ⟨hwaiting, hprocessing, hdead⟩ := hview
  cases text? with
  | none =>
      have hmem : text ∈ places.processing.filter p.owns := hprocessing ▸ List.mem_cons_self
      obtain ⟨hmem, howns⟩ := List.mem_filter.mp hmem
      exact absurd howns (Bool.eq_false_iff.mp (hfound text hmem))
  | some found =>
      obtain ⟨hmem, howns⟩ := hfound
      have hperm := (List.perm_cons_erase hmem).filter p.owns
      rw [hprocessing, List.filter_cons_of_pos howns] at hperm
      obtain ⟨rfl, hrest⟩ := List.cons.inj (List.singleton_perm.mp hperm)
      refine ⟨rfl, ?_⟩
      change View.mk (places.waiting.filter p.owns) ((places.processing.erase text).filter p.owns)
        (places.dead.filter p.owns) = _
      rw [hwaiting, hdead, hrest]

end Ledger

end Queue

end CaseWorkflow
