import CaseWorkflow.Proofs.Queue.Operations

/-!
# The ledger of a queue

Each text in the places of a queue belongs to one published message.  The operations keep
it so: what they put there is the text of a message, for one of its attempts.
-/

namespace CaseWorkflow

namespace Message

theorem Issued.whole_id {p : Message} {issued : ℕ} (h : p.Issued issued) :
    Text.Whole p.id.plainText := by
  obtain ⟨-, number, event, now, -, rfl⟩ := h
  exact (ascii_idText number).not_isHalf

theorem Entry.whole {p : Message} {k : ℕ} {reason : Option String} {text : String}
    (h : p.Entry k reason text) : Text.Whole text := by
  cases h with
  | first => exact p.whole_encode
  | again _ _ _ => exact Message.whole_encode _

end Message

namespace Queue

variable {q : Queue} {b t : Broker} {published : List Message} {bound : ℕ}

/-- The places hold texts of published messages only, for attempts up to a bound; those
that were given up, and no others, bear a reason. -/
structure Ledger (q : Queue) (published : List Message) (bound : ℕ) (b : Broker) : Prop where
  tidy : q.Tidy b
  named : published ≠ [] → Text.Whole q.name
  issued : ∀ p ∈ published, p.Issued b.issued
  distinct : (published.map Message.id).Nodup
  waiting : ∀ text ∈ (q.board b).waiting, ∃ p ∈ published, ∃ k ≤ bound, p.Entry k none text
  processing : ∀ text ∈ (q.board b).processing, ∃ p ∈ published, ∃ k ≤ bound, p.Entry k none text
  dead : ∀ text ∈ (q.board b).dead,
    ∃ p ∈ published, ∃ k ≤ bound, ∃ reason, p.Entry k (some reason) text

theorem ledger_empty (q : Queue) : q.Ledger [] 1 Broker.empty := by
  constructor
  · exact q.tidy_empty
  · exact fun h => absurd rfl h
  · simp
  · exact List.nodup_nil
  · simp [board, Board.waiting, Broker.list, Broker.schedule, Broker.empty]
  · simp [board, Broker.list, Broker.empty]
  · simp [board, Broker.list, Broker.empty]

namespace Ledger

variable {p p' c m : Message} {k : ℕ} {text : String} {places : Board}

theorem eq_of_id (h : q.Ledger published bound b) (hp : p ∈ published) (hp' : p' ∈ published)
    (hid : p.id = p'.id) : p = p' :=
  List.inj_on_of_nodup_map h.distinct hp hp' hid

/-- A text of a published message stands for no other one. -/
theorem owns_iff (h : q.Ledger published bound b) (hp : p ∈ published) (hp' : p' ∈ published)
    {reason : Option String} (hentry : p.Entry k reason text) : p'.owns text = true ↔ p' = p := by
  constructor
  · intro howns
    exact (h.eq_of_id hp hp'
      (hentry.id_eq_of_owns (h.issued p hp) (h.issued p' hp') howns)).symm
  · rintro rfl
    exact hentry.owns (h.issued p' hp')

theorem entry_of_mem (h : q.Ledger published bound b) (htext : text ∈ (q.board b).texts) :
    ∃ p ∈ published, ∃ k ≤ bound, ∃ reason, p.Entry k reason text := by
  rcases Board.mem_texts.mp htext with hmem | hmem | hmem
  · obtain ⟨p, hp, k, hk, hentry⟩ := h.waiting text hmem
    exact ⟨p, hp, k, hk, none, hentry⟩
  · obtain ⟨p, hp, k, hk, hentry⟩ := h.processing text hmem
    exact ⟨p, hp, k, hk, none, hentry⟩
  · obtain ⟨p, hp, k, hk, reason, hentry⟩ := h.dead text hmem
    exact ⟨p, hp, k, hk, some reason, hentry⟩

theorem mono (h : q.Ledger published bound b) {later : ℕ} (hle : bound ≤ later) :
    q.Ledger published later b := by
  constructor
  · exact h.tidy
  · exact h.named
  · exact h.issued
  · exact h.distinct
  · intro text htext
    obtain ⟨p, hp, k, hk, hentry⟩ := h.waiting text htext
    exact ⟨p, hp, k, hk.trans hle, hentry⟩
  · intro text htext
    obtain ⟨p, hp, k, hk, hentry⟩ := h.processing text htext
    exact ⟨p, hp, k, hk.trans hle, hentry⟩
  · intro text htext
    obtain ⟨p, hp, k, hk, hentry⟩ := h.dead text htext
    exact ⟨p, hp, k, hk.trans hle, hentry⟩

/-- The ledger holds of a store with other places, if it does of what stands there. -/
theorem becomes (h : q.Ledger published bound b) (hbecomes : q.Becomes b t places)
    (hwaiting : ∀ text ∈ places.waiting, ∃ p ∈ published, ∃ k ≤ bound, p.Entry k none text)
    (hprocessing : ∀ text ∈ places.processing,
      ∃ p ∈ published, ∃ k ≤ bound, p.Entry k none text)
    (hdead : ∀ text ∈ places.dead,
      ∃ p ∈ published, ∃ k ≤ bound, ∃ reason, p.Entry k (some reason) text) :
    q.Ledger published bound t := by
  obtain ⟨htidy, rfl, hissued⟩ := hbecomes
  refine ⟨htidy, h.named, fun p hp => ?_, h.distinct, hwaiting, hprocessing, hdead⟩
  exact hissued ▸ h.issued p hp

theorem untouched (h : q.Ledger published bound b) (huntouched : q.Untouched b t) :
    q.Ledger published bound t :=
  h.becomes huntouched h.waiting h.processing h.dead

/-! ## What is found for a copy -/

/-- What is found of a message among texts: one that stands for it, or none because there is
none. -/
def Found (texts : List String) (p : Message) (text? : Option String) : Prop :=
  match text? with
  | some text => text ∈ texts ∧ p.owns text = true
  | none => ∀ text ∈ texts, p.owns text = false

/-- What is found for one message is no text of another one. -/
theorem not_owns_found (h : q.Ledger published bound b) (hp : p ∈ published)
    (hp' : p' ∈ published) (hne : p' ≠ p)
    (hfound : Found (q.board b).processing p (some text)) : ¬p'.owns text = true := by
  obtain ⟨owner, howner, k, -, hentry⟩ := h.processing text hfound.1
  obtain rfl := (h.owns_iff howner hp hentry).mp hfound.2
  exact (h.owns_iff howner hp' hentry).not.mpr hne

theorem found_of_findText (h : q.Ledger published bound b) (hp : p ∈ published)
    {texts : List String}
    (htexts : ∀ text ∈ texts, ∃ p ∈ published, ∃ k ≤ bound, p.Entry k none text)
    {text? : Option String} (hfind : findText p.id texts = .ok text?) : Found texts p text? := by
  induction texts with
  | nil =>
      obtain rfl : none = text? := Except.ok.inj hfind
      exact fun text htext => by simp at htext
  | cons text rest ih =>
      obtain ⟨p', hp', k, -, hentry⟩ := htexts text (by simp)
      rw [findText] at hfind
      cases hread : Message.decode text with
      | error fault => rw [hread] at hfind; cases hfind
      | ok m =>
          have hid := hentry.id_eq (h.issued p' hp') hread
          rw [hread, Json.ok_bind, hid] at hfind
          split at hfind
          next hsame =>
            obtain rfl : some text = text? := Except.ok.inj hfind
            have heq := ((h.issued p hp).same_id_iff (h.issued p' hp')).mp hsame
            obtain rfl := h.eq_of_id hp' hp heq
            exact ⟨by simp, hentry.owns (h.issued p' hp')⟩
          next hother =>
            have hrest := ih (fun other hmem => htexts other (by simp [hmem])) hfind
            have hnot : p.owns text = false := by
              rw [Bool.eq_false_iff]
              intro howns
              obtain rfl := (h.owns_iff hp' hp hentry).mp howns
              exact hother (((h.issued p hp).same_id_iff (h.issued p hp)).mpr rfl)
            cases text? with
            | none =>
                intro other hmem
                rcases List.mem_cons.mp hmem with rfl | hmem
                · exact hnot
                · exact hrest other hmem
            | some found => exact ⟨List.mem_cons_of_mem text hrest.1, hrest.2⟩

theorem found (h : q.Ledger published bound b) (hp : p ∈ published) (hcopy : p.Copy k c)
    {text? : Option String} (hfind : findText c.id (q.board b).processing = .ok text?) :
    Found (q.board b).processing p text? := by
  rw [hcopy.id_eq (h.issued p hp)] at hfind
  exact h.found_of_findText hp h.processing hfind

theorem nameable (h : q.Ledger published bound b) (hp : p ∈ published) (hcopy : p.Copy k c) :
    q.Nameable b c := by
  constructor
  · rw [hcopy.id_eq (h.issued p hp)]
    exact (h.issued p hp).whole_id
  · intro text htext
    obtain ⟨p', -, k', -, hentry⟩ := h.processing text htext
    exact hentry.whole

/-! ## Operations -/

/-- The waiting texts are those of before and one more. -/
structure Joined (text : String) (places places' : Board) : Prop where
  waiting : places'.waiting.Perm (text :: places.waiting)
  processing : places'.processing = places.processing
  dead : places'.dead = places.dead

theorem fresh_id (h : q.Ledger published bound b) (event : Event) (now : Double) :
    ∀ p ∈ published, p.id ≠ (Message.create s!"msg-{b.issued + 1}" event now).id := by
  intro p hp heq
  obtain ⟨-, number, event', now', hle, rfl⟩ := h.issued p hp
  have htext : s!"msg-{number}" = s!"msg-{b.issued + 1}" := Value.text.inj heq
  have hnumber := Message.idText_injective htext
  omega

/-- A published message joins those that wait; otherwise nothing changes. -/
def Publishes (q : Queue) (published : List Message) (bound : ℕ) (b : Broker)
    (result : Except Fault (Option Message)) (t : Broker) : Prop :=
  match result with
  | .ok (some p) =>
    q.Ledger (p :: published) bound t ∧ (∀ p' ∈ published, p'.id ≠ p.id) ∧
      Joined p.encode (q.board b) (q.board t)
  | _ => q.Ledger published bound t ∧ q.board t = q.board b

theorem ends_publish (h : q.Ledger published bound b) (hbound : 1 ≤ bound) (now : Double)
    (event : Event) (delay : Value) (deduplicate : Bool) :
    (q.publish now event delay deduplicate).Ends b (Publishes q published bound b) := by
  apply (h.tidy.ends_publish now event delay deduplicate).mono
  rintro result t ⟨htidy, hissued, hresult⟩
  have hsame : q.board t = q.board b → q.Ledger published bound t ∧ q.board t = q.board b := by
    intro hboard
    have hold : ∀ p ∈ published, p.Issued t.issued := fun p hp =>
      (h.issued p hp).mono (by omega)
    exact ⟨⟨htidy, h.named, hold, h.distinct, hboard ▸ h.waiting, hboard ▸ h.processing,
      hboard ▸ h.dead⟩, hboard⟩
  match result with
  | .error fault => exact hsame hresult
  | .ok none => exact hsame hresult
  | .ok (some p) =>
      obtain ⟨hp, hname, hwrite, hadded⟩ := hresult
      have hnew : p.Issued t.issued := ⟨hwrite, b.issued + 1, event, now, hissued.ge, hp⟩
      have hold : ∀ p' ∈ published, p'.Issued t.issued := fun p' hp' =>
        (h.issued p' hp').mono (by omega)
      have hfresh : ∀ p' ∈ published, p'.id ≠ p.id := hp ▸ h.fresh_id event now
      have hnot : p.encode ∉ (q.board b).waiting := by
        intro hmem
        obtain ⟨p', hp', k, -, hentry⟩ := h.waiting _ hmem
        have howns : p.owns p.encode = true := Message.Entry.first.owns hnew
        exact hfresh p' hp' (hentry.id_eq_of_owns (hold p' hp') hnew howns)
      have hjoined : Joined p.encode (q.board b) (q.board t) := by
        rcases hadded with heq | ⟨due, heq⟩
        · rw [heq]
          exact ⟨.refl _, rfl, rfl⟩
        · rw [heq]
          exact ⟨Board.waiting_planned due hnot, rfl, rfl⟩
      refine ⟨⟨htidy, fun _ => hname, ?_, ?_, ?_, ?_, ?_⟩, hfresh, hjoined⟩
      · intro p' hp'
        rcases List.mem_cons.mp hp' with rfl | hp'
        · exact hnew
        · exact hold p' hp'
      · rw [List.map_cons, List.nodup_cons]
        refine ⟨fun hmem => ?_, h.distinct⟩
        obtain ⟨p', hp', heq⟩ := List.mem_map.mp hmem
        exact hfresh p' hp' heq
      · intro text htext
        rcases List.mem_cons.mp (hjoined.waiting.mem_iff.mp htext) with rfl | hmem
        · exact ⟨p, by simp, 1, hbound, .first⟩
        · obtain ⟨p', hp', hentry⟩ := h.waiting text hmem
          exact ⟨p', List.mem_cons_of_mem p hp', hentry⟩
      · intro text htext
        obtain ⟨p', hp', hentry⟩ := h.processing text (hjoined.processing ▸ htext)
        exact ⟨p', List.mem_cons_of_mem p hp', hentry⟩
      · intro text htext
        obtain ⟨p', hp', hentry⟩ := h.dead text (hjoined.dead ▸ htext)
        exact ⟨p', List.mem_cons_of_mem p hp', hentry⟩

/-- A claim moves the next text to the claimed ones, and answers a copy of its message if it
answers one. -/
theorem ends_claim (h : q.Ledger published bound b) (now : Double) :
    (q.claim now).Ends b fun result t =>
      q.Ledger published bound t ∧ q.board t = (q.board b).claimed now ∧
        (Answers ((q.board b).next? now) result ∨
          (q.board b).next? now = none ∧ ∃ fault, result = .error fault) ∧
        ∀ m, result = .ok (.message m) → ∃ p ∈ published, ∃ k ≤ bound, p.Copy k m := by
  apply (h.tidy.ends_claim now).mono
  rintro result t (⟨hname, huntouched, fault, rfl⟩ | ⟨hbecomes, hanswers⟩)
  · -- Nothing was ever published under a name that the store refuses.
    have hnone : published = [] := by
      by_contra hne
      exact hname (h.named hne)
    have hwaiting : (q.board b).waiting = [] := by
      rw [List.eq_nil_iff_forall_not_mem]
      intro text htext
      obtain ⟨p, hp, -⟩ := h.waiting text htext
      simp [hnone] at hp
    obtain ⟨hnext, hclaimed⟩ := Board.claimed_of_waiting_nil now hwaiting
    refine ⟨h.untouched huntouched, huntouched.board.trans hclaimed.symm,
      .inr ⟨hnext, fault, rfl⟩, ?_⟩
    intro m heq
    cases heq
  cases hnext : (q.board b).next? now with
  | none =>
      obtain ⟨hwaiting, hprocessing, hdead⟩ := Board.claimed_of_no_next hnext
      refine ⟨h.becomes hbecomes (fun text htext => h.waiting text (hwaiting.mem_iff.mp htext))
        (hprocessing ▸ h.processing) (hdead ▸ h.dead), hbecomes.board, ?_, ?_⟩
      · exact .inl (hnext ▸ hanswers)
      · intro m heq
        rw [hnext] at hanswers
        rw [heq] at hanswers
        cases hanswers
  | some text =>
      obtain ⟨hwaiting, hprocessing, hdead⟩ := Board.claimed_of_next hnext
      obtain ⟨p, hp, k, hk, hentry⟩ := h.waiting text (hwaiting.mem_iff.mpr (by simp))
      refine ⟨h.becomes hbecomes ?_ ?_ (hdead ▸ h.dead), hbecomes.board, .inl (hnext ▸ hanswers),
        ?_⟩
      · exact fun other hmem =>
          h.waiting other (hwaiting.mem_iff.mpr (List.mem_cons_of_mem text hmem))
      · intro other hmem
        rw [hprocessing] at hmem
        rcases List.mem_cons.mp hmem with rfl | hmem
        · exact ⟨p, hp, k, hk, hentry⟩
        · exact h.processing other hmem
      · rintro m rfl
        rw [hnext] at hanswers
        rcases hanswers with ⟨-, heq⟩ | ⟨-, hread⟩
        · cases heq
        cases hdecode : Message.decode text with
        | error fault => rw [hdecode] at hread; cases hread
        | ok other =>
            rw [hdecode] at hread
            rcases hread with heq | ⟨fault, heq⟩
            · obtain rfl : m = other := Claim.message.inj (Except.ok.inj heq)
              exact ⟨p, hp, k, hk, hentry.copy (h.issued p hp) hdecode⟩
            · cases heq

/-- A release does nothing, or drops what it finds. -/
def Releases (q : Queue) (published : List Message) (bound : ℕ) (b : Broker) (p : Message)
    (result : Except Fault Unit) (t : Broker) : Prop :=
  q.Ledger published bound t ∧
    ((q.board t = q.board b ∧ ∃ fault, result = .error fault) ∨
      ∃ text?, Found (q.board b).processing p text? ∧ q.board t = (q.board b).dropped text? ∧
        result = .ok ())

theorem dropped (h : q.Ledger published bound b) {text? : Option String}
    (hbecomes : q.Becomes b t ((q.board b).dropped text?)) : q.Ledger published bound t := by
  apply h.becomes hbecomes
  · rw [Board.dropped_waiting]
    exact h.waiting
  · exact fun text htext => h.processing text (Board.dropped_processing_subset text? _ htext)
  · rw [Board.dropped_dead]
    exact h.dead

theorem ends_release (h : q.Ledger published bound b) (hp : p ∈ published) (hcopy : p.Copy k c)
    (now : Double) : (q.release now c).Ends b (Releases q published bound b p) := by
  apply (h.tidy.ends_release now (h.nameable hp hcopy)).mono
  rintro result t (⟨huntouched, hfault⟩ | ⟨-, text?, hfind, rfl, hbecomes⟩)
  · exact ⟨h.untouched huntouched, .inl ⟨huntouched.board, hfault⟩⟩
  · exact ⟨h.dropped hbecomes, .inr ⟨text?, h.found hp hcopy hfind, hbecomes.board, rfl⟩⟩

/-- A retry does nothing, or drops what it finds and queues the next attempt, unless that has
too many digits. -/
def Retries (q : Queue) (published : List Message) (bound : ℕ) (b : Broker) (p : Message)
    (k : ℕ) (result : Except Fault Message) (t : Broker) : Prop :=
  q.Ledger published bound t ∧
    ((q.board t = q.board b ∧ ∃ fault, result = .error fault) ∨
      ∃ text?, Found (q.board b).processing p text? ∧
        ((Message.attemptLimit ≤ k + 1 ∧ q.board t = (q.board b).dropped text? ∧
            ∃ fault, result = .error fault) ∨
          ∃ text next, p.Entry (k + 1) none text ∧ p.Copy (k + 1) next ∧ result = .ok next ∧
            q.board t = ((q.board b).dropped text?).queued text))

theorem ends_retry (h : q.Ledger published bound b) (hp : p ∈ published) (hk : k + 1 ≤ bound)
    (hcopy : p.Copy k c) (now : Double) :
    (q.retry now c).Ends b (Retries q published bound b p k) := by
  have hnext := hcopy.nextAttempt
  obtain ⟨hwritten, hunwritten⟩ := hcopy.write (h.issued p hp)
  apply (h.tidy.ends_retry now (h.nameable hp hcopy)).mono
  rintro result t (⟨huntouched, hfault⟩ | ⟨text?, hfind, hrest⟩)
  · exact ⟨h.untouched huntouched, .inl ⟨huntouched.board, hfault⟩⟩
  have hfound := h.found hp hcopy hfind
  rcases hrest with ⟨fault, hwrite, rfl, hbecomes⟩ | ⟨next, text, hnext', hwrite, rfl, hbecomes⟩
  · refine ⟨h.dropped hbecomes, .inr ⟨text?, hfound, .inl ⟨?_, hbecomes.board, fault, rfl⟩⟩⟩
    by_contra hsmall
    obtain ⟨text, htext, -⟩ := hwritten (not_le.mp hsmall)
    rw [hnext, Json.ok_bind, htext] at hwrite
    cases hwrite
  · rw [hnext] at hnext'
    obtain rfl := Except.ok.inj hnext'
    have hsmall : k + 1 < Message.attemptLimit := by
      by_contra hlarge
      obtain ⟨fault, hfault⟩ := hunwritten (not_lt.mp hlarge)
      rw [hfault] at hwrite
      cases hwrite
    obtain ⟨text', htext, hcopy', hentry⟩ := hwritten hsmall
    rw [htext] at hwrite
    obtain rfl : text' = text := Except.ok.inj hwrite
    refine ⟨h.becomes hbecomes ?_ ?_ ?_, .inr ⟨text?, hfound, .inr
      ⟨text', _, hentry, hcopy', rfl, hbecomes.board⟩⟩⟩
    · intro other hmem
      rw [Board.waiting_queued, Board.dropped_waiting] at hmem
      rcases List.mem_cons.mp hmem with rfl | hmem
      · exact ⟨p, hp, k + 1, hk, hentry⟩
      · exact h.waiting other hmem
    · exact fun other hmem =>
        h.processing other (Board.dropped_processing_subset text? _ hmem)
    · exact fun other hmem => h.dead other ((Board.dropped_dead text? _) ▸ hmem)

/-- Giving a message up does nothing, or drops what is found and buries the message. -/
def Buries (q : Queue) (published : List Message) (bound : ℕ) (b : Broker) (p : Message) (k : ℕ)
    (reason : String) (result : Except Fault Unit) (t : Broker) : Prop :=
  q.Ledger published bound t ∧
    ((q.board t = q.board b ∧ ∃ fault, result = .error fault) ∨
      ∃ text? text, Found (q.board b).processing p text? ∧ p.Entry k (some reason) text ∧
        q.board t = ((q.board b).dropped text?).buried text ∧ result = .ok ())

theorem ends_bury (h : q.Ledger published bound b) (hp : p ∈ published) (hk : k ≤ bound)
    (hcopy : p.Copy k c) (now : Double) (reason : String) :
    (q.bury now c (.text reason)).Ends b (Buries q published bound b p k reason) := by
  apply (h.tidy.ends_bury now (h.nameable hp hcopy) (.text reason)).mono
  obtain ⟨text, hwrite, hentry⟩ := hcopy.buried (h.issued p hp) reason
  rintro result t (⟨huntouched, hfault⟩ | ⟨text?, hfind, hrest⟩)
  · exact ⟨h.untouched huntouched, .inl ⟨huntouched.board, hfault⟩⟩
  rw [hwrite] at hrest
  obtain ⟨written, heq, rfl, hbecomes⟩ :=
    hrest.resolve_left fun ⟨fault, hfault, _⟩ => by cases hfault
  obtain rfl := Except.ok.inj heq
  refine ⟨h.becomes hbecomes ?_ ?_ ?_, .inr ⟨text?, _, h.found hp hcopy hfind, hentry,
    hbecomes.board, rfl⟩⟩
  · exact fun text htext => h.waiting text ((Board.dropped_waiting text? _) ▸ htext)
  · exact fun text htext => h.processing text (Board.dropped_processing_subset text? _ htext)
  · intro text htext
    have htext : text ∈ _ :: ((q.board b).dropped text?).dead := htext
    rw [Board.dropped_dead] at htext
    rcases List.mem_cons.mp htext with rfl | hmem
    · exact ⟨p, hp, k, hk, reason, hentry⟩
    · exact h.dead text hmem

/-- The return of an expired message buries it or retries it, as its attempt is at the limit
or not. -/
def Returns (q : Queue) (published : List Message) (bound : ℕ) (b : Broker) (p : Message)
    (k : ℕ) (limit : Value) (result : Except Fault Unit) (t : Broker) : Prop :=
  q.Ledger published bound t ∧
    ((q.board t = q.board b ∧ ∃ fault, result = .error fault) ∨
      (Value.atLeast (.int k) limit = .ok true ∧
        Buries q published bound b p k "lease_expired" result t) ∨
      (Value.atLeast (.int k) limit = .ok false ∧
        ∃ answer, Retries q published bound b p k answer t ∧ result = answer.map fun _ => ()))

theorem ends_returnExpired (h : q.Ledger published bound b) (hp : p ∈ published)
    (hk : k + 1 ≤ bound) (hcopy : p.Copy k c) (now : Double) (limit : Value) :
    (q.returnExpired now limit c).Ends b (Returns q published bound b p k limit) := by
  have hattempt : c.attempt = .int k := by
    obtain ⟨origin, -, -, rfl⟩ := hcopy
    rfl
  unfold returnExpired
  rw [hattempt]
  cases hlimit : Value.atLeast (.int k) limit with
  | error fault =>
      exact Attempt.Ends.bind_error (Attempt.gives_ofExcept _ b) ⟨h, .inl ⟨rfl, fault, rfl⟩⟩
  | ok spent =>
      apply Attempt.Ends.bind_ok (Attempt.gives_ofExcept _ b)
      cases spent with
      | true =>
          apply (h.ends_bury hp (by omega) hcopy now "lease_expired").mono
          exact fun result t hburies => ⟨hburies.1, .inr (.inl ⟨hlimit, hburies⟩)⟩
      | false =>
          apply (h.ends_retry hp hk hcopy now).bind
          · exact fun fault t hretries =>
              ⟨hretries.1, .inr (.inr ⟨hlimit, .error fault, hretries, rfl⟩)⟩
          · exact fun next t hretries => (Attempt.gives_pure () t).ends
              ⟨hretries.1, .inr (.inr ⟨hlimit, .ok next, hretries, rfl⟩)⟩

/-- The return of expired messages goes through the claimed texts one by one: what holds
before each of them, and what holds wherever a fault may end the way. -/
theorem ends_requeueTexts {I : List String → Broker → Prop} {J : Broker → Prop} {now : Double}
    {limit : Value} (hend : ∀ texts b, I texts b → q.Tidy b ∧ J b)
    (hkeep : ∀ text rest b t, I (text :: rest) b → q.Untouched b t →
      I (text :: rest) t ∧ I rest t)
    (hreturn : ∀ text rest b m, I (text :: rest) b → Message.decode text = .ok m →
      (q.returnExpired now limit m).Ends b fun result t => J t ∧ (result = .ok () → I rest t))
    {texts : List String} (h : I texts b) :
    (q.requeueTexts now limit texts).Ends b fun _ t => J t := by
  induction texts generalizing b with
  | nil => exact (Attempt.gives_pure 0 b).ends (hend [] b h).2
  | cons text rest ih =>
      unfold requeueTexts
      cases hread : Message.decode text with
      | error fault =>
          exact Attempt.Ends.bind_error (Attempt.gives_ofExcept _ b) (hend _ b h).2
      | ok m =>
          have htidy := (hend _ b h).1
          apply Attempt.Ends.bind_ok (Attempt.gives_ofExcept _ b)
          apply (htidy.ask_ends (htidy.ends_holds now)).bind
          · exact fun fault t ht => (hend _ t (hkeep text rest b t h ht).1).2
          intro held t ht
          obtain ⟨hagain, hnext⟩ := hkeep text rest b t h ht
          have hmore : ∀ u, I rest u → ((do
              return (if held then 0 else 1) + (← q.requeueTexts now limit rest) :
                Attempt Broker ℕ)).Ends u fun _ v => J v := by
            intro u hu
            apply (ih hu).bind
            · exact fun fault v hv => hv
            · exact fun count v hv => (Attempt.gives_pure _ v).ends hv
          cases held with
          | true => exact hmore t hnext
          | false =>
              apply (hreturn text rest t m hagain hread).bind
              · exact fun fault u hu => hu.1
              · exact fun _ u hu => hmore u (hu.2 rfl)

/-- The return of expired messages keeps the ledger, and with it what each single return
keeps.  An attempt may rise by one. -/
theorem ends_requeueExpired {K : List String → Board → Prop} {L : Board → Prop}
    (h : q.Ledger published bound b) (now : Double) (limit : Value)
    (hstart : K (q.board b).processing (q.board b))
    (hlast : ∀ texts places, K texts places → L places)
    (hskip : ∀ text rest places, K (text :: rest) places → K rest places)
    (hreturn : ∀ text rest b t p k result, q.Ledger published (bound + 1) b →
      K (text :: rest) (q.board b) → p ∈ published → k ≤ bound → p.Entry k none text →
      Returns q published (bound + 1) b p k limit result t →
      L (q.board t) ∧ (result = .ok () → K rest (q.board t))) :
    (q.requeueExpired now limit).Ends b fun _ t =>
      q.Ledger published (bound + 1) t ∧ L (q.board t) := by
  have hlater : q.Ledger published (bound + 1) b := h.mono (Nat.le_add_right bound 1)
  have hprocessing : q.processing ∈ q.listKeys := by simp [listKeys]
  unfold requeueExpired
  by_cases hname : Text.Whole q.name
  · apply Attempt.Ends.bind_ok (h.tidy.ask_gives (h.tidy.gives_texts hname hprocessing now))
    apply ends_requeueTexts (I := fun texts b => q.Ledger published (bound + 1) b ∧
      K texts (q.board b) ∧ ∀ text ∈ texts, ∃ p ∈ published, ∃ k ≤ bound, p.Entry k none text)
    · exact fun texts b hi => ⟨hi.1.tidy, hi.1, hlast texts _ hi.2.1⟩
    · rintro text rest b t ⟨hledger, hk, hentries⟩ huntouched
      have hnow := hledger.untouched huntouched
      have hboard := huntouched.board
      refine ⟨⟨hnow, hboard ▸ hk, hentries⟩, hnow, hboard ▸ hskip text rest _ hk, ?_⟩
      exact fun other hmem => hentries other (List.mem_cons_of_mem text hmem)
    · rintro text rest b m ⟨hledger, hk, hentries⟩ hread
      obtain ⟨p, hp, k, hbound, hentry⟩ := hentries text (by simp)
      have hcopy := hentry.copy (hledger.issued p hp) hread
      apply (hledger.ends_returnExpired hp (by omega) hcopy now limit).mono
      intro result t hreturns
      have hkept := hreturn text rest b t p k result hledger hk hp hbound hentry hreturns
      refine ⟨⟨hreturns.1, hkept.1⟩, fun hok => ⟨hreturns.1, hkept.2 hok, ?_⟩⟩
      exact fun other hmem => hentries other (List.mem_cons_of_mem text hmem)
    · exact ⟨hlater, hstart, h.processing⟩
  · have hplace := mem_placeKeys_of_mem_listKeys hprocessing
    obtain ⟨fault, hrefused⟩ := h.tidy.gives_refused hname hplace _
    exact Attempt.Ends.bind_error hrefused ⟨hlater, hlast _ _ hstart⟩

end Ledger

end Queue

end CaseWorkflow
