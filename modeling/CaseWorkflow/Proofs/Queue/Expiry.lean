import CaseWorkflow.Proofs.Queue.Recovery
import CaseWorkflow.Proofs.Queue.RoundTrip
import CaseWorkflow.Proofs.Queue.Settling

/-!
# Returning what has expired

The claimed texts are visited from the left.  A text whose lease stands is left where it is, so
that the texts to the left of the one that is visited are those that are kept.  None of them is
found for a message whose lease has ended, since messages of one id share their lease, and the
text that is dropped is the one that is visited.
-/

namespace CaseWorkflow

open Attempt

/-! ## What becomes of a message -/

namespace Message

/-- The message as it is given up, if it was delivered as often as the limit says. -/
def spent? (limit : ℤ) (m : Message) : Option Message :=
  match m.attempt with
  | .int k => if limit ≤ k then some { m with reason := .text "lease_expired" } else none
  | _ => none

/-- The texts of what becomes of messages. -/
def turned (become : Message → Option Message) (texts : List String) : List String :=
  texts.filterMap fun text => (decode text).toOption.bind fun m => (become m).map encode

theorem turned_cons {become : Message → Option Message} {text : String} {m : Message}
    (h : decode text = .ok m) (texts : List String) :
    turned become (text :: texts) = ((become m).map encode).toList ++ turned become texts := by
  cases hbecome : become m <;> simp [turned, h, Except.toOption, hbecome]

theorem Reads.becomes {text : String} {m : Message} {k : ℕ} (h : Reads text m k) (limit : ℤ) :
    (m.again? limit = if limit ≤ k then none else some { m with attempt := .int (k + 1 : ℕ) }) ∧
      m.spent? limit = if limit ≤ k then some { m with reason := .text "lease_expired" }
        else none := by
  simp [again?, spent?, h.attempt]

end Message

/-- The places after the expired ones among the given texts were returned, where the kept ones
stand before the given ones. -/
def Board.swept (expired : String → Bool) (limit : ℤ) (kept texts : List String)
    (places : Board) : Board where
  pending := (Message.turned (Message.again? limit) (texts.filter expired)).reverse
    ++ places.pending
  processing := kept ++ texts.filter (!expired ·)
  delayed := places.delayed
  dead := (Message.turned (Message.spent? limit) (texts.filter expired)).reverse ++ places.dead

namespace Board

variable {expired : String → Bool} {limit : ℤ} {kept texts : List String} {text : String}
variable {places : Board}

theorem swept_nil (h : places.processing = kept) : places.swept expired limit kept [] = places := by
  obtain ⟨pending, processing, delayed, dead⟩ := places
  obtain rfl : processing = kept := h
  simp [swept, Message.turned]

theorem swept_cons_kept (h : expired text = false) :
    places.swept expired limit kept (text :: texts)
      = places.swept expired limit (kept ++ [text]) texts := by
  simp [swept, h]

theorem swept_cons_expired {m : Message} {k : ℕ} (h : expired text = true)
    (hreads : Message.Reads text m k) (processing : List String) :
    places.swept expired limit kept (text :: texts)
      = (if limit ≤ k then
            { places with processing }.buried { m with reason := .text "lease_expired" }.encode
          else { places with processing }.queued { m with attempt := .int (k + 1 : ℕ) }.encode).swept
        expired limit kept texts := by
  obtain ⟨hagain, hspent⟩ := hreads.becomes limit
  simp only [swept, List.filter_cons, h, if_true, Bool.not_true, Bool.false_eq_true, if_false,
    Message.turned_cons hreads.read, hagain, hspent]
  split <;> simp [buried, queued]

end Board

namespace Broker

variable {b t : Broker} {now : Double} {key : String}

/-- No mark that has ended stands under the key. -/
def Clear (b : Broker) (now : Double) (key : String) : Prop :=
  b.marks.lookup key = none ∨ b.isMarked now key = true

theorem Clear.refreshed_eq (h : b.Clear now key) : b.refreshed now key = b := by
  unfold refreshed
  rcases h with hnone | hmarked
  · rw [hnone]
    rfl
  · rw [hmarked, Bool.not_true, Bool.and_false]
    rfl

theorem clear_refreshed (b : Broker) (now : Double) (key : String) :
    (b.refreshed now key).Clear now key := by
  unfold refreshed
  split
  next => exact .inl (by simp [Table.lookup_erase])
  next hstands =>
    by_cases hnone : b.marks.lookup key = none
    · exact .inl hnone
    · right
      simpa [Option.isSome_iff_ne_none, hnone] using hstands

theorem isMarked_of_lookup_eq (h : t.marks.lookup key = b.marks.lookup key) :
    t.isMarked now key = b.isMarked now key := by
  unfold isMarked
  rw [h]

theorem isMarked_of_lookup_none (h : t.marks.lookup key = none) : t.isMarked now key = false := by
  unfold isMarked
  rw [h]

end Broker

namespace Queue

variable {q : Queue} {b t : Broker} {now : Double} {m : Message} {text other : String} {k : ℕ}
variable {limit : ℤ} {rest : Board} {kept texts : List String}

/-! ## What stands beside the places -/

/-- Beside the places both stores hold the same, but for marks that have ended. -/
def SameAside (q : Queue) (now : Double) (b t : Broker) : Prop :=
  ∀ key ∉ q.placeKeys, t.list key = b.list key ∧ t.schedule key = b.schedule key ∧
    (t.marks.lookup key = b.marks.lookup key ∨
      (t.marks.lookup key = none ∧ b.isMarked now key = false))

theorem SameAside.isMarked {key : String} (h : q.SameAside now b t) (hkey : key ∉ q.placeKeys) :
    t.isMarked now key = b.isMarked now key := by
  obtain ⟨-, -, hsame | ⟨hnone, hended⟩⟩ := h key hkey
  · exact Broker.isMarked_of_lookup_eq hsame
  · rw [hended, Broker.isMarked_of_lookup_none hnone]

theorem SameAside.holding? {key : String} (h : q.SameAside now b t) (hkey : key ∉ q.placeKeys) :
    t.holding? now key = b.holding? now key := by
  have hmarked := h.isMarked hkey
  obtain ⟨hlist, hschedule, -⟩ := h key hkey
  simp only [Broker.holding?, hlist, hschedule, hmarked]

theorem SameAside.clear {key : String} (h : q.SameAside now b t) (hkey : key ∉ q.placeKeys)
    (hclear : b.Clear now key) : t.Clear now key := by
  obtain ⟨-, -, hsame | ⟨hnone, -⟩⟩ := h key hkey
  · rw [Broker.Clear, hsame, h.isMarked hkey]
    exact hclear
  · exact .inl hnone

instance (q : Queue) (now : Double) : IsPreorder Broker (q.SameAside now) where
  refl _ _ _ := ⟨rfl, rfl, .inl rfl⟩
  trans _ t _ h h' key hkey := by
    obtain ⟨hlist, hschedule, hmarks⟩ := h key hkey
    obtain ⟨hlist', hschedule', hmarks'⟩ := h' key hkey
    refine ⟨hlist'.trans hlist, hschedule'.trans hschedule, ?_⟩
    rcases hmarks' with hsame | ⟨hnone, hended⟩
    · rw [hsame]
      exact hmarks
    · rw [h.isMarked hkey] at hended
      exact .inr ⟨hnone, hended⟩

theorem sameAside_refreshed (b : Broker) (now : Double) (key : String) :
    q.SameAside now b (b.refreshed now key) := by
  intro other _
  refine ⟨b.list_refreshed now key other, b.schedule_refreshed now key other, ?_⟩
  unfold Broker.refreshed
  split
  next hended =>
    simp only [Bool.and_eq_true, Bool.not_eq_true'] at hended
    by_cases heq : other = key
    · subst heq
      exact .inr ⟨by simp [Table.lookup_erase], hended.2⟩
    · exact .inl (by simp [Table.lookup_erase, heq])
  next => exact .inl rfl

/-- Where nothing is held for the message, both stores hold the same beside the places. -/
def AsideStays (q : Queue) (now : Double) (id : Value) (b t : Broker) : Prop :=
  b.holding? now (q.lease id) = none → q.SameAside now b t

instance (q : Queue) (now : Double) (id : Value) : IsPreorder Broker (q.AsideStays now id) where
  refl b _ := refl_of (q.SameAside now) b
  trans _ _ _ h h' hnone := by
    have hsame := h hnone
    exact trans_of (q.SameAside now) hsame
      (h' ((hsame.holding? (q.lease_not_mem_placeKeys id)).trans hnone))

theorem asideStays_without (b : Broker) (now : Double) (id : Value) :
    q.AsideStays now id b (b.without (q.lease id)) := by
  intro hnone key _
  by_cases heq : key = q.lease id
  · subst heq
    have hfree : b.list (q.lease id) = [] ∧ b.schedule (q.lease id) = [] ∧
        b.isMarked now (q.lease id) = false := by
      unfold Broker.holding? at hnone
      split_ifs at hnone with hlist hschedule hmarked
      exact ⟨by simpa using hlist, by simpa using hschedule, by simpa using hmarked⟩
    obtain ⟨hlist, hschedule, hmarked⟩ := hfree
    rw [hlist, hschedule]
    refine ⟨?_, ?_, .inr ⟨?_, hmarked⟩⟩
    · simp [Broker.list, Broker.without, Table.lookup_erase]
    · simp [Broker.schedule, Broker.without, Table.lookup_erase]
    · simp [Broker.without, Table.lookup_erase]
  · exact ⟨Broker.list_without heq, Broker.schedule_without heq,
      .inl (Broker.lookup_marks_without heq)⟩

theorem keptByPlaces_asideStays (q : Queue) (now : Double) (id : Value) :
    q.KeptByPlaces now (q.AsideStays now id) where
  preorder := inferInstance
  refreshed key _ b _ := sameAside_refreshed b now key
  list key hkey b texts _ other hother := by
    have hne : other ≠ key := fun heq => hother (heq ▸ mem_placeKeys_of_mem_listKeys hkey)
    exact ⟨(Broker.list_withList b key other texts).trans (if_neg hne), rfl, .inl rfl⟩
  schedule b schedule _ other hother := by
    have hne : other ≠ q.delayed := fun heq => hother (heq ▸ mem_placeKeys_iff.mpr (.inl rfl))
    exact ⟨rfl, (Broker.schedule_withSchedule b q.delayed other schedule).trans (if_neg hne),
      .inl rfl⟩

/-! ## Entries under a lease, and expired ones -/

/-- The text is that of a message under whose lease nothing stands any more. -/
def isExpired (q : Queue) (b : Broker) (now : Double) (text : String) : Bool :=
  match Message.decode text with
  | .ok m => (b.holding? now (q.lease m.id)).isNone
  | .error _ => false

theorem isExpired_eq (hread : Message.decode text = .ok m) :
    q.isExpired b now text = (b.holding? now (q.lease m.id)).isNone := by
  rw [isExpired, hread]

theorem isExpired_of_sameAside (h : q.SameAside now b t) : q.isExpired t now = q.isExpired b now := by
  funext text
  unfold isExpired
  split
  next m _ => rw [h.holding? (q.lease_not_mem_placeKeys m.id)]
  next => rfl

/-- The text is that of a message whose lease stands. -/
def Leased (q : Queue) (b : Broker) (now : Double) (text : String) : Prop :=
  ∃ m k, Message.Reads text m k ∧ (b.holding? now (q.lease m.id)).isSome ∧
    b.Clear now (q.lease m.id)

theorem Leased.of_sameAside (h : q.Leased b now text) (hsame : q.SameAside now b t) :
    q.Leased t now text := by
  obtain ⟨m, k, hreads, hheld, hclear⟩ := h
  have hkey := q.lease_not_mem_placeKeys m.id
  exact ⟨m, k, hreads, (hsame.holding? hkey).symm ▸ hheld, hsame.clear hkey hclear⟩

/-- Messages of one id share their lease, so that no message under a lease has the id of one whose
lease has ended. -/
theorem Leased.not_same (h : q.Leased b now text) (hreads : Message.Reads other m k)
    (hnone : b.holding? now (q.lease m.id) = none) :
    ∃ kept, Message.decode text = .ok kept ∧ kept.id.same m.id = false := by
  obtain ⟨kept, l, hkept, hheld, -⟩ := h
  refine ⟨kept, hkept.read, ?_⟩
  obtain ⟨id, hid, -⟩ := hkept.id
  obtain ⟨id', hid', -⟩ := hreads.id
  by_contra hsame
  have heq : id = id' := by simpa [hid, hid', Value.same, Value.number?, Value.text?] using hsame
  rw [hid, heq, ← hid', hnone] at hheld
  cases hheld

theorem findText_append {id : Value} (h : ∀ text ∈ kept, ∃ m, Message.decode text = .ok m ∧
    m.id.same id = false) : findText id (kept ++ texts) = findText id texts := by
  induction kept with
  | nil => rfl
  | cons text kept ih =>
      obtain ⟨m, hread, hother⟩ := h text List.mem_cons_self
      rw [List.cons_append, findText, hread, Json.ok_bind, hother]
      exact ih fun other hmem => h other (List.mem_cons_of_mem text hmem)

/-- The text that is visited is the one that is found, since all before it are under leases. -/
theorem Tidy.located (h : q.Tidy b) (hname : Text.Whole q.name)
    (hprocessing : (q.board b).processing = kept ++ text :: texts)
    (hwhole : ∀ text ∈ (q.board b).processing, Text.Whole text)
    (hkept : ∀ text ∈ kept, q.Leased b now text) (hreads : Message.Reads text m k)
    (hnone : b.holding? now (q.lease m.id) = none) :
    q.Located b text m k { q.board b with processing := kept ++ texts } where
  tidy := h
  name := hname
  whole := hwhole
  reads := hreads
  find := by
    rw [hprocessing, findText_append fun other hother => (hkept other hother).not_same hreads hnone,
      findText, hreads.read, Json.ok_bind, if_pos hreads.same]
    rfl
  board := by
    have hnew : text ∉ kept := by
      intro hmem
      obtain ⟨other, hother, hdiffers⟩ := (hkept text hmem).not_same hreads hnone
      obtain rfl := Except.ok.inj (hother.symm.trans hreads.read)
      rw [hreads.same] at hdiffers
      cases hdiffers
    rw [Board.dropped, hprocessing, List.erase_append_right _ hnew, List.erase_cons_head]

/-! ## One visit -/

theorem Located.ends_returnExpired (h : q.Located b text m k rest) (now : Double)
    (hk : k < limit → k + 1 < Message.attemptLimit) :
    (q.returnExpired now (.int limit) m).Ends b fun result t => result = .ok () ∧
      q.Settled m (if limit ≤ k then rest.buried { m with reason := .text "lease_expired" }.encode
        else rest.queued { m with attempt := .int (k + 1 : ℕ) }.encode) b t := by
  have hlimit : m.attempt.atLeast (.int limit) = .ok (decide (limit ≤ k)) := by
    rw [h.reads.attempt]
    exact congrArg Except.ok (Number.le_int limit k)
  unfold returnExpired
  rw [hlimit]
  apply Ends.bind_ok (gives_ofExcept _ b)
  by_cases hspent : limit ≤ k
  · rw [if_pos hspent, decide_eq_true hspent]
    exact h.ends_bury now "lease_expired"
  · rw [if_neg hspent, decide_eq_false hspent]
    apply (h.ends_retry now (hk (by omega))).bind
    · rintro fault t ⟨heq, -⟩
      cases heq
    · rintro next t ⟨-, hsettled⟩
      exact (gives_pure () t).ends ⟨rfl, hsettled⟩

/-- In the middle of a return: the kept texts were visited and stay, the others are still to be
visited, and all attempts below the limit can be written. -/
structure Midway (q : Queue) (now : Double) (limit : ℤ) (kept texts : List String) (b : Broker) :
    Prop where
  tidy : q.Tidy b
  name : Text.Whole q.name
  processing : (q.board b).processing = kept ++ texts
  whole : ∀ text ∈ (q.board b).processing, Text.Whole text
  leased : ∀ text ∈ kept, q.Leased b now text
  written : ∀ text ∈ texts, Message.Written text
  room : ∀ text ∈ texts, ∀ m k, Message.Reads text m k → k < limit → k + 1 < Message.attemptLimit

namespace Midway

variable (h : q.Midway now limit kept (text :: texts) b) (hreads : Message.Reads text m k)
include h hreads

/-- A message under a lease stays. -/
theorem keep (hheld : (b.holding? now (q.lease m.id)).isSome) :
    q.Midway now limit (kept ++ [text]) texts (b.refreshed now (q.lease m.id)) := by
  have hrefreshed := h.tidy.refreshed now (q.lease m.id)
  have hsame := q.sameAside_refreshed b now (q.lease m.id)
  have hleased : q.Leased (b.refreshed now (q.lease m.id)) now text :=
    ⟨m, k, hreads, (Broker.holding?_refreshed b now _).symm ▸ hheld, b.clear_refreshed now _⟩
  refine ⟨hrefreshed.tidy, h.name, ?_, hrefreshed.board ▸ h.whole, ?_, ?_, ?_⟩
  · rw [hrefreshed.board, h.processing, List.append_assoc]
    rfl
  · intro other hother
    rcases List.mem_append.mp hother with hother | hother
    · exact (h.leased other hother).of_sameAside hsame
    · rwa [List.mem_singleton.mp hother]
  · exact fun other hother => h.written other (List.mem_cons_of_mem text hother)
  · exact fun other hother => h.room other (List.mem_cons_of_mem text hother)

/-- A message whose lease has ended is returned. -/
theorem ends_return (hnone : b.holding? now (q.lease m.id) = none) :
    (q.returnExpired now (.int limit) m).Ends (b.refreshed now (q.lease m.id)) fun result u =>
      result = .ok () ∧ q.Midway now limit kept texts u ∧ q.SameAside now b u ∧
        q.Becomes b u (if limit ≤ k then
            { q.board b with processing := kept ++ texts }.buried
              { m with reason := .text "lease_expired" }.encode
          else { q.board b with processing := kept ++ texts }.queued
            { m with attempt := .int (k + 1 : ℕ) }.encode) := by
  have hrefreshed := h.tidy.refreshed now (q.lease m.id)
  have hsame := q.sameAside_refreshed b now (q.lease m.id)
  have hnone' : (b.refreshed now (q.lease m.id)).holding? now (q.lease m.id) = none := by
    rw [Broker.holding?_refreshed, hnone]
  have hlocated := hrefreshed.tidy.located h.name (hrefreshed.board ▸ h.processing)
    (hrefreshed.board ▸ h.whole) (fun other hother => (h.leased other hother).of_sameAside hsame)
    hreads hnone'
  have hreturned := hlocated.ends_returnExpired now (h.room text List.mem_cons_self m k hreads)
  have haside := (q.keptByPlaces_asideStays now m.id).returnExpired
    (fun b => asideStays_without b now m.id) (.int limit)
  apply (hreturned.and (haside _)).mono
  rintro result u ⟨⟨hresult, hsettled⟩, hstays⟩
  have hbu := trans_of (q.SameAside now) hsame (hstays hnone')
  have hbecomes := hrefreshed.trans hsettled.becomes
  rw [hrefreshed.board] at hbecomes
  have hprocessing : (q.board u).processing = kept ++ texts := by
    rw [hbecomes.board]
    split <;> rfl
  refine ⟨hresult, ⟨hbecomes.tidy, h.name, hprocessing, ?_, ?_, ?_, ?_⟩, hbu, hbecomes⟩
  · intro other hother
    apply h.whole other
    rw [hprocessing] at hother
    rw [h.processing]
    exact List.mem_append.mpr ((List.mem_append.mp hother).imp_right (List.mem_cons_of_mem _))
  · exact fun other hother => (h.leased other hother).of_sameAside hbu
  · exact fun other hother => h.written other (List.mem_cons_of_mem text hother)
  · exact fun other hother => h.room other (List.mem_cons_of_mem text hother)

end Midway

/-! ## All visits -/

/-- The expired ones among the given texts were returned, and the leases of all that stays
stand. -/
structure Swept (q : Queue) (now : Double) (limit : ℤ) (kept texts : List String) (b : Broker)
    (count : ℕ) (t : Broker) : Prop where
  count : count = (texts.filter (q.isExpired b now)).length
  becomes : q.Becomes b t ((q.board b).swept (q.isExpired b now) limit kept texts)
  aside : q.SameAside now b t
  leased : ∀ text ∈ kept ++ texts.filter (!q.isExpired b now ·), q.Leased t now text

/-- What was swept behind a visit was swept with it. -/
theorem Swept.visited {u : Broker} {before : List String} {visit count : ℕ}
    (h : q.Swept now limit before texts u count t) (hsame : q.SameAside now b u)
    (hissued : u.issued = b.issued)
    (hvisit : visit = if q.isExpired b now text then 1 else 0)
    (hplaces : (q.board b).swept (q.isExpired b now) limit kept (text :: texts)
      = (q.board u).swept (q.isExpired b now) limit before texts)
    (hstays : kept ++ (text :: texts).filter (!q.isExpired b now ·)
      = before ++ texts.filter (!q.isExpired b now ·)) :
    q.Swept now limit kept (text :: texts) b (visit + count) t := by
  have hexpired := isExpired_of_sameAside hsame
  obtain ⟨hcount, hbecomes, haside, hleased⟩ := h
  rw [hexpired] at hcount hbecomes hleased
  refine ⟨?_, ⟨hbecomes.tidy, hplaces ▸ hbecomes.board, hbecomes.issued.trans hissued⟩,
    trans_of (q.SameAside now) hsame haside, hstays ▸ hleased⟩
  rw [hvisit, hcount, List.filter_cons]
  split
  · exact Nat.add_comm 1 _
  · exact Nat.zero_add _

theorem Midway.ends_requeueTexts (h : q.Midway now limit kept texts b) :
    (q.requeueTexts now (.int limit) texts).Ends b fun result t =>
      ∃ count, result = .ok count ∧ q.Swept now limit kept texts b count t := by
  induction texts generalizing b kept with
  | nil =>
      have hprocessing : (q.board b).processing = kept := by
        rw [h.processing, List.append_nil]
      refine (gives_pure 0 b).ends ⟨0, rfl, rfl, ?_, refl_of (q.SameAside now) b, ?_⟩
      · rw [Board.swept_nil hprocessing]
        exact h.tidy.untouched
      · simpa using h.leased
  | cons text texts ih =>
      obtain ⟨m, k, hreads⟩ := (h.written text List.mem_cons_self).exists_reads
      have hexpired : q.isExpired b now text = (b.holding? now (q.lease m.id)).isNone :=
        isExpired_eq hreads.read
      have hholds := h.tidy.gives_holds (whole_lease h.name hreads.whole_id) now
      unfold requeueTexts
      rw [hreads.read]
      apply Ends.bind_ok (gives_ofExcept _ b)
      apply Ends.bind_ok hholds
      cases hheld : b.holding? now (q.lease m.id) with
      | some holding =>
          rw [hheld] at hexpired
          have hsome : (b.holding? now (q.lease m.id)).isSome := by simp [hheld]
          have hissued := (h.tidy.refreshed now (q.lease m.id)).issued
          have hboard := (h.tidy.refreshed now (q.lease m.id)).board
          apply (ih (h.keep hreads hsome)).bind
          · rintro fault t ⟨count, heq, -⟩
            cases heq
          rintro found t ⟨count, heq, hswept⟩
          obtain rfl := Except.ok.inj heq
          have hall : q.Swept now limit kept (text :: texts) b (0 + found) t :=
            hswept.visited (q.sameAside_refreshed b now _) hissued (by simp [hexpired])
              (by rw [hboard, Board.swept_cons_kept hexpired]) (by simp [hexpired])
          exact (gives_pure _ t).ends ⟨_, rfl, hall⟩
      | none =>
          rw [hheld] at hexpired
          apply (h.ends_return hreads hheld).bind
          · rintro fault u ⟨heq, -⟩
            cases heq
          rintro ⟨⟩ u ⟨-, hmidway, hsame, hbecomes⟩
          apply (ih hmidway).bind
          · rintro fault t ⟨count, heq, -⟩
            cases heq
          rintro found t ⟨count, heq, hswept⟩
          obtain rfl := Except.ok.inj heq
          have hall : q.Swept now limit kept (text :: texts) b (1 + found) t :=
            hswept.visited hsame hbecomes.issued (by simp [hexpired])
              (by rw [hbecomes.board, Board.swept_cons_expired hexpired hreads])
              (by simp [hexpired])
          exact (gives_pure _ t).ends ⟨_, rfl, hall⟩

/-- Where all leases stand, nothing is returned and nothing changes. -/
theorem Tidy.gives_requeueTexts_leased (h : q.Tidy b) (hname : Text.Whole q.name)
    (htexts : ∀ text ∈ texts, q.Leased b now text) (limit : Value) :
    (q.requeueTexts now limit texts).Gives b (.ok 0) b := by
  induction texts with
  | nil => exact gives_pure 0 b
  | cons text texts ih =>
      obtain ⟨m, k, hreads, hheld, hclear⟩ := htexts text List.mem_cons_self
      have hholds := h.gives_holds (whole_lease hname hreads.whole_id) now
      rw [hheld, hclear.refreshed_eq] at hholds
      have hrest := ih fun other hother => htexts other (List.mem_cons_of_mem text hother)
      unfold requeueTexts
      rw [hreads.read]
      apply Gives.bind_ok (gives_ofExcept _ b)
      apply Gives.bind_ok hholds
      exact Gives.bind_ok hrest (gives_pure _ b)

/-! ## Three claimed texts -/

/-- The text of the message of a hearing, for some attempt. -/
def hearingText (number k : ℕ) : String :=
  (Message.hearingMessage number (Double.ofNat 0) k).encode

/-- One message is claimed twice, for its third attempt and for its first one, without a lease.
Between the two stands another message, whose lease lasts a minute. -/
def claimedHearings : Broker :=
  (Broker.empty.withList minuteQueue.processing
    [hearingText 1 3, hearingText 2 1, hearingText 1 1]).withMark
      (minuteQueue.lease (.text s!"msg-{2}")) (Double.ofNat 60)

theorem tidy_claimedHearings : minuteQueue.Tidy claimedHearings := by
  have hprocessing : minuteQueue.processing ∈ minuteQueue.listKeys := by decide
  have hlisted := minuteQueue.tidy_empty.withList hprocessing
    [hearingText 1 3, hearingText 2 1, hearingText 1 1]
  exact (hlisted.withMark (minuteQueue.lease_not_mem_placeKeys _) _).tidy

theorem processing_claimedHearings : (minuteQueue.board claimedHearings).processing
    = [hearingText 1 3, hearingText 2 1, hearingText 1 1] := rfl

theorem decode_hearingText (number : ℕ) {k : ℕ} (h : k < 10) :
    Message.decode (hearingText number k)
      = .ok (Message.hearingMessage number (Double.ofNat 0) k) :=
  (Message.decode_hearingMessage number _ (Message.lt_attemptLimit h)).2

theorem written_hearingText (number : ℕ) {k : ℕ} (h : k < 10) :
    Message.Written (hearingText number k) := by
  have hwrite := (Message.decode_hearingMessage number (Double.ofNat 0)
    (Message.lt_attemptLimit h)).1
  have hwhole : Text.Whole s!"msg-{number}" := (Message.ascii_idText number).not_isHalf
  exact ⟨_, _, k, none, hwrite, ⟨rfl, hwhole⟩, rfl, rfl⟩

/-- The lease of the second message stands, and no other. -/
theorem isExpired_hearingText {number k : ℕ} (hk : k < 10) (hnumber : number ∈ [1, 2]) :
    minuteQueue.isExpired claimedHearings (Double.ofNat 30) (hearingText number k)
      = decide (number = 1) := by
  rw [isExpired_eq (decode_hearingText number hk)]
  have hleases : ∀ number ∈ [1, 2], (claimedHearings.holding? (Double.ofNat 30)
      (minuteQueue.lease (.text s!"msg-{number}"))).isNone = decide (number = 1) := by
    decide +kernel
  exact hleases number hnumber

/-- The return of expired messages moves exactly those that have expired, wherever they stand and
however often, and once more it moves nothing. -/
theorem expired_returned (h : q.Tidy b) (hname : Text.Whole q.name) (now : Double)
    (hwritten : ∀ text ∈ (q.board b).processing, Message.Written text)
    (hroom : ∀ text ∈ (q.board b).processing, ∀ m k, Message.Reads text m k → k < limit →
      k + 1 < Message.attemptLimit) :
    (q.requeueExpired now (.int limit)).Ends b fun result t =>
      result = .ok ((q.board b).processing.filter (q.isExpired b now)).length ∧
        q.Becomes b t ((q.board b).swept (q.isExpired b now) limit [] (q.board b).processing) ∧
        q.SameAside now b t ∧
        ∀ again, (q.requeueExpired now again).Gives t (.ok 0) t := by
  have hprocessing : q.processing ∈ q.listKeys := by simp [listKeys]
  unfold requeueExpired
  apply Ends.bind_ok (h.ask_gives (h.gives_texts hname hprocessing now))
  have hstart : q.Midway now limit [] (q.board b).processing b :=
    ⟨h, hname, rfl, fun text htext => whole_of_written (hwritten text htext), by simp, hwritten,
      hroom⟩
  apply hstart.ends_requeueTexts.mono
  rintro result t ⟨count, hresult, rfl, hbecomes, haside, hleased⟩
  refine ⟨hresult, hbecomes, haside, fun again => ?_⟩
  have htexts : t.list q.processing
      = [] ++ (q.board b).processing.filter (!q.isExpired b now ·) :=
    congrArg Board.processing hbecomes.board
  apply Gives.bind_ok (hbecomes.tidy.ask_gives (hbecomes.tidy.gives_texts hname hprocessing now))
  rw [htexts]
  exact hbecomes.tidy.gives_requeueTexts_leased hname hleased again

theorem expired_returned_hearings :
    minuteQueue.Tidy claimedHearings ∧ Text.Whole minuteQueue.name ∧
      (∀ text ∈ (minuteQueue.board claimedHearings).processing, Message.Written text) ∧
      (∀ text ∈ (minuteQueue.board claimedHearings).processing, ∀ m k, Message.Reads text m k →
        (k : ℤ) < 3 → k + 1 < Message.attemptLimit) ∧
      (minuteQueue.requeueExpired (Double.ofNat 30) (.int 3)).Ends claimedHearings fun result t =>
        result = .ok 2 ∧ (minuteQueue.board t).processing = [hearingText 2 1] ∧
          (minuteQueue.board t).pending = [hearingText 1 2] := by
  have hname : Text.Whole minuteQueue.name := by decide
  have hwritten : ∀ text ∈ (minuteQueue.board claimedHearings).processing,
      Message.Written text := by
    rw [processing_claimedHearings]
    simp only [List.forall_mem_cons, List.not_mem_nil, false_imp_iff, implies_true, and_true]
    exact ⟨written_hearingText 1 (by decide), written_hearingText 2 (by decide),
      written_hearingText 1 (by decide)⟩
  have hroom : ∀ text ∈ (minuteQueue.board claimedHearings).processing, ∀ m k,
      Message.Reads text m k → (k : ℤ) < 3 → k + 1 < Message.attemptLimit :=
    fun _ _ _ k _ hk => Message.lt_attemptLimit (by omega)
  refine ⟨tidy_claimedHearings, hname, hwritten, hroom, ?_⟩
  apply (expired_returned tidy_claimedHearings hname (Double.ofNat 30) hwritten hroom).mono
  rintro result t ⟨hresult, hbecomes, -⟩
  have hfirst := isExpired_hearingText (show 3 < 10 by decide) (show 1 ∈ [1, 2] by decide)
  have hheld := isExpired_hearingText (show 1 < 10 by decide) (show 2 ∈ [1, 2] by decide)
  have hlast := isExpired_hearingText (show 1 < 10 by decide) (show 1 ∈ [1, 2] by decide)
  have hboard := hbecomes.board
  rw [processing_claimedHearings] at hresult hboard
  rw [hresult, hboard]
  refine ⟨?_, ?_, ?_⟩
  · simp [hfirst, hheld, hlast]
  · simp [Board.swept, hfirst, hheld, hlast]
  · have hagain : Message.turned (Message.again? 3) [hearingText 1 3, hearingText 1 1]
        = [hearingText 1 2] := by
      rw [Message.turned_cons (decode_hearingText 1 (by decide)),
        Message.turned_cons (decode_hearingText 1 (by decide))]
      rfl
    have hnone : (minuteQueue.board claimedHearings).pending = [] := rfl
    simp [Board.swept, hfirst, hheld, hlast, hagain, hnone]

end Queue

end CaseWorkflow
