import CaseWorkflow.Proofs.Attempt
import CaseWorkflow.Proofs.Queue.Board
import CaseWorkflow.Queue.Basic
import Mathlib.Data.List.TakeWhile
import Mathlib.Tactic

/-!
# The store as a queue uses it

A queue keeps its messages under four keys, and sets marks under other ones.  As long as
the four keys hold nothing but what the queue puts there, its commands are not refused
for what they hold, and each does to the four places what its name says.
-/

namespace CaseWorkflow

namespace Text

/-- The text has an encoding. -/
def Whole (s : String) : Prop := ∀ c ∈ s.toList, isHalf c = false

instance (s : String) : Decidable (Whole s) := List.decidableBAll (isHalf · = false) s.toList

theorem Whole.append {s t : String} (hs : Whole s) (ht : Whole t) : Whole (s ++ t) := by
  intro c hc
  rw [String.toList_append, List.mem_append] at hc
  exact hc.elim (hs c) (ht c)

theorem Whole.of_append {s t : String} (h : Whole (s ++ t)) : Whole s := by
  intro c hc
  exact h c (by rw [String.toList_append]; exact List.mem_append_left _ hc)

theorem unencodable?_of_whole {s : String} (h : Whole s) : unencodable? s.toList = none :=
  unencodable?_eq_none h

theorem whole_of_unencodable? {s : String} (h : unencodable? s.toList = none) : Whole s := by
  intro c hc
  by_contra hhalf
  have hdrop : s.toList.dropWhile (!isHalf ·) ≠ [] := by
    intro hnil
    have hall := List.dropWhile_eq_nil_iff.mp hnil c hc
    exact hhalf (by simpa using hall)
  unfold unencodable? refusedHalves? at h
  split at h
  next hnil => exact hdrop hnil
  next => cases h

end Text

namespace Queue

variable {q : Queue} {b t : Broker} {key : String}

/-! ## Keys -/

/-- The keys of the lists of a queue. -/
def listKeys (q : Queue) : List String := [q.pending, q.processing, q.dead]

/-- The keys under which a queue keeps its messages. -/
def placeKeys (q : Queue) : List String := q.delayed :: q.listKeys

/-- What the keys of the places add to the name of their queue. -/
def placeWords : List String := [":delayed", "", ":processing", ":dlq"]

theorem placeKeys_eq (q : Queue) : q.placeKeys = placeWords.map (q.name ++ ·) := by
  simp [placeKeys, listKeys, placeWords, delayed, pending, processing, dead]

theorem nodup_placeKeys (q : Queue) : q.placeKeys.Nodup := by
  rw [placeKeys_eq]
  exact List.Nodup.map (fun _ _ h => (String.append_right_inj q.name).mp h) (by decide)

theorem append_mem_placeKeys {suffix : String} :
    q.name ++ suffix ∈ q.placeKeys ↔ suffix ∈ placeWords := by
  rw [placeKeys_eq, List.mem_map]
  constructor
  · rintro ⟨word, hword, heq⟩
    exact (String.append_right_inj q.name).mp heq ▸ hword
  · exact fun h => ⟨suffix, h, rfl⟩

theorem mem_placeKeys_of_mem_listKeys (h : key ∈ q.listKeys) : key ∈ q.placeKeys :=
  List.mem_cons_of_mem _ h

theorem append_not_mem_placeKeys {opening rest : String}
    (h : ∀ word ∈ placeWords, ¬opening.toList <+: word.toList) :
    q.name ++ opening ++ rest ∉ q.placeKeys := by
  rw [String.append_assoc, append_mem_placeKeys]
  intro hmem
  apply h _ hmem
  rw [String.toList_append]
  exact List.prefix_append _ _

theorem lease_not_mem_placeKeys (q : Queue) (id : Value) : q.lease id ∉ q.placeKeys :=
  append_not_mem_placeKeys (by decide)

theorem guardOf_not_mem_placeKeys (q : Queue) (id : String) : q.guardOf id ∉ q.placeKeys :=
  append_not_mem_placeKeys (by decide)

theorem whole_of_mem_placeKeys (hname : Text.Whole q.name) (h : key ∈ q.placeKeys) :
    Text.Whole key := by
  rw [placeKeys_eq, List.mem_map] at h
  obtain ⟨word, hword, rfl⟩ := h
  have hwords : ∀ word ∈ placeWords, Text.Whole word := by decide
  exact hname.append (hwords word hword)

theorem whole_name_of_mem_placeKeys (h : key ∈ q.placeKeys) (hkey : Text.Whole key) :
    Text.Whole q.name := by
  rw [placeKeys_eq, List.mem_map] at h
  obtain ⟨word, -, rfl⟩ := h
  exact hkey.of_append

/-! ## The four places -/

def board (q : Queue) (b : Broker) : Board where
  pending := b.list q.pending
  processing := b.list q.processing
  delayed := b.schedule q.delayed
  dead := b.list q.dead

/-- The store answers, and the keys of the queue hold what belongs there. -/
structure Tidy (q : Queue) (b : Broker) : Prop where
  up : b.connection = .up
  list : b.list q.delayed = []
  schedule : ∀ key ∈ q.listKeys, b.schedule key = []
  mark : ∀ key ∈ q.placeKeys, b.marks.lookup key = none

theorem tidy_empty (q : Queue) : q.Tidy Broker.empty :=
  ⟨rfl, rfl, fun _ _ => rfl, fun _ _ => rfl⟩

/-- The second store comes from the first one, and these are its places. -/
structure Becomes (q : Queue) (b t : Broker) (places : Board) : Prop where
  tidy : q.Tidy t
  board : q.board t = places
  issued : t.issued = b.issued

/-- The second store is the first one but for other keys. -/
abbrev Untouched (q : Queue) (b t : Broker) : Prop := q.Becomes b t (q.board b)

theorem Tidy.untouched (h : q.Tidy b) : q.Untouched b b := ⟨h, rfl, rfl⟩

theorem Becomes.trans {u : Broker} {places places' : Board} (h : q.Becomes b t places)
    (h' : q.Becomes t u places') : q.Becomes b u places' :=
  ⟨h'.tidy, h'.board, h'.issued.trans h.issued⟩

theorem Becomes.untouched {u : Broker} {places : Board} (h : q.Becomes b t places)
    (h' : q.Untouched t u) : q.Becomes b u places :=
  ⟨h'.tidy, h'.board.trans h.board, h'.issued.trans h.issued⟩

end Queue

namespace Broker

variable {b : Broker} {key other : String}

theorem list_without (h : other ≠ key) : (b.without key).list other = b.list other := by
  simp [list, without, Table.lookup_erase, h]

theorem schedule_without (h : other ≠ key) :
    (b.without key).schedule other = b.schedule other := by
  simp [schedule, without, Table.lookup_erase, h]

theorem lookup_marks_without (h : other ≠ key) :
    (b.without key).marks.lookup other = b.marks.lookup other := by
  simp [without, Table.lookup_erase, h]

end Broker

namespace Queue

variable {q : Queue} {b t : Broker} {key : String}

theorem mem_placeKeys_iff : key ∈ q.placeKeys ↔
    key = q.delayed ∨ key = q.pending ∨ key = q.processing ∨ key = q.dead := by
  simp [placeKeys, listKeys]

/-- What differs under another key only is untouched. -/
theorem Tidy.untouched_of_eq (h : q.Tidy b) (hup : t.connection = b.connection)
    (hissued : t.issued = b.issued)
    (hlist : ∀ key ∈ q.placeKeys, t.list key = b.list key)
    (hschedule : ∀ key ∈ q.placeKeys, t.schedule key = b.schedule key)
    (hmark : ∀ key ∈ q.placeKeys, b.marks.lookup key = none → t.marks.lookup key = none) :
    q.Untouched b t := by
  have hdelayed : q.delayed ∈ q.placeKeys := mem_placeKeys_iff.mpr (by simp)
  have hpending : q.pending ∈ q.placeKeys := mem_placeKeys_iff.mpr (by simp)
  have hprocessing : q.processing ∈ q.placeKeys := mem_placeKeys_iff.mpr (by simp)
  have hdead : q.dead ∈ q.placeKeys := mem_placeKeys_iff.mpr (by simp)
  refine ⟨⟨hup.trans h.up, (hlist _ hdelayed).trans h.list, fun key hkey => ?_, fun key hkey => ?_⟩,
    ?_, hissued⟩
  · exact (hschedule key (mem_placeKeys_of_mem_listKeys hkey)).trans (h.schedule key hkey)
  · exact hmark key hkey (h.mark key hkey)
  · simp only [board, hlist _ hpending, hlist _ hprocessing, hlist _ hdead, hschedule _ hdelayed]

theorem Tidy.without (h : q.Tidy b) (hkey : key ∉ q.placeKeys) :
    q.Untouched b (b.without key) := by
  have hne : ∀ place ∈ q.placeKeys, place ≠ key := fun place hplace heq => hkey (heq ▸ hplace)
  apply h.untouched_of_eq (t := b.without key) rfl rfl
  · exact fun place hplace => Broker.list_without (hne place hplace)
  · exact fun place hplace => Broker.schedule_without (hne place hplace)
  · exact fun place hplace hmark => (Broker.lookup_marks_without (hne place hplace)).trans hmark

theorem Tidy.withMark (h : q.Tidy b) (hkey : key ∉ q.placeKeys) (stop : Double) :
    q.Untouched b (b.withMark key stop) := by
  have hne : ∀ place ∈ q.placeKeys, place ≠ key := fun place hplace heq => hkey (heq ▸ hplace)
  apply h.untouched_of_eq (t := b.withMark key stop) rfl rfl
  · exact fun place hplace => Broker.list_without (hne place hplace)
  · exact fun place hplace => Broker.schedule_without (hne place hplace)
  · intro place hplace hmark
    rw [Broker.lookup_marks_withMark, if_neg (hne place hplace), hmark]

theorem Tidy.refreshed (h : q.Tidy b) (now : Double) (key : String) :
    q.Untouched b (b.refreshed now key) := by
  unfold Broker.refreshed
  split
  next =>
    apply h.untouched_of_eq (t := { b with marks := b.marks.erase key }) rfl rfl
      (fun _ _ => rfl) (fun _ _ => rfl)
    intro place _ hmark
    rw [Table.lookup_erase, hmark, ite_self]
  next => exact h.untouched

/-- A key of a place is never cleared of a mark. -/
theorem Tidy.refreshed_eq (h : q.Tidy b) (hkey : key ∈ q.placeKeys) (now : Double) :
    b.refreshed now key = b := by
  rw [Broker.refreshed, h.mark key hkey]
  rfl

theorem Tidy.withList (h : q.Tidy b) (hkey : key ∈ q.listKeys) (texts : List String) :
    q.Tidy (b.withList key texts) := by
  have hne : q.delayed ≠ key := by
    have hnodup := (List.nodup_cons.mp q.nodup_placeKeys).1
    exact fun heq => hnodup (heq ▸ hkey)
  refine ⟨h.up, ?_, h.schedule, h.mark⟩
  rw [Broker.list_withList, if_neg hne, h.list]

theorem Tidy.withSchedule (h : q.Tidy b) (schedule : Schedule) :
    q.Tidy (b.withSchedule q.delayed schedule) := by
  refine ⟨h.up, h.list, fun key hkey => ?_, h.mark⟩
  have hne : key ≠ q.delayed := by
    have hnodup := (List.nodup_cons.mp q.nodup_placeKeys).1
    exact fun heq => hnodup (heq ▸ hkey)
  rw [Broker.schedule_withSchedule, if_neg hne, h.schedule key hkey]

theorem Tidy.issue (h : q.Tidy b) (issued : ℕ) : q.Tidy { b with issued } :=
  ⟨h.up, h.list, h.schedule, h.mark⟩

theorem ne_keys (q : Queue) : q.pending ≠ q.processing ∧ q.pending ≠ q.dead ∧
    q.processing ≠ q.dead := by
  have h := (List.nodup_cons.mp q.nodup_placeKeys).2
  simp only [listKeys, List.nodup_cons, List.mem_cons, List.not_mem_nil, or_false, not_or] at h
  exact ⟨h.1.1, h.1.2, h.2.1⟩

theorem board_withList_pending (q : Queue) (b : Broker) (texts : List String) :
    q.board (b.withList q.pending texts) = { q.board b with pending := texts } := by
  obtain ⟨hprocessing, hdead, -⟩ := q.ne_keys
  simp only [board, Broker.list_withList, if_true, if_neg hprocessing.symm, if_neg hdead.symm]
  rfl

theorem board_withList_processing (q : Queue) (b : Broker) (texts : List String) :
    q.board (b.withList q.processing texts) = { q.board b with processing := texts } := by
  obtain ⟨hpending, -, hdead⟩ := q.ne_keys
  simp only [board, Broker.list_withList, if_true, if_neg hpending, if_neg hdead.symm]
  rfl

theorem board_withList_dead (q : Queue) (b : Broker) (texts : List String) :
    q.board (b.withList q.dead texts) = { q.board b with dead := texts } := by
  obtain ⟨-, hpending, hprocessing⟩ := q.ne_keys
  simp only [board, Broker.list_withList, if_true, if_neg hpending, if_neg hprocessing]
  rfl

theorem board_withSchedule (q : Queue) (b : Broker) (schedule : Schedule) :
    q.board (b.withSchedule q.delayed schedule) = { q.board b with delayed := schedule } := by
  simp only [board, Broker.schedule_withSchedule, if_true]
  rfl

/-! ## Commands -/

theorem gives_check {s : String} (h : Text.Whole s) (b : Broker) :
    (Broker.check s).Gives b (.ok ()) b := by
  unfold Broker.check
  rw [Text.unencodable?_of_whole h]
  exact Attempt.gives_pure () b

theorem gives_check_refused {s : String} (h : ¬Text.Whole s) (b : Broker) :
    ∃ fault, (Broker.check s).Gives b (.error fault) b := by
  unfold Broker.check
  cases hflaw : Text.unencodable? s.toList with
  | none => exact absurd (Text.whole_of_unencodable? hflaw) h
  | some flaw => exact ⟨_, Attempt.gives_fail _ b⟩

theorem ask_eq {α : Type} (hup : b.connection = .up) (command : Attempt Broker α) :
    (q.ask command).run b = command.run b := by
  have hget : (Attempt.get.run b).result = .ok b := rfl
  rw [ask, Attempt.run_bind_of_ok hget, Attempt.run_get]
  simp only [hup]
  rfl

theorem Tidy.ask_gives {α : Type} {command : Attempt Broker α} {result : Except Fault α}
    (h : q.Tidy b) (hgives : command.Gives b result t) : (q.ask command).Gives b result t := by
  unfold Attempt.Gives
  rw [ask_eq h.up]
  exact hgives

theorem Tidy.ask_ends {α : Type} {command : Attempt Broker α}
    {Q : Except Fault α → Broker → Prop} (h : q.Tidy b) (hends : command.Ends b Q) :
    (q.ask command).Ends b Q := by
  unfold Attempt.Ends
  rw [ask_eq h.up]
  exact hends

theorem Tidy.gives_look (h : q.Tidy b) (hkey : key ∈ q.placeKeys) (now : Double) {wanted : Holding}
    (hholding : (b.holding? now key).any (· ≠ wanted) = false) :
    (Broker.look now key wanted).Gives b (.ok b) b := by
  unfold Broker.look
  apply Attempt.Gives.bind_ok (Attempt.gives_modify _ b)
  rw [h.refreshed_eq hkey]
  apply Attempt.Gives.bind_ok (Attempt.gives_get b)
  rw [hholding]
  exact Attempt.gives_pure b b

theorem Tidy.gives_look_list (h : q.Tidy b) (hkey : key ∈ q.listKeys) (now : Double) :
    (Broker.look now key .list).Gives b (.ok b) b := by
  have hplace := mem_placeKeys_of_mem_listKeys hkey
  apply h.gives_look hplace
  unfold Broker.holding? Broker.isMarked
  rw [h.schedule key hkey, h.mark key hplace]
  split <;> simp

theorem Tidy.gives_look_delayed (h : q.Tidy b) (now : Double) :
    (Broker.look now q.delayed .schedule).Gives b (.ok b) b := by
  have hplace : q.delayed ∈ q.placeKeys := mem_placeKeys_iff.mpr (by simp)
  apply h.gives_look hplace
  unfold Broker.holding? Broker.isMarked
  rw [h.list, h.mark _ hplace]
  simp only [List.isEmpty_nil, Bool.not_true, Bool.false_eq_true, if_false]
  split <;> simp

theorem Tidy.gives_texts (h : q.Tidy b) (hname : Text.Whole q.name) (hkey : key ∈ q.listKeys)
    (now : Double) : (Broker.texts now key).Gives b (.ok (b.list key)) b := by
  have hwhole := whole_of_mem_placeKeys hname (mem_placeKeys_of_mem_listKeys hkey)
  unfold Broker.texts
  apply Attempt.Gives.bind_ok (gives_check hwhole b)
  apply Attempt.Gives.bind_ok (h.gives_look_list hkey now)
  exact Attempt.gives_pure _ b

theorem Tidy.gives_push (h : q.Tidy b) (hname : Text.Whole q.name) (hkey : key ∈ q.listKeys)
    {text : String} (htext : Text.Whole text) (now : Double) :
    (Broker.push now key text).Gives b (.ok ()) (b.withList key (text :: b.list key)) := by
  have hwhole := whole_of_mem_placeKeys hname (mem_placeKeys_of_mem_listKeys hkey)
  unfold Broker.push
  apply Attempt.Gives.bind_ok (gives_check hwhole b)
  apply Attempt.Gives.bind_ok (gives_check htext b)
  apply Attempt.Gives.bind_ok (h.gives_look_list hkey now)
  exact Attempt.gives_set b _

theorem Tidy.gives_drop (h : q.Tidy b) (hname : Text.Whole q.name) (hkey : key ∈ q.listKeys)
    {text : String} (htext : Text.Whole text) (now : Double) :
    (Broker.drop now key text).Gives b (.ok ()) (b.withList key ((b.list key).erase text)) := by
  have hwhole := whole_of_mem_placeKeys hname (mem_placeKeys_of_mem_listKeys hkey)
  unfold Broker.drop
  apply Attempt.Gives.bind_ok (gives_check hwhole b)
  apply Attempt.Gives.bind_ok (gives_check htext b)
  apply Attempt.Gives.bind_ok (h.gives_look_list hkey now)
  exact Attempt.gives_set b _

theorem Tidy.gives_plan (h : q.Tidy b) (hname : Text.Whole q.name) {text : String}
    (htext : Text.Whole text) (now due : Double) :
    (Broker.plan now q.delayed due text).Gives b (.ok ())
      (b.withSchedule q.delayed
        (Schedule.insert (due, text) ((b.schedule q.delayed).filter (·.2 != text)))) := by
  have hwhole := whole_of_mem_placeKeys hname (q.mem_placeKeys_iff.mpr (.inl rfl))
  unfold Broker.plan
  apply Attempt.Gives.bind_ok (gives_check hwhole b)
  apply Attempt.Gives.bind_ok (gives_check htext b)
  apply Attempt.Gives.bind_ok (h.gives_look_delayed now)
  exact Attempt.gives_set b _

theorem Tidy.becomes_pending (h : q.Tidy b) (texts : List String) :
    q.Becomes b (b.withList q.pending texts) { q.board b with pending := texts } :=
  ⟨h.withList (by simp [listKeys]) texts, board_withList_pending q b texts, rfl⟩

theorem Tidy.becomes_processing (h : q.Tidy b) (texts : List String) :
    q.Becomes b (b.withList q.processing texts) { q.board b with processing := texts } :=
  ⟨h.withList (by simp [listKeys]) texts, board_withList_processing q b texts, rfl⟩

theorem Tidy.becomes_dead (h : q.Tidy b) (texts : List String) :
    q.Becomes b (b.withList q.dead texts) { q.board b with dead := texts } :=
  ⟨h.withList (by simp [listKeys]) texts, board_withList_dead q b texts, rfl⟩

theorem Tidy.becomes_delayed (h : q.Tidy b) (schedule : Schedule) :
    q.Becomes b (b.withSchedule q.delayed schedule) { q.board b with delayed := schedule } :=
  ⟨h.withSchedule schedule, board_withSchedule q b schedule, rfl⟩

theorem Tidy.ends_releaseDue (h : q.Tidy b) (hname : Text.Whole q.name) (now : Double) :
    (Broker.releaseDue now q.delayed q.pending).Ends b fun result t =>
      result = .ok () ∧ q.Becomes b t ((q.board b).released now) := by
  have hplace : q.delayed ∈ q.placeKeys := mem_placeKeys_iff.mpr (by simp)
  have hentries : (Broker.entries now q.delayed).Gives b (.ok (b.schedule q.delayed)) b := by
    unfold Broker.entries
    apply Attempt.Gives.bind_ok (gives_check (whole_of_mem_placeKeys hname hplace) b)
    apply Attempt.Gives.bind_ok (h.gives_look_delayed now)
    exact Attempt.gives_pure _ b
  unfold Broker.releaseDue
  apply Attempt.Ends.bind_ok hentries
  dsimp only
  split
  next =>
    have hrest := h.becomes_delayed ((b.schedule q.delayed).filter (!Schedule.isDue now ·))
    apply Attempt.Ends.bind_ok (Attempt.gives_modify _ b)
    have hpending : q.pending ∈ q.listKeys := by simp [listKeys]
    apply Attempt.Ends.bind_ok (hrest.tidy.gives_look_list hpending now)
    have hpending := hrest.tidy.becomes_pending
      ((((b.schedule q.delayed).filter (Schedule.isDue now)).map Prod.snd).reverse
        ++ b.list q.pending)
    rw [hrest.board] at hpending
    exact (Attempt.gives_set _ _).ends ⟨rfl, hrest.trans hpending⟩
  next hdue =>
    have hnone : (b.schedule q.delayed).filter (Schedule.isDue now) = [] := by simpa using hdue
    have hall : (b.schedule q.delayed).filter (!Schedule.isDue now ·) = b.schedule q.delayed := by
      rw [List.filter_eq_self]
      intro entry hentry
      have hlate := List.filter_eq_nil_iff.mp hnone entry hentry
      simpa using hlate
    have hsame : (q.board b).released now = q.board b := by
      simp only [Board.released, board, hnone, hall, List.map_nil, List.reverse_nil,
        List.nil_append]
    rw [hsame]
    exact (Attempt.gives_pure () b).ends ⟨rfl, h.untouched⟩

theorem Tidy.ends_moveLast (h : q.Tidy b) (hname : Text.Whole q.name) (now : Double) :
    (Broker.moveLast now q.pending q.processing).Ends b fun result t =>
      result = .ok (q.board b).pending.getLast? ∧ q.Becomes b t (q.board b).taken := by
  have hpending : q.pending ∈ q.listKeys := by simp [listKeys]
  have hprocessing : q.processing ∈ q.listKeys := by simp [listKeys]
  have hcheck : ∀ key ∈ q.listKeys, (Broker.check key).Gives b (.ok ()) b := fun key hkey =>
    gives_check (whole_of_mem_placeKeys hname (mem_placeKeys_of_mem_listKeys hkey)) b
  unfold Broker.moveLast Board.taken
  apply Attempt.Ends.bind_ok (hcheck _ hpending)
  apply Attempt.Ends.bind_ok (hcheck _ hprocessing)
  apply Attempt.Ends.bind_ok (h.gives_look_list hpending now)
  rw [show (q.board b).pending = b.list q.pending from rfl]
  cases hlast : (b.list q.pending).getLast? with
  | none => exact (Attempt.gives_pure none b).ends ⟨rfl, h.untouched⟩
  | some text =>
      apply Attempt.Ends.bind_ok (h.gives_look_list hprocessing now)
      apply Attempt.Ends.bind_ok (Attempt.gives_set b _)
      have hrest := h.becomes_pending (b.list q.pending).dropLast
      have hhead := hrest.tidy.becomes_processing
        (text :: (b.withList q.pending (b.list q.pending).dropLast).list q.processing)
      rw [hrest.board] at hhead
      refine (Attempt.gives_pure (some text) _).ends ⟨rfl, ?_⟩
      have hother := Broker.list_withList b q.pending q.processing (b.list q.pending).dropLast
      rw [if_neg q.ne_keys.1.symm] at hother
      rw [hother] at hhead
      exact (hrest.trans (hother ▸ hhead))

/-! ## Commands for other keys -/

/-- After the check of its key, a command is looked at on its own. -/
theorem ends_after_check {α : Type} (s : String) {next : Unit → Attempt Broker α}
    {Q : Except Fault α → Broker → Prop} (herror : ∀ fault, Q (.error fault) b)
    (hok : (next ()).Ends b Q) : (Broker.check s >>= next).Ends b Q := by
  by_cases hwhole : Text.Whole s
  · exact Attempt.Ends.bind_ok (gives_check hwhole b) hok
  · obtain ⟨fault, hrefused⟩ := gives_check_refused hwhole b
    exact Attempt.Ends.bind_error hrefused (herror fault)

theorem Tidy.ends_delete (h : q.Tidy b) (hkey : key ∉ q.placeKeys) (hwhole : Text.Whole key) :
    (Broker.delete key).Ends b fun result t => result = .ok () ∧ q.Untouched b t := by
  unfold Broker.delete
  apply Attempt.Ends.bind_ok (gives_check hwhole b)
  exact (Attempt.gives_modify _ b).ends ⟨rfl, h.without hkey⟩

theorem Tidy.ends_holds (h : q.Tidy b) (now : Double) :
    (Broker.holds now key).Ends b fun _ t => q.Untouched b t := by
  unfold Broker.holds
  apply ends_after_check _ (fun _ => h.untouched)
  apply Attempt.Ends.bind_ok (Attempt.gives_modify _ b)
  apply Attempt.Ends.bind_ok (Attempt.gives_get _)
  exact (Attempt.gives_pure _ _).ends (h.refreshed now key)

theorem Tidy.ends_mark (h : q.Tidy b) (hkey : key ∉ q.placeKeys) (now : Double) (seconds : ℤ) :
    (Broker.mark now key seconds).Ends b fun _ t => q.Untouched b t := by
  unfold Broker.mark
  apply ends_after_check _ (fun _ => h.untouched)
  cases hstop : markEnd now seconds with
  | error fault => exact Attempt.Ends.bind_error (Attempt.gives_ofExcept _ b) h.untouched
  | ok stop =>
      apply Attempt.Ends.bind_ok (Attempt.gives_ofExcept _ b)
      exact (Attempt.gives_modify _ b).ends (h.withMark hkey stop)

theorem Tidy.ends_markFree (h : q.Tidy b) (hkey : key ∉ q.placeKeys) (now : Double)
    (seconds : ℤ) :
    (Broker.markFree now key seconds).Ends b fun _ t => q.Untouched b t := by
  unfold Broker.markFree
  apply ends_after_check _ (fun _ => h.untouched)
  cases hstop : markEnd now seconds with
  | error fault => exact Attempt.Ends.bind_error (Attempt.gives_ofExcept _ b) h.untouched
  | ok stop =>
      have hrefreshed := h.refreshed now key
      apply Attempt.Ends.bind_ok (Attempt.gives_ofExcept _ b)
      apply Attempt.Ends.bind_ok (Attempt.gives_modify _ b)
      apply Attempt.Ends.bind_ok (Attempt.gives_get _)
      split
      next => exact (Attempt.gives_pure false _).ends hrefreshed
      next =>
        apply Attempt.Ends.bind_ok (Attempt.gives_set _ _)
        exact (Attempt.gives_pure true _).ends
          (hrefreshed.untouched (hrefreshed.tidy.withMark hkey stop))

end Queue

end CaseWorkflow
