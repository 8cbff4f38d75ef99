import CaseWorkflow.Proofs.Worker.Settling
import CaseWorkflow.Worker.Loop

/-!
# A worker gets to the end of its row

A message whose handling failed joins the pending ones again, so that a call need not shorten the
row.  What each call lowers is how often the pending messages can still be taken, and each call
keeps for every id how often it is pending, dead or was handled.
-/

namespace CaseWorkflow

open Attempt

namespace Message

variable {m : Message} {text : String} {k l : ℕ}

/-- The id of the message in a text. -/
def idOf (text : String) : Option String := (decode text).toOption.bind (·.id.text?)

namespace Reads

theorem idOf_eq (h : Reads text m k) : idOf text = m.id.text? := by
  rw [idOf, h.read]
  rfl

variable (h : Reads text m k)
include h

/-- For another attempt the message is written again, and read back with its id. -/
theorem again (hl : l < attemptLimit) (reason : Option String) :
    ∃ next, Reads { m with attempt := .int l, reason := reasonValue reason }.encode next l ∧
      Written { m with attempt := .int l, reason := reasonValue reason }.encode ∧
      idOf { m with attempt := .int l, reason := reasonValue reason }.encode = idOf text := by
  obtain ⟨id, hid⟩ := h.id
  have hwrite := h.writes l reason hl
  obtain ⟨next, hreads, hnext⟩ := exists_reads_encode hwrite hid rfl rfl
  refine ⟨next, hreads, ⟨_, id, l, reason, hwrite, hid, rfl, rfl⟩, ?_⟩
  rw [hreads.idOf_eq, hnext, h.idOf_eq]

theorem again_dead (reason : String) :
    Written { m with reason := .text reason }.encode ∧
      idOf { m with reason := .text reason }.encode = idOf text := by
  obtain ⟨next, -, hwritten, hid⟩ := h.again h.small (some reason)
  rw [← h.attempt] at hwritten hid
  exact ⟨hwritten, hid⟩

theorem again_next (hk : k + 1 < attemptLimit) :
    ∃ next, Reads { m with attempt := .int (k + 1 : ℕ) }.encode next (k + 1) ∧
      Written { m with attempt := .int (k + 1 : ℕ) }.encode ∧
      idOf { m with attempt := .int (k + 1 : ℕ) }.encode = idOf text := by
  obtain ⟨reason, hreason⟩ := h.reason
  have hagain := h.again hk reason
  rw [← hreason] at hagain
  exact hagain

end Reads

end Message

/-! ## How often messages can be taken -/

theorem Station.one_le_deliveries (maxAttempts : ℤ) (text : String) :
    1 ≤ deliveries maxAttempts text := by
  unfold deliveries
  split
  next => exact le_rfl
  next message _ =>
    split
    next attempt _ => omega
    next attempt _ =>
      cases attempt.round? with
      | none => exact le_rfl
      | some attempt =>
          rw [Option.map_some, Option.getD_some]
          omega
    next => exact le_rfl

theorem Station.deliveries_eq {text : String} {m : Message} {k : ℕ} (h : Message.Reads text m k)
    (limit : ℤ) : deliveries limit text = (max 1 (limit - k + 1)).toNat := by
  unfold deliveries
  rw [h.read]
  dsimp only
  rw [h.attempt]
  rfl

namespace Board

variable {limit : ℤ} {places next : Board} {rest : List String} {text : String}
  {handled? : Option String} {handled : List String} {calls : ℕ}

/-- How often the pending messages can be taken. -/
def allowance (limit : ℤ) (places : Board) : ℕ :=
  (places.pending.map (Station.deliveries limit)).sum

theorem length_pending_le_allowance (limit : ℤ) (places : Board) :
    places.pending.length ≤ places.allowance limit := by
  have hone : ∀ count ∈ places.pending.map (Station.deliveries limit), 1 ≤ count := by
    simp [Station.one_le_deliveries]
  simpa [allowance] using List.length_le_sum_of_one_le _ hone

theorem pending_eq_nil_iff (limit : ℤ) : places.pending = [] ↔ places.allowance limit = 0 := by
  constructor
  · intro hempty
    simp [allowance, hempty]
  · intro hzero
    have hlength := places.length_pending_le_allowance limit
    exact List.eq_nil_of_length_eq_zero (by omega)

@[simp] theorem allowance_buried (text : String) (places : Board) :
    (places.buried text).allowance limit = places.allowance limit := rfl

@[simp] theorem allowance_queued (text : String) (places : Board) :
    (places.queued text).allowance limit
      = Station.deliveries limit text + places.allowance limit := rfl

theorem allowance_of_taken (htaken : places.pending = rest ++ [text]) :
    places.allowance limit
      = { places with pending := rest }.allowance limit + Station.deliveries limit text := by
  simp [allowance, htaken]

/-! ## One call -/

/-- How often an id is pending or dead. -/
def tally (id : Option String) (places : Board) : ℕ :=
  (places.pending.map Message.idOf).count id + (places.dead.map Message.idOf).count id

@[simp] theorem tally_buried (text : String) (places : Board) (id : Option String) :
    (places.buried text).tally id = places.tally id + [Message.idOf text].count id := by
  simp only [tally, buried, List.map_cons, List.count_cons, List.count_nil]
  omega

@[simp] theorem tally_queued (text : String) (places : Board) (id : Option String) :
    (places.queued text).tally id = places.tally id + [Message.idOf text].count id := by
  simp only [tally, queued, List.map_cons, List.count_cons, List.count_nil]
  omega

theorem tally_of_taken (htaken : places.pending = rest ++ [text]) (id : Option String) :
    places.tally id
      = { places with pending := rest }.tally id + [Message.idOf text].count id := by
  simp only [tally, htaken, List.map_append, List.count_append, List.map_singleton]
  omega

theorem texts_of_taken (htaken : places.pending = rest ++ [text]) :
    places.texts.Perm (text :: { places with pending := rest }.texts) := by
  simp only [texts, waiting, htaken, List.append_assoc, List.singleton_append]
  exact List.perm_middle

/-- What a call leaves of the places, and the text whose message it handled. -/
inductive Worked (limit : ℤ) (places : Board) : Option String → Board → Prop
  | idle (hempty : places.pending = []) : Worked limit places none places
  | handled {rest : List String} {text : String} (htaken : places.pending = rest ++ [text]) :
      Worked limit places (some text) { places with pending := rest }
  | buried {rest : List String} {text dead : String} (htaken : places.pending = rest ++ [text])
      (hwritten : Message.Written dead) (hid : Message.idOf dead = Message.idOf text) :
      Worked limit places none ({ places with pending := rest }.buried dead)
  | queued {rest : List String} {text again : String} (htaken : places.pending = rest ++ [text])
      (hwritten : Message.Written again) (hid : Message.idOf again = Message.idOf text)
      (hless : Station.deliveries limit again < Station.deliveries limit text) :
      Worked limit places none ({ places with pending := rest }.queued again)

namespace Worked

variable (h : places.Worked limit handled? next)
include h

theorem processing_eq : next.processing = places.processing := by
  cases h <;> rfl

theorem delayed_eq : next.delayed = places.delayed := by
  cases h <;> rfl

/-- A call uses up one of the times that a message can be taken. -/
theorem allowance_le : next.allowance limit ≤ places.allowance limit - 1 := by
  cases h with
  | idle hempty => simp [allowance, hempty]
  | @handled rest text htaken =>
      have hone := Station.one_le_deliveries limit text
      rw [allowance_of_taken htaken]
      omega
  | @buried rest text dead htaken =>
      have hone := Station.one_le_deliveries limit text
      rw [allowance_of_taken htaken, allowance_buried]
      omega
  | queued htaken _ _ hless =>
      rw [allowance_of_taken htaken, allowance_queued]
      omega

/-- No id is lost, and none is doubled. -/
theorem tally_eq (id : Option String) :
    next.tally id + (handled?.toList.map Message.idOf).count id = places.tally id := by
  cases h with
  | idle => rfl
  | handled htaken => exact (tally_of_taken htaken id).symm
  | buried htaken _ hid =>
      rw [tally_of_taken htaken, tally_buried, hid]
      rfl
  | queued htaken _ hid =>
      rw [tally_of_taken htaken, tally_queued, hid]
      rfl

theorem written (hwritten : ∀ text ∈ places.texts, Message.Written text) :
    ∀ text ∈ next.texts, Message.Written text := by
  have hothers : ∀ {rest text}, places.pending = rest ++ [text] →
      ∀ other ∈ { places with pending := rest }.texts, Message.Written other :=
    fun htaken other hother =>
      hwritten other ((texts_of_taken htaken).mem_iff.mpr (List.mem_cons_of_mem _ hother))
  intro other hother
  cases h with
  | idle => exact hwritten other hother
  | handled htaken => exact hothers htaken other hother
  | buried htaken hdead =>
      rcases List.mem_cons.mp ((texts_buried _ _).mem_iff.mp hother) with rfl | hother
      · exact hdead
      · exact hothers htaken other hother
  | queued htaken hagain =>
      rcases List.mem_cons.mp hother with rfl | hother
      · exact hagain
      · exact hothers htaken other hother

/-- Where nothing was due, nothing is due behind the call. -/
theorem released_eq {now : Double} (hnone : places.released now = places) :
    next.released now = next := by
  rw [released_eq_self_iff, h.delayed_eq]
  exact released_eq_self_iff.mp hnone

end Worked

/-- What so many calls leave of the places, and the texts whose messages they handled. -/
structure WornDown (limit : ℤ) (places : Board) (calls : ℕ) (handled : List String)
    (next : Board) : Prop where
  processing : next.processing = places.processing
  delayed : next.delayed = places.delayed
  allowance : next.allowance limit ≤ places.allowance limit - calls
  tally : ∀ id, next.tally id + (handled.map Message.idOf).count id = places.tally id

theorem wornDown_nil (limit : ℤ) (places : Board) : places.WornDown limit 0 [] places :=
  ⟨rfl, rfl, le_rfl, fun _ => rfl⟩

theorem Worked.wornDown {last : Board} (h : places.Worked limit handled? next)
    (hrest : next.WornDown limit calls handled last) :
    places.WornDown limit (calls + 1) (handled?.toList ++ handled) last := by
  refine ⟨hrest.processing.trans h.processing_eq, hrest.delayed.trans h.delayed_eq, ?_, ?_⟩
  · have hcall := h.allowance_le
    have hcalls := hrest.allowance
    omega
  · intro id
    have hcall := h.tally_eq id
    have hcalls := hrest.tally id
    rw [List.map_append, List.count_append]
    omega

/-- Where the ids are distinct, that of a pending message is pending once and not dead. -/
theorem tally_of_mem_pending (hdistinct : (places.texts.map Message.idOf).Nodup)
    (htext : text ∈ places.pending) : places.tally (Message.idOf text) = 1 := by
  have hmem := List.mem_map_of_mem (f := Message.idOf) htext
  rw [texts, waiting] at hdistinct
  simp only [List.map_append] at hdistinct
  have hpending := List.count_eq_one_of_mem (hdistinct.of_append_left.of_append_left.of_append_left)
    hmem
  have hdead := List.count_eq_zero.mpr fun hdead =>
    List.disjoint_of_nodup_append hdistinct
      (List.mem_append_left _ (List.mem_append_left _ hmem)) hdead
  rw [tally, hpending, hdead]

/-- The message of the text was handled once or is dead once, and not both. -/
def Closed (places : Board) (handled : List String) (text : String) : Prop :=
  ((handled.map Message.idOf).count (Message.idOf text) = 1 ∧
      Message.idOf text ∉ places.dead.map Message.idOf) ∨
    (Message.idOf text ∉ handled.map Message.idOf ∧
      (places.dead.map Message.idOf).count (Message.idOf text) = 1)

theorem closed_of_tally (hempty : places.pending = [])
    (htally : places.tally (Message.idOf text)
      + (handled.map Message.idOf).count (Message.idOf text) = 1) :
    places.Closed handled text := by
  rw [tally, hempty, List.map_nil, List.count_nil] at htally
  rw [Closed, ← List.count_eq_zero, ← List.count_eq_zero]
  omega

end Board

namespace Station

variable {s t : Station} {q : Queue} {clock : Clock} {run : Runner} {places : Board}
  {text : String} {m : Message} {k : ℕ} {limit : ℤ}

/-- A call of a worker: how the registry runs events, and what the clock shows. -/
structure Round where
  run : Runner
  clock : Clock

/-- A call, and the text of the message that it handled. -/
def processNoting (round : Round) : Attempt Station (Option String) := do
  let s ← Attempt.get
  let progress ← processWith round.run round.clock
  return if progress = .handled then (s.worker.queue.board s.broker).next? round.clock.seconds
    else none

/-- One call after the other, and the texts of the messages that they handled. -/
def processAll : List Round → Attempt Station (List String)
  | [] => return []
  | round :: rest => do
    let handled? ← processNoting round
    return handled?.toList ++ (← processAll rest)

/-- The worker goes on with the same queue and the same limit. -/
structure Continues (q : Queue) (s t : Station) : Prop where
  queue : t.worker.queue = s.worker.queue
  limit : t.worker.maxAttempts = s.worker.maxAttempts
  tidy : q.Tidy t.broker

theorem Ready.stays (h : s.Ready q clock) (hnext : Continues q s t)
    (hwritten : ∀ text ∈ (q.board t.broker).texts, Message.Written text) : t.Ready q clock where
  queue := hnext.queue.trans h.queue
  name := h.name
  tidy := hnext.tidy
  written := hwritten
  lease := h.lease
  moment := h.moment
  limit := hnext.limit ▸ h.limit

theorem Takes.pending_eq (h : Takes q clock s.broker text m k) :
    ((q.board s.broker).released clock.seconds).pending
      = ((q.board s.broker).released clock.seconds).pending.dropLast ++ [text] :=
  (List.dropLast_append_getLast? text h.1).symm

/-- A message that failed is dead, or has one attempt less. -/
theorem worked_returned (hreads : Message.Reads text m k) (hlimit : limit < Message.attemptLimit)
    {rest : List String} (htaken : places.pending = rest ++ [text]) :
    places.Worked limit none ({ places with pending := rest }.returned limit m k) := by
  unfold Board.returned
  split
  next =>
    obtain ⟨hwritten, hid⟩ := hreads.again_dead "max_attempts_exceeded"
    exact .buried htaken hwritten hid
  next hleft =>
    obtain ⟨next, hnext, hwritten, hid⟩ := hreads.again_next (by omega)
    refine .queued htaken hwritten hid ?_
    rw [deliveries_eq hnext, deliveries_eq hreads]
    omega

theorem Processed.worked {progress : Progress} (h : Processed q run clock s (.ok progress) t)
    (hlimit : s.worker.maxAttempts < Message.attemptLimit) :
    Continues q s t ∧
      ((q.board s.broker).released clock.seconds).Worked s.worker.maxAttempts
        (if progress = .handled then (q.board s.broker).next? clock.seconds else none)
        (q.board t.broker) := by
  cases h with
  | idle hnone hplaces =>
      refine ⟨⟨rfl, rfl, hplaces.tidy⟩, ?_⟩
      have hboard := hplaces.board
      dsimp only
      rw [hboard]
      exact .idle (List.getLast?_eq_none_iff.mp hnone)
  | skipped htakes _ hsettled =>
      obtain ⟨hwritten, hid⟩ := htakes.2.again_dead "invalid_event"
      refine ⟨⟨rfl, rfl, hsettled.becomes.tidy⟩, ?_⟩
      have hboard := hsettled.becomes.board
      dsimp only
      rw [hboard]
      exact .buried htakes.pending_eq hwritten hid
  | handled htakes _ hsettled =>
      refine ⟨⟨rfl, rfl, hsettled.becomes.tidy⟩, ?_⟩
      have hboard := hsettled.becomes.board
      dsimp only
      rw [hboard, if_pos rfl, htakes.1]
      exact .handled htakes.pending_eq
  | failed htakes _ _ hsettled =>
      refine ⟨⟨rfl, rfl, hsettled.becomes.tidy⟩, ?_⟩
      have hboard := hsettled.becomes.board
      dsimp only
      rw [hboard]
      exact worked_returned htakes.2 hlimit htakes.pending_eq

/-! ## One call after the other -/

/-- In this call the worker can settle what it claims, no message is due, and the registry is not
cancelled. -/
structure Undisturbed (q : Queue) (s : Station) (round : Round) : Prop where
  ready : s.Ready q round.clock
  notDue : ∀ entry ∈ (q.board s.broker).delayed, Schedule.isDue round.clock.seconds entry = false
  ends : ∀ event desk, ((round.run event).run desk).result ≠ .error .cancelled

theorem Undisturbed.ends_processNoting {round : Round} (h : Undisturbed q s round) :
    (processNoting round).Ends s fun result t => ∃ handled?, result = .ok handled? ∧
      Continues q s t ∧
      (q.board s.broker).Worked s.worker.maxAttempts handled? (q.board t.broker) := by
  have hreleased := Board.released_eq_self_iff.mpr h.notDue
  unfold processNoting
  apply Ends.bind_ok (gives_get s)
  apply (h.ready.ends_processed round.run).bind
  · intro fault t hprocessed
    obtain ⟨progress, hprogress⟩ := hprocessed.exists_ok h.ends
    cases hprogress
  · intro progress t hprocessed
    obtain ⟨hcontinues, hworked⟩ := hprocessed.worked h.ready.limit
    rw [hreleased] at hworked
    rw [h.ready.queue]
    exact (gives_pure _ t).ends ⟨_, rfl, hcontinues, hworked⟩

/-- What disturbs no call now disturbs none after a call. -/
theorem Undisturbed.stays {round : Round} {handled? : Option String} (h : Undisturbed q s round)
    (hcontinues : Continues q s t)
    (hworked : (q.board s.broker).Worked limit handled? (q.board t.broker)) :
    Undisturbed q t round where
  ready := h.ready.stays hcontinues (hworked.written h.ready.written)
  notDue := by
    rw [hworked.delayed_eq]
    exact h.notDue
  ends := h.ends

theorem ends_processAll {rounds : List Round} (h : ∀ round ∈ rounds, Undisturbed q s round) :
    (processAll rounds).Ends s fun result t => ∃ handled, result = .ok handled ∧
      (q.board s.broker).WornDown s.worker.maxAttempts rounds.length handled
        (q.board t.broker) := by
  induction rounds generalizing s with
  | nil => exact (gives_pure [] s).ends ⟨[], rfl, Board.wornDown_nil _ _⟩
  | cons round rest ih =>
      unfold processAll
      apply (h round List.mem_cons_self).ends_processNoting.bind
      · rintro fault t ⟨handled?, heq, -⟩
        cases heq
      rintro _ t ⟨handled?, heq, hcontinues, hworked⟩
      obtain rfl := Except.ok.inj heq
      have hrest : ∀ other ∈ rest, Undisturbed q t other := fun other hother =>
        (h other (List.mem_cons_of_mem _ hother)).stays hcontinues hworked
      apply (ih hrest).bind
      · rintro fault u ⟨handled, heq, -⟩
        cases heq
      rintro _ u ⟨handled, heq, hworn⟩
      obtain rfl := Except.ok.inj heq
      rw [hcontinues.limit] at hworn
      exact (gives_pure _ u).ends ⟨_, rfl, hworked.wornDown hworn⟩

/-! ## The main loop -/

/-- The workload of a worker allows for all that is pending or due. -/
theorem allowance_released_le_workload (s : Station) (now : Double) :
    ((s.worker.queue.board s.broker).released now).allowance s.worker.maxAttempts
      ≤ s.workload := by
  have hwork : s.workload = ((s.worker.queue.board s.broker).waiting.map
      (deliveries s.worker.maxAttempts)).sum := by
    rw [List.sum_eq_foldl, List.foldl_map]
    rfl
  have hperm := (Board.waiting_released now (s.worker.queue.board s.broker)).map
    (deliveries s.worker.maxAttempts)
  rw [hwork, ← hperm.sum_eq, Board.waiting, List.map_append, List.sum_append]
  exact Nat.le_add_right _ _

/-- What a call comes to: it finds nothing to take, or it uses up some of the allowance. -/
structure Wears (q : Queue) (clock : Clock) (s : Station) (result : Except Fault Progress)
    (t : Station) : Prop where
  ready : t.Ready q clock
  limit : t.worker.maxAttempts = s.worker.maxAttempts
  less : (result = .ok .idle ∧ (q.board t.broker).next? clock.seconds = none) ∨
    (result ≠ .ok .idle ∧
      ((q.board t.broker).released clock.seconds).allowance s.worker.maxAttempts
        < ((q.board s.broker).released clock.seconds).allowance s.worker.maxAttempts)

theorem Processed.idle_iff {result : Except Fault Progress}
    (h : Processed q run clock s result t) :
    result = .ok .idle ↔ ((q.board s.broker).released clock.seconds).pending = [] := by
  cases h with
  | idle hnone => exact iff_of_true rfl (List.getLast?_eq_none_iff.mp hnone)
  | skipped htakes | handled htakes | failed htakes | cancelled htakes =>
      have hpending := htakes.pending_eq
      exact iff_of_false (by simp) fun hempty => by simp [hempty] at hpending

theorem Ready.wears (h : s.Ready q clock) {progress : Progress}
    (hprocessed : Processed q run clock s (.ok progress) t) : Wears q clock s (.ok progress) t := by
  obtain ⟨hcontinues, hworked⟩ := hprocessed.worked h.limit
  have hwritten : ∀ text ∈ ((q.board s.broker).released clock.seconds).texts,
      Message.Written text := fun text htext =>
    h.written text ((Board.texts_released _ _).mem_iff.mp htext)
  refine ⟨h.stays hcontinues (hworked.written hwritten), hcontinues.limit, ?_⟩
  have hreleased := hworked.released_eq (Board.released_released _ _)
  have hleft := hworked.allowance_le
  by_cases hidle : ((q.board s.broker).released clock.seconds).pending = []
  · refine .inl ⟨hprocessed.idle_iff.mpr hidle, ?_⟩
    rw [Board.pending_eq_nil_iff s.worker.maxAttempts] at hidle
    rw [Board.next?, hreleased, List.getLast?_eq_none_iff,
      Board.pending_eq_nil_iff s.worker.maxAttempts]
    omega
  · refine .inr ⟨fun heq => hidle (hprocessed.idle_iff.mp heq), ?_⟩
    rw [Board.pending_eq_nil_iff s.worker.maxAttempts] at hidle
    rw [hreleased]
    omega

/-- Even a call that is cancelled takes a text away from the pending ones. -/
theorem Ready.wears_cancelled (h : s.Ready q clock) {b : Broker} {after : Desk}
    (htakes : Takes q clock s.broker text m k)
    (hplaces : q.Becomes s.broker b ((q.board s.broker).claimed clock.seconds)) :
    Wears q clock s (.error .cancelled) ⟨after, b, freed s.worker⟩ := by
  have hwritten : ∀ text ∈ (q.board b).texts, Message.Written text := fun text htext =>
    h.written text ((Board.texts_claimed _ _).mem_iff.mp (hplaces.board ▸ htext))
  refine ⟨h.stays ⟨rfl, rfl, hplaces.tidy⟩ hwritten, rfl, .inr ⟨by simp, ?_⟩⟩
  have hone := one_le_deliveries s.worker.maxAttempts text
  have hclaimed : (q.board b).released clock.seconds
      = (q.board s.broker).claimed clock.seconds := by
    rw [hplaces.board, Board.released_claimed]
  have hrest : ((q.board s.broker).claimed clock.seconds).allowance s.worker.maxAttempts
      = Board.allowance s.worker.maxAttempts ((q.board s.broker).withoutNext clock.seconds) := by
    rw [Queue.withoutNext_claimed htakes.1]
    rfl
  dsimp only
  rw [hclaimed, hrest, Board.allowance_of_taken htakes.pending_eq, Board.withoutNext]
  omega

theorem Ready.ends_wearing (h : s.Ready q clock) (run : Runner) :
    (processWith run clock).Ends s (Wears q clock s) := by
  apply (h.ends_processed run).mono
  intro result t hprocessed
  cases result with
  | ok progress => exact h.wears hprocessed
  | error fault =>
      cases hprocessed with
      | cancelled htakes _ hplaces => exact h.wears_cancelled htakes hplaces

theorem Ready.ends_loop (h : s.Ready q clock) (signal : Signal) {fuel : ℕ}
    (hfuel : ((q.board s.broker).released clock.seconds).allowance s.worker.maxAttempts < fuel) :
    (loop clock signal fuel).Ends s fun result t => result = .ok () ∧ t.worker.running = false ∧
      (q.board t.broker).next? clock.seconds = none := by
  induction fuel generalizing s with
  | zero => omega
  | succ fuel ih =>
      have hcall : (processOne clock).Ends s (Wears q clock s) := by
        rw [Ends, run_processOne]
        exact h.ends_wearing (runner clock s.worker)
      unfold loop
      apply hcall.guarded.bind
      · rintro fault t ⟨inner, heq, -⟩
        cases heq
      rintro result t ⟨inner, heq, hready, hlimit, hwears⟩
      obtain rfl := Except.ok.inj heq
      rcases hwears with ⟨rfl, hnone⟩ | ⟨hbusy, hless⟩
      · apply Ends.bind_ok (gives_note _ _ _ t)
        apply Ends.bind_ok (gives_note _ _ _ t)
        exact (gives_setWorker _ t).ends ⟨rfl, rfl, hnone⟩
      · have hrest := ih hready (by rw [hlimit]; omega)
        rcases result with fault | progress
        · exact Ends.bind_ok (gives_note _ _ _ t) hrest
        · cases progress with
          | idle => exact absurd rfl hbusy
          | skipped | failed | handled => exact hrest

/-- The main loop of a worker that can settle what it claims ends with nothing left to take: its
fuel lasts until then. -/
theorem Ready.ends_start (h : s.Ready q clock) (signal : Signal) :
    (start clock signal).Ends s fun result t => result = .ok () ∧ t.worker.running = false ∧
      (q.board t.broker).next? clock.seconds = none := by
  have hrunning : Ready { s with worker := { s.worker with running := true } } q clock :=
    ⟨h.queue, h.name, h.tidy, h.written, h.lease, h.moment, h.limit⟩
  have hfuel := allowance_released_le_workload s clock.seconds
  rw [h.queue] at hfuel
  unfold start
  apply Ends.bind_ok (gives_setWorker _ s)
  apply Ends.bind_ok (gives_note _ _ _ _)
  apply Ends.bind_ok (gives_get _)
  apply (hrunning.ends_loop signal (Nat.lt_succ_of_le hfuel)).bind
  · rintro fault t ⟨heq, -⟩
    cases heq
  · rintro ⟨⟩ t ⟨-, hleft⟩
    exact (gives_note _ _ _ t).ends ⟨rfl, hleft⟩

/-! ## All pending messages -/

/-- Undisturbed calls empty the pending messages: there are at most as many calls as these can be
taken.  Each of them was handled once or is dead once then, and what was claimed before stays
claimed. -/
theorem pending_exhausted {rounds : List Round} (h : ∀ round ∈ rounds, Undisturbed q s round)
    (hdistinct : ((q.board s.broker).texts.map Message.idOf).Nodup) :
    ((processAll rounds).Ends s fun result t => ∃ handled, result = .ok handled ∧
      ((q.board s.broker).allowance s.worker.maxAttempts ≤ rounds.length →
        (q.board t.broker).pending = []) ∧
      ((q.board t.broker).pending = [] →
        ∀ text ∈ (q.board s.broker).pending, (q.board t.broker).Closed handled text) ∧
      (q.board t.broker).processing = (q.board s.broker).processing) ∧
      ∀ (clock : Clock) (u : Station),
        (processOne clock).run u = (processWith (runner clock u.worker) clock).run u := by
  refine ⟨(ends_processAll h).mono ?_, run_processOne⟩
  rintro result t ⟨handled, hresult, hworn⟩
  refine ⟨handled, hresult, fun hcalls => ?_, fun hempty text htext => ?_, hworn.processing⟩
  · have hzero : (q.board t.broker).allowance s.worker.maxAttempts = 0 := by
      have hleft := hworn.allowance
      omega
    exact (Board.pending_eq_nil_iff _).mpr hzero
  · apply Board.closed_of_tally hempty
    rw [hworn.tally, Board.tally_of_mem_pending hdistinct htext]

/-- The registry fails three times. -/
def threeFailures : List Round :=
  List.replicate 3 ⟨fun _ => Attempt.fail .registryUnavailable, Desk.firstClock⟩

theorem Loaded.undisturbed {b : Broker} (h : Loaded b text m) :
    ∀ round ∈ threeFailures, Undisturbed Queue.minuteQueue (laden b 60) round := by
  intro round hround
  obtain rfl := List.eq_of_mem_replicate hround
  refine ⟨h.ready, ?_, fun event desk => by simp⟩
  have hboard : Queue.minuteQueue.board (laden b 60).broker = ⟨[text], [], [], []⟩ := h.board
  simp [hboard]

theorem pending_exhausted_hearing : ∃ b text m, Loaded b text m ∧
    (∀ round ∈ threeFailures, Undisturbed Queue.minuteQueue (laden b 60) round) ∧
    ((Queue.minuteQueue.board (laden b 60).broker).texts.map Message.idOf).Nodup ∧
    (processAll threeFailures).Ends (laden b 60) fun result t => ∃ handled, result = .ok handled ∧
      (Queue.minuteQueue.board t.broker).pending = [] ∧
      (Queue.minuteQueue.board t.broker).Closed handled text ∧
      (Queue.minuteQueue.board t.broker).processing = [] := by
  obtain ⟨b, text, m, h, hattempt⟩ := exists_loaded
  have hboard : Queue.minuteQueue.board (laden b 60).broker = ⟨[text], [], [], []⟩ := h.board
  have hdistinct : ((Queue.minuteQueue.board (laden b 60).broker).texts.map
      Message.idOf).Nodup := by
    rw [hboard]
    exact List.nodup_singleton _
  -- The hearing waits for its first attempt, so that it can be taken three times.
  have hcalls : (Queue.minuteQueue.board (laden b 60).broker).allowance 3 = 3 := by
    obtain ⟨k, -, hreads⟩ := h.exists_takes
    have hfirst : k = 1 := by
      have heq := hreads.attempt.symm.trans hattempt
      simpa using heq
    rw [hboard, Board.allowance, List.map_singleton, List.sum_singleton, deliveries_eq hreads,
      hfirst]
    rfl
  refine ⟨b, text, m, h, h.undisturbed, hdistinct, ?_⟩
  obtain ⟨hends, -⟩ := pending_exhausted h.undisturbed hdistinct
  apply hends.mono
  rintro result t ⟨handled, hresult, hempties, hcloses, hprocessing⟩
  have hempty := hempties hcalls.le
  refine ⟨handled, hresult, hempty, hcloses hempty text ?_, hprocessing.trans ?_⟩
  · simp [hboard]
  · simp [hboard]

/-- A pending hearing that is taken, and neither handled nor dead: the lease of one claim ends
later than the store can count, and the other is cancelled. -/
theorem exists_pending_not_exhausted : ∃ b text m, Loaded b text m ∧
    ((Queue.minuteQueue.board b).texts.map Message.idOf).Nodup ∧
    (processOne Desk.firstClock).Ends (laden b (10 ^ 18)) (fun result t =>
      (∃ fault, result = .error fault) ∧
        Queue.minuteQueue.board t.broker = ⟨[], [text], [], []⟩) ∧
    (processWith (fun _ => Attempt.fail .cancelled) Desk.firstClock).Ends (laden b 60)
      fun result t => result = .error .cancelled ∧
        Queue.minuteQueue.board t.broker = ⟨[], [text], [], []⟩ := by
  obtain ⟨b, text, m, h, -⟩ := exists_loaded
  refine ⟨b, text, m, h, ?_, h.ends_refused, h.ends_cancelled⟩
  rw [h.board]
  exact List.nodup_singleton _

end Station

end CaseWorkflow
