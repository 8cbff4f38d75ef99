import CaseWorkflow.Proofs.Json.RoundTrip

/-!
# Values that come through their texts

A value can be written if it does not nest too deep and no integer in it has too many
digits.  Both hold of what is read of its text.  A plain value, one that JSON has a
form of its own for, is read as it is.
-/

namespace CaseWorkflow.Json

/-! ## Depth and digits -/

theorem itemsDepth_le_iff {items : List Value} {n : ℕ} :
    itemsDepth items ≤ n ↔ ∀ item ∈ items, depth item ≤ n := by
  induction items with
  | nil => simp [itemsDepth]
  | cons item items ih => simp [itemsDepth, ih]

theorem entriesDepth_le_iff {entries : List (String × Value)} {n : ℕ} :
    entriesDepth entries ≤ n ↔ ∀ entry ∈ entries, depth entry.2 ≤ n := by
  induction entries with
  | nil => simp [entriesDepth]
  | cons entry entries ih => simp [entriesDepth, ih]

theorem areLegible_iff {items : List Value} :
    areLegible items = true ↔ ∀ item ∈ items, isLegible item = true := by
  induction items with
  | nil => simp [areLegible]
  | cons item items ih => simp [areLegible, ih]

theorem haveLegible_iff {entries : List (String × Value)} :
    haveLegible entries = true ↔ ∀ entry ∈ entries, isLegible entry.2 = true := by
  induction entries with
  | nil => simp [haveLegible]
  | cons entry entries ih => simp [haveLegible, ih]

theorem isLegible_int (i : ℤ) : isLegible (.int i) = true ↔ Legible i := by
  rw [isLegible, decide_eq_true_iff, Legible, Nat.pow_eq]

section Reread

variable {room : ℕ}

theorem exists_of_rereadItems? {items settled : List Value}
    (h : rereadItems? items room = some settled) :
    ∀ w ∈ settled, ∃ item ∈ items, reread? item room = some w := by
  induction items generalizing settled with
  | nil =>
      obtain rfl : [] = settled := Option.some.inj h
      simp
  | cons item items ih =>
      rw [rereadItems?, Option.bind_eq_some_iff] at h
      obtain ⟨first, hfirst, hrest⟩ := h
      obtain ⟨more, hmore, rfl⟩ := Option.map_eq_some_iff.mp hrest
      intro w hw
      rcases List.mem_cons.mp hw with rfl | hw
      · exact ⟨item, by simp, hfirst⟩
      · obtain ⟨other, hother, hread⟩ := ih hmore w hw
        exact ⟨other, by simp [hother], hread⟩

theorem exists_of_rereadEntries? {entries : List (String × Value)} {done settled : Entries}
    (h : rereadEntries? entries room done = some settled) :
    ∀ w ∈ settled, w ∈ done ∨ ∃ entry ∈ entries, reread? entry.2 room = some w.2 := by
  induction entries generalizing done with
  | nil =>
      obtain rfl : done = settled := Option.some.inj h
      exact fun w hw => .inl hw
  | cons entry entries ih =>
      obtain ⟨key, value⟩ := entry
      rw [rereadEntries?, Option.bind_eq_some_iff] at h
      obtain ⟨first, hfirst, hrest⟩ := h
      intro w hw
      rcases ih hrest w hw with hdone | ⟨other, hother, hread⟩
      · rcases Table.mem_of_mem_insert hdone with rfl | hold
        · exact .inr ⟨(key, value), by simp, hfirst⟩
        · exact .inl hold
      · exact .inr ⟨other, by simp [hother], hread⟩

end Reread

/-- What is read of a value nests no deeper than the value, and no integer in it has too many
digits. -/
theorem writable_of_reread? {v w : Value} {room : ℕ} (h : reread? v room = some w) :
    depth w ≤ depth v ∧ isLegible w = true := by
  cases v with
  | null | bool _ | float _ | text _ | member _ | date _ | moment _ =>
      obtain rfl := Option.some.inj h
      exact ⟨Nat.zero_le _, rfl⟩
  | int value =>
      rw [reread?] at h
      split at h
      next hlegible =>
        obtain rfl := Option.some.inj h
        exact ⟨le_rfl, (isLegible_int value).mpr hlegible⟩
      next => cases h
  | list items =>
      rw [reread?] at h
      split at h
      next => cases h
      next =>
        obtain ⟨settled, hsettled, rfl⟩ := Option.map_eq_some_iff.mp h
        have hitems : ∀ w ∈ settled, depth w ≤ itemsDepth items ∧ isLegible w = true := by
          intro w hw
          obtain ⟨item, hitem, hread⟩ := exists_of_rereadItems? hsettled w hw
          obtain ⟨hdepth, hlegible⟩ := writable_of_reread? hread
          exact ⟨hdepth.trans (itemsDepth_le_iff.mp le_rfl item hitem), hlegible⟩
        exact ⟨Nat.succ_le_succ (itemsDepth_le_iff.mpr fun w hw => (hitems w hw).1),
          areLegible_iff.mpr fun w hw => (hitems w hw).2⟩
  | object entries =>
      rw [reread?] at h
      split at h
      next => cases h
      next =>
        obtain ⟨settled, hsettled, rfl⟩ := Option.map_eq_some_iff.mp h
        have hentries : ∀ w ∈ settled, depth w.2 ≤ entriesDepth entries ∧ isLegible w.2 = true := by
          intro w hw
          obtain ⟨entry, hentry, hread⟩ :=
            (exists_of_rereadEntries? hsettled w hw).resolve_left List.not_mem_nil
          obtain ⟨hdepth, hlegible⟩ := writable_of_reread? hread
          exact ⟨hdepth.trans (entriesDepth_le_iff.mp le_rfl entry hentry), hlegible⟩
        exact ⟨Nat.succ_le_succ (entriesDepth_le_iff.mpr fun w hw => (hentries w hw).1),
          haveLegible_iff.mpr fun w hw => (hentries w hw).2⟩
termination_by sizeOf v
decreasing_by
  · subst v
    exact sizeOf_item_lt ‹_›
  · subst v
    exact sizeOf_entry_lt ‹_›

theorem exists_rereadItems? {items : List Value} {room : ℕ}
    (h : ∀ item ∈ items, ∃ w, reread? item room = some w) :
    ∃ settled, rereadItems? items room = some settled := by
  induction items with
  | nil => exact ⟨[], rfl⟩
  | cons item rest ih =>
      obtain ⟨first, hfirst⟩ := h item List.mem_cons_self
      obtain ⟨more, hmore⟩ := ih fun other hother => h other (List.mem_cons_of_mem item hother)
      exact ⟨first :: more, by rw [rereadItems?, hfirst, Option.bind_some, hmore]; rfl⟩

theorem exists_rereadEntries? {entries : List (String × Value)} {room : ℕ}
    (h : ∀ entry ∈ entries, ∃ w, reread? entry.2 room = some w) (done : Entries) :
    ∃ settled, rereadEntries? entries room done = some settled := by
  induction entries generalizing done with
  | nil => exact ⟨done, rfl⟩
  | cons entry rest ih =>
      obtain ⟨key, value⟩ := entry
      obtain ⟨first, hfirst⟩ := h (key, value) List.mem_cons_self
      obtain ⟨settled, hsettled⟩ :=
        ih (fun other hother => h other (List.mem_cons_of_mem _ hother)) _
      exact ⟨settled, by rw [rereadEntries?, hfirst, Option.bind_some, hsettled]⟩

/-- What can be written is read again where it does not nest too deep. -/
theorem exists_reread? {v : Value} {room : ℕ} (hdepth : depth v ≤ room)
    (hlegible : isLegible v = true) : ∃ w, reread? v room = some w := by
  cases v with
  | null | bool _ | float _ | text _ | member _ | date _ | moment _ => exact ⟨_, rfl⟩
  | int value =>
      refine ⟨.int value, ?_⟩
      rw [reread?, if_pos ((isLegible_int value).mp hlegible)]
  | list items =>
      obtain ⟨room, rfl⟩ : ∃ n, room = n + 1 := ⟨room - 1, by rw [depth] at hdepth; omega⟩
      have hshallow := itemsDepth_le_iff.mp (Nat.le_of_succ_le_succ hdepth)
      rw [isLegible, areLegible_iff] at hlegible
      obtain ⟨settled, hsettled⟩ := exists_rereadItems? fun item hitem =>
        exists_reread? (hshallow item hitem) (hlegible item hitem)
      refine ⟨.list settled, ?_⟩
      rw [reread?, if_neg (Nat.succ_ne_zero room), Nat.add_sub_cancel, hsettled]
      rfl
  | object entries =>
      obtain ⟨room, rfl⟩ : ∃ n, room = n + 1 := ⟨room - 1, by rw [depth] at hdepth; omega⟩
      have hshallow := entriesDepth_le_iff.mp (Nat.le_of_succ_le_succ hdepth)
      rw [isLegible, haveLegible_iff] at hlegible
      obtain ⟨settled, hsettled⟩ := exists_rereadEntries? (fun entry hentry =>
        exists_reread? (hshallow entry hentry) (hlegible entry hentry)) []
      refine ⟨.object settled, ?_⟩
      rw [reread?, if_neg (Nat.succ_ne_zero room), Nat.add_sub_cancel, hsettled]
      rfl
termination_by sizeOf v
decreasing_by
  · subst v
    exact sizeOf_item_lt ‹_›
  · subst v
    exact sizeOf_entry_lt ‹_›

/-! ## Plain values -/

/-- A value that is neither a day, a moment nor a member nor holds one.  Its texts have no
halves of one pair next to each other, and an object has one entry for each key. -/
inductive Plain : Value → Prop
  | null : Plain .null
  | bool (value : Bool) : Plain (.bool value)
  | int (value : ℤ) : Plain (.int value)
  | float (value : Double) : Plain (.float value)
  | text {value : String} (h : settledText value = value) : Plain (.text value)
  | list {items : List Value} (h : ∀ item ∈ items, Plain item) : Plain (.list items)
  | object {entries : Entries} (hnodup : entries.keys.Nodup)
      (hkeys : ∀ key ∈ entries.keys, settledText key = key)
      (h : ∀ entry ∈ entries, Plain entry.2) : Plain (.object entries)

/-- A plain value is read as it is, if it can be written and does not nest too deep. -/
theorem Plain.settled {v : Value} (h : Plain v) {room : ℕ} (hdepth : depth v ≤ room)
    (hlegible : isLegible v = true) : Settled room v := by
  induction h generalizing room with
  | null | bool _ | float _ => rfl
  | int value => rw [Settled, reread?, if_pos ((isLegible_int value).mp hlegible)]
  | text h => rw [Settled, reread?, h]
  | @list items h ih =>
      obtain ⟨room, rfl⟩ : ∃ n, room = n + 1 := ⟨room - 1, by rw [depth] at hdepth; omega⟩
      have hshallow := itemsDepth_le_iff.mp (Nat.le_of_succ_le_succ hdepth)
      rw [isLegible, areLegible_iff] at hlegible
      have hitems : ∀ item ∈ items, Settled room item := fun item hitem =>
        ih item hitem (hshallow item hitem) (hlegible item hitem)
      rw [Settled, reread?, if_neg (Nat.succ_ne_zero room), Nat.add_sub_cancel,
        rereadItems?_settled hitems]
      rfl
  | @object entries hnodup hkeys h ih =>
      obtain ⟨room, rfl⟩ : ∃ n, room = n + 1 := ⟨room - 1, by rw [depth] at hdepth; omega⟩
      have hshallow := entriesDepth_le_iff.mp (Nat.le_of_succ_le_succ hdepth)
      rw [isLegible, haveLegible_iff] at hlegible
      have hentries : SettledEntries room ([] ++ entries) := ⟨hnodup, hkeys, fun entry hentry =>
        ih entry hentry (hshallow entry hentry) (hlegible entry hentry)⟩
      rw [Settled, reread?, if_neg (Nat.succ_ne_zero room), Nat.add_sub_cancel,
        rereadEntries?_settled hentries]
      rfl

end CaseWorkflow.Json
