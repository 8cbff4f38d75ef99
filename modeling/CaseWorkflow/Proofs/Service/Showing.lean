import CaseWorkflow.Instance.Basic
import CaseWorkflow.Proofs.Json.Reading
import CaseWorkflow.Service.Request
import CaseWorkflow.Service.Response

/-!
# What the web shows as it is

Only days and moments are shown otherwise than they are.  None of them is read of JSON, so
what is read of a body is shown as it came.
-/

namespace CaseWorkflow

theorem Value.eq_object_of_entries? {v : Value} {entries : Entries}
    (h : v.entries? = some entries) : v = .object entries := by
  cases v with
  | object => exact congrArg Value.object (Option.some.inj h)
  | _ => cases h

namespace Value

theorem forWeb_list (items : List Value) :
    forWeb (.list items) = (do return .list (← itemsForWeb items)) := by
  exact rfl

theorem forWeb_object (entries : List (String × Value)) :
    forWeb (.object entries) = (do return .object (← entriesForWeb entries)) := by
  exact rfl

theorem forWeb_moment (m : Moment) :
    forWeb (.moment m) = match m.headerText? with
      | some shown => .ok (.text shown)
      | none => .error (.tooLarge "date value out of range") := by
  exact rfl

end Value

/-- A value without days and moments. -/
inductive Timeless : Value → Prop
  | null : Timeless .null
  | bool (b : Bool) : Timeless (.bool b)
  | int (i : ℤ) : Timeless (.int i)
  | float (d : Double) : Timeless (.float d)
  | text (s : String) : Timeless (.text s)
  | member (m : Member) : Timeless (.member m)
  | list {items : List Value} (h : ∀ item ∈ items, Timeless item) : Timeless (.list items)
  | object {entries : List (String × Value)} (h : ∀ entry ∈ entries, Timeless entry.2) :
    Timeless (.object entries)

namespace Timeless

variable {v other : Value} {items : List Value} {entries : Entries}

theorem list_iff : Timeless (.list items) ↔ ∀ item ∈ items, Timeless item :=
  ⟨fun h => by cases h; assumption, .list⟩

theorem object_iff : Timeless (.object entries) ↔ ∀ entry ∈ entries, Timeless entry.2 :=
  ⟨fun h => by cases h; assumption, .object⟩

@[simp] theorem object_nil : Timeless (.object []) := .object (by simp)

@[simp] theorem object_cons_iff {entry : String × Value} {rest : List (String × Value)} :
    Timeless (.object (entry :: rest)) ↔ Timeless entry.2 ∧ Timeless (.object rest) := by
  rw [object_iff, object_iff, List.forall_mem_cons]

@[simp] theorem text_iff (s : String) : Timeless (.text s) ↔ True := iff_of_true (.text s) trivial

theorem itemsForWeb_eq (h : ∀ item ∈ items, item.forWeb = .ok item) :
    Value.itemsForWeb items = .ok items := by
  induction items with
  | nil => rfl
  | cons item rest ih =>
      have hrest := ih fun other hother => h other (List.mem_cons_of_mem _ hother)
      simp only [Value.itemsForWeb, h item List.mem_cons_self, hrest]
      rfl

theorem entriesForWeb_eq {entries : List (String × Value)}
    (h : ∀ entry ∈ entries, entry.2.forWeb = .ok entry.2) :
    Value.entriesForWeb entries = .ok entries := by
  induction entries with
  | nil => rfl
  | cons entry rest ih =>
      have hrest := ih fun other hother => h other (List.mem_cons_of_mem _ hother)
      simp only [Value.entriesForWeb, h entry List.mem_cons_self, hrest]
      rfl

theorem forWeb_eq (h : Timeless v) : v.forWeb = .ok v := by
  induction h with
  | null | bool | int | float | text | member => rfl
  | list _ ih =>
      simp only [Value.forWeb_list, itemsForWeb_eq ih]
      rfl
  | object _ ih =>
      simp only [Value.forWeb_object, entriesForWeb_eq ih]
      rfl

theorem field (h : Timeless (.object entries)) (key : String) : Timeless (entries.field key) := by
  unfold Entries.field
  cases hvalue : entries.lookup key with
  | none => exact .null
  | some value =>
      obtain ⟨before, after, rfl, -⟩ := List.lookup_eq_some_iff.mp hvalue
      exact object_iff.mp h (key, value) (by simp)

theorem orElse (h : Timeless v) (hother : Timeless other) : Timeless (v.orElse other) := by
  unfold Value.orElse
  split
  · exact h
  · exact hother

theorem plain (h : Timeless v) : Timeless v.plain := by
  cases h with
  | member m => exact .text m.wire
  | null => exact .null
  | bool b => exact .bool b
  | int i => exact .int i
  | float d => exact .float d
  | text s => exact .text s
  | list hitems => exact .list hitems
  | object hentries => exact .object hentries

theorem of_entries? (h : Timeless v) (hentries : v.entries? = some entries) :
    Timeless (.object entries) :=
  Value.eq_object_of_entries? hentries ▸ h

theorem itemsOf (h : Timeless v) {part : Part} (hitems : v.itemsOf part = .ok items) :
    ∀ item ∈ items, Timeless item := by
  unfold Value.itemsOf at hitems
  split at hitems
  next => simp [← Except.ok.inj hitems]
  next => exact Except.ok.inj hitems ▸ list_iff.mp h
  next => cases hitems

end Timeless

mutual

/-- Nothing but a moment out of the calendar keeps a value from being shown. -/
theorem Value.fault_of_forWeb {fault : Fault} : (v : Value) → v.forWeb = .error fault →
    fault = .tooLarge "date value out of range"
  | .list items, h => by
      rw [forWeb_list] at h
      cases hitems : itemsForWeb items with
      | error other =>
          rw [hitems] at h
          cases h
          exact fault_of_itemsForWeb items hitems
      | ok shown =>
          rw [hitems] at h
          cases h
  | .object entries, h => by
      rw [forWeb_object] at h
      cases hentries : entriesForWeb entries with
      | error other =>
          rw [hentries] at h
          cases h
          exact fault_of_entriesForWeb entries hentries
      | ok shown =>
          rw [hentries] at h
          cases h
  | .moment m, h => by
      rw [forWeb_moment] at h
      split at h
      next => cases h
      next =>
        cases h
        rfl
  | .null, h | .bool _, h | .int _, h | .float _, h | .text _, h | .date _, h | .member _, h => by
      cases h

theorem Value.fault_of_itemsForWeb {fault : Fault} : (items : List Value) →
    itemsForWeb items = .error fault → fault = .tooLarge "date value out of range"
  | [], h => by cases h
  | item :: rest, h => by
      rw [itemsForWeb] at h
      cases hitem : item.forWeb with
      | error other =>
          rw [hitem] at h
          cases h
          exact fault_of_forWeb item hitem
      | ok shown =>
          cases hrest : itemsForWeb rest with
          | error other =>
              rw [hitem, hrest] at h
              cases h
              exact fault_of_itemsForWeb rest hrest
          | ok more =>
              rw [hitem, hrest] at h
              cases h

theorem Value.fault_of_entriesForWeb {fault : Fault} : (entries : List (String × Value)) →
    entriesForWeb entries = .error fault → fault = .tooLarge "date value out of range"
  | [], h => by cases h
  | (key, value) :: rest, h => by
      rw [entriesForWeb] at h
      cases hvalue : value.forWeb with
      | error other =>
          rw [hvalue] at h
          cases h
          exact fault_of_forWeb value hvalue
      | ok shown =>
          cases hrest : entriesForWeb rest with
          | error other =>
              rw [hvalue, hrest] at h
              cases h
              exact fault_of_entriesForWeb rest hrest
          | ok more =>
              rw [hvalue, hrest] at h
              cases h

end

/-! ## What is read of JSON -/

namespace Json

variable {cs rest : List Char} {v : Value} {items : List Value} {entries filled : Entries}
variable {fuel room : ℕ}

theorem timeless_of_readWord? (h : readWord? cs = some (v, rest)) : Timeless v := by
  obtain ⟨word, hword, heq⟩ := Option.map_eq_some_iff.mp h
  obtain ⟨rfl, -⟩ := Prod.mk.inj heq
  have hmem := List.mem_of_find?_eq_some hword
  simp only [words, List.mem_cons, List.not_mem_nil, or_false] at hmem
  rcases hmem with rfl | rfl | rfl | rfl | rfl | rfl
  · exact .null
  · exact .bool _
  · exact .bool _
  all_goals exact .float _

theorem timeless_of_readNumber (h : readNumber cs = .ok (v, rest)) : Timeless v := by
  unfold readNumber at h
  dsimp only at h
  split at h
  next => cases h
  next =>
    split at h
    next =>
      obtain ⟨rfl, -⟩ := Prod.mk.inj (Except.ok.inj h)
      exact .float _
    next =>
      split_ifs at h
      · obtain ⟨rfl, -⟩ := Prod.mk.inj (Except.ok.inj h)
        exact .int _
      · obtain ⟨rfl, -⟩ := Prod.mk.inj (Except.ok.inj h)
        exact .float _

/-- With so much fuel, nothing but timeless values is read. -/
structure Timekeeper (fuel : ℕ) : Prop where
  value : ∀ {room cs v rest}, readValue fuel room cs = .ok (v, rest) → Timeless v
  items : ∀ {room cs items rest}, readItems fuel room cs = .ok (items, rest) →
    ∀ item ∈ items, Timeless item
  entries : ∀ {room cs entries filled rest}, Timeless (.object entries) →
    readEntries fuel room entries cs = .ok (filled, rest) → Timeless (.object filled)

namespace Timekeeper

theorem value_succ (h : Timekeeper fuel) (hread : readValue (fuel + 1) room cs = .ok (v, rest)) :
    Timeless v := by
  cases cs with
  | nil => cases hread
  | cons c cs =>
  rw [readValue] at hread
  split at hread
  next =>
    obtain ⟨⟨text, after⟩, -, hread⟩ := bind_eq_ok hread
    obtain ⟨rfl, -⟩ := Prod.mk.inj (Except.ok.inj hread)
    exact .text text
  split at hread
  next =>
    split at hread
    next => cases hread
    split at hread
    next =>
      obtain ⟨rfl, -⟩ := Prod.mk.inj (Except.ok.inj hread)
      exact .list (by simp)
    next =>
      obtain ⟨⟨items, after⟩, hitems, hread⟩ := bind_eq_ok hread
      obtain ⟨rfl, -⟩ := Prod.mk.inj (Except.ok.inj hread)
      exact .list (h.items hitems)
  split at hread
  next =>
    split at hread
    next => cases hread
    split at hread
    next =>
      obtain ⟨rfl, -⟩ := Prod.mk.inj (Except.ok.inj hread)
      exact .object_nil
    next =>
      obtain ⟨⟨entries, after⟩, hentries, hread⟩ := bind_eq_ok hread
      obtain ⟨rfl, -⟩ := Prod.mk.inj (Except.ok.inj hread)
      exact h.entries .object_nil hentries
  split at hread
  next value after hword =>
    obtain ⟨rfl, -⟩ := Prod.mk.inj (Except.ok.inj hread)
    exact timeless_of_readWord? hword
  next => exact timeless_of_readNumber hread

theorem items_succ (h : Timekeeper fuel)
    (hread : readItems (fuel + 1) room cs = .ok (items, rest)) :
    ∀ item ∈ items, Timeless item := by
  rw [readItems] at hread
  obtain ⟨⟨item, after⟩, hitem, hread⟩ := bind_eq_ok hread
  have hfirst := h.value hitem
  dsimp only at hread
  split at hread
  next =>
    obtain ⟨rfl, -⟩ := Prod.mk.inj (Except.ok.inj hread)
    simpa using hfirst
  next =>
    obtain ⟨⟨more, last⟩, hmore, hread⟩ := bind_eq_ok hread
    obtain ⟨rfl, -⟩ := Prod.mk.inj (Except.ok.inj hread)
    simpa using ⟨hfirst, h.items hmore⟩
  next => cases hread

theorem entries_succ (h : Timekeeper fuel) (hentries : Timeless (.object entries))
    (hread : readEntries (fuel + 1) room entries cs = .ok (filled, rest)) :
    Timeless (.object filled) := by
  cases cs with
  | nil => cases hread
  | cons quote cs =>
  rw [readEntries] at hread
  split at hread
  next => cases hread
  obtain ⟨⟨key, afterKey⟩, -, hread⟩ := bind_eq_ok hread
  dsimp only at hread
  split at hread
  swap
  next => cases hread
  obtain ⟨⟨value, afterValue⟩, hvalue, hread⟩ := bind_eq_ok hread
  have hmore : Timeless (.object (entries.insert key value)) := by
    apply Timeless.object
    intro entry hentry
    rcases Table.mem_of_mem_insert hentry with rfl | hold
    · exact h.value hvalue
    · exact Timeless.object_iff.mp hentries entry hold
  dsimp only at hread
  split at hread
  next =>
    obtain ⟨rfl, -⟩ := Prod.mk.inj (Except.ok.inj hread)
    exact hmore
  next => exact h.entries hmore hread
  next => cases hread

end Timekeeper

theorem timekeeper (fuel : ℕ) : Timekeeper fuel := by
  induction fuel with
  | zero =>
      constructor
      · intro room cs v rest h
        cases h
      · intro room cs items rest h
        cases h
      · intro room cs entries filled rest _ h
        cases h
  | succ fuel ih => exact ⟨ih.value_succ, ih.items_succ, ih.entries_succ⟩

theorem timeless_of_read {s : String} (h : read s = .ok v) : Timeless v := by
  unfold read at h
  cases hall : readAll s.toList with
  | error failure =>
      rw [hall] at h
      cases h
  | ok value =>
      rw [hall] at h
      obtain rfl := Except.ok.inj h
      unfold readAll at hall
      split at hall
      next => cases hall
      obtain ⟨⟨value, rest⟩, hvalue, hall⟩ := bind_eq_ok hall
      dsimp only at hall
      split at hall
      next =>
        obtain rfl := Except.ok.inj hall
        exact (timekeeper _).value hvalue
      next => cases hall

end Json

theorem Request.timeless_data {request : Request} {data : Value} (h : request.data = .ok data) :
    Timeless data := by
  unfold Request.data at h
  split at h
  next =>
    split at h
    next v hread =>
      obtain rfl := Except.ok.inj h
      obtain ⟨text, -, hread⟩ := Option.map_eq_some_iff.mp hread
      exact Json.timeless_of_read hread
    next => cases h
    next =>
      obtain rfl := Except.ok.inj h
      exact .null
  next =>
    obtain rfl := Except.ok.inj h
    exact .null

/-! ## Definitions that were read -/

section Definitions

variable {v : Value} {entries trigger : Entries}

theorem Condition.timeless_of_read {c : Condition} (hv : Timeless v) (h : read v = .ok c) :
    Timeless c.toValue := by
  unfold read at h
  split at h
  next entries hentries =>
    have hobject := hv.of_entries? hentries
    split at h
    next => cases h
    next operator _ =>
      obtain rfl := Except.ok.inj h
      have hfield := (hobject.field "field").orElse (.text "")
      simp [toValue, Named.value, Vocabulary.value, hfield, hobject.field "value"]
  next => cases h

theorem Trigger.timeless_of_read {t : Trigger} (hobject : Timeless (.object entries))
    (h : read entries = .ok t) : Timeless t.toValue := by
  unfold read at h
  dsimp only at h
  split at h
  next => cases h
  split at h
  next => cases h
  obtain ⟨items, hitems, h⟩ := bind_eq_ok h
  obtain ⟨conditions, hconditions, h⟩ := bind_eq_ok h
  obtain rfl := Except.ok.inj h
  have hshown : ∀ c ∈ conditions, Timeless c.toValue := by
    intro c hc
    obtain ⟨item, hitem, hread⟩ := exists_of_mapM hconditions c hc
    exact Condition.timeless_of_read ((hobject.field "conditions").itemsOf hitems item hitem) hread
  simpa [toValue, Named.value, Vocabulary.value, Timeless.list_iff] using hshown

theorem Action.timeless_of_read {a : Action} (hv : Timeless v) (h : read v = .ok a) :
    Timeless a.toValue := by
  unfold read at h
  split at h
  next entries hentries =>
    have hobject := hv.of_entries? hentries
    split at h
    next parameters hparameters =>
      obtain rfl := Except.ok.inj h
      have hkind := ((hobject.field "type").orElse (.text "")).plain
      have hshown := ((hobject.field "parameters").orElse .object_nil).of_entries? hparameters
      have htimeout := hobject.field "timeout_seconds"
      unfold toValue
      split
      · simp [hkind, hshown]
      · simp [hkind, hshown, htimeout]
    next => cases h
  next => cases h

/-- An instance of a definition that was read of JSON can be shown. -/
theorem Instance.timeless_of_read {d : Definition} (hv : Timeless v)
    (h : Definition.read v = .ok d) (i : Instance) (hi : i.workflow.definition = d) :
    Timeless i.toValue := by
  unfold Definition.read at h
  split at h
  swap
  next => cases h
  next entries hentries =>
  have hobject := hv.of_entries? hentries
  split at h
  swap
  next => cases h
  next trigger htrigger =>
  split at h
  swap
  next => cases h
  next t actions hparts =>
  obtain ⟨t, ht, hparts⟩ := bind_eq_ok hparts
  obtain ⟨items, hitems, hparts⟩ := bind_eq_ok hparts
  obtain ⟨actions, hactions, hparts⟩ := bind_eq_ok hparts
  obtain ⟨rfl, rfl⟩ := Prod.mk.inj (Except.ok.inj hparts)
  obtain rfl := Except.ok.inj h
  have hid := (hobject.field "id").orElse (.text "")
  have hname := (hobject.field "name").orElse (.text "")
  have hdescription := (hobject.field "description").orElse (.text "")
  have hshown := Trigger.timeless_of_read ((hobject.field "trigger").of_entries? htrigger) ht
  have hactions : ∀ a ∈ actions, Timeless a.toValue := by
    intro a ha
    obtain ⟨item, hitem, hread⟩ := exists_of_mapM hactions a ha
    exact Action.timeless_of_read ((hobject.field "actions").itemsOf hitems item hitem) hread
  have hlist : Timeless (.list (actions.map Action.toValue)) := by
    simpa [Timeless.list_iff] using hactions
  have hlast : Timeless ((i.lastExecutedAt.map fun m => .text m.isoText).getD .null) := by
    cases i.lastExecutedAt with
    | none => exact .null
    | some moment => exact .text _
  simp [toValue, hi, Vocabulary.value, hid, hname, hdescription, hshown, hlist, hlast,
    Timeless.bool, Timeless.int]

end Definitions

end CaseWorkflow
