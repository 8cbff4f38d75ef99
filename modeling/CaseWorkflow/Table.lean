/-!
# Tables

Values by name, in the order in which the names first came.
-/

namespace CaseWorkflow

abbrev Table (α : Type) := List (String × α)

namespace Table

variable {α : Type}

/-- Replaces the value of a key, or adds the key at the end. -/
def insert : Table α → String → α → Table α
  | [], key, value => [(key, value)]
  | entry :: rest, key, value =>
    if entry.1 = key then (key, value) :: rest else entry :: insert rest key value

/-- The second table's entries put into the first one. -/
def merge (base above : Table α) : Table α :=
  above.foldl (fun table entry => insert table entry.1 entry.2) base

def erase (table : Table α) (key : String) : Table α := table.filter (·.1 != key)

def keys (table : Table α) : List String := table.map Prod.fst

theorem lookup_cons (key other : String) (value : α) (rest : Table α) :
    List.lookup other ((key, value) :: rest)
      = if other = key then some value else List.lookup other rest := by
  rw [List.lookup_cons]
  by_cases h : other = key
  · simp [h]
  · have hb : (other == key) = false := by simpa using h
    simp [hb, h]

theorem lookup_insert (table : Table α) (key other : String) (value : α) :
    (insert table key value).lookup other
      = if other = key then some value else table.lookup other := by
  induction table with
  | nil => simp [insert, lookup_cons]
  | cons entry rest ih =>
    obtain ⟨k, v⟩ := entry
    by_cases hk : k = key
    · subst hk; by_cases ho : other = k <;> simp [insert, lookup_cons, ho]
    · by_cases ho : other = k
      · subst ho; simp [insert, hk]
      · simp [insert, hk, lookup_cons, ho, ih]

theorem lookup_erase (table : Table α) (key other : String) :
    (erase table key).lookup other = if other = key then none else table.lookup other := by
  induction table with
  | nil => simp [erase]
  | cons entry rest ih =>
    obtain ⟨k, v⟩ := entry
    simp only [erase, List.filter_cons] at ih ⊢
    by_cases hk : k = key
    · subst hk
      have hb : (k != k) = false := by simp
      simp only [hb, Bool.false_eq_true, if_false, lookup_cons]
      by_cases ho : other = k <;> simp [ho] at ih ⊢ <;> exact ih
    · have hb : (k != key) = true := by simpa using hk
      simp only [hb, if_true, lookup_cons]
      by_cases ho : other = k
      · subst ho; simp [hk]
      · simp [ho, ih]

theorem insert_of_not_mem {table : Table α} {key : String} (h : key ∉ keys table) (value : α) :
    insert table key value = table ++ [(key, value)] := by
  induction table with
  | nil => rfl
  | cons entry rest ih =>
    simp only [keys, List.map_cons, List.mem_cons, not_or] at h ih
    rw [insert, if_neg (Ne.symm h.1), ih h.2, List.cons_append]

theorem mem_keys_insert (table : Table α) (key other : String) (value : α) :
    other ∈ keys (insert table key value) ↔ other = key ∨ other ∈ keys table := by
  induction table with
  | nil => simp [insert, keys]
  | cons entry rest ih =>
    unfold keys at ih ⊢
    by_cases h : entry.1 = key
    · simp [insert, h]
    · simp only [insert, h, if_false, List.map_cons, List.mem_cons, ih]
      exact or_left_comm

theorem nodup_keys_insert {table : Table α} (h : (keys table).Nodup) (key : String) (value : α) :
    (keys (insert table key value)).Nodup := by
  induction table with
  | nil => simp [insert, keys]
  | cons entry rest ih =>
    have hkeys := mem_keys_insert rest key entry.1 value
    unfold keys at h hkeys ih ⊢
    simp only [List.map_cons, List.nodup_cons] at h
    by_cases hkey : entry.1 = key
    · subst hkey
      simp only [insert, if_true, List.map_cons, List.nodup_cons]
      exact h
    · simp only [insert, hkey, if_false, List.map_cons, List.nodup_cons, hkeys, false_or]
      exact ⟨h.1, ih h.2⟩

theorem mem_of_mem_insert {table : Table α} {key : String} {value : α} {entry : String × α}
    (h : entry ∈ insert table key value) : entry = (key, value) ∨ entry ∈ table := by
  induction table with
  | nil => simpa [insert] using h
  | cons other rest ih =>
    by_cases hkey : other.1 = key
    · simp only [insert, hkey, if_true, List.mem_cons] at h
      exact h.imp_right (List.mem_cons_of_mem other)
    · simp only [insert, hkey, if_false, List.mem_cons] at h ⊢
      rcases h with h | h
      · exact .inr (.inl h)
      · exact (ih h).imp_right .inr

theorem lookup_eq_none {table : Table α} {key : String}
    (h : key ∉ table.keys) : table.lookup key = none := by
  rw [List.lookup_eq_none_iff]
  intro entry hentry
  rw [bne_iff_ne]
  rintro rfl
  exact h (List.mem_map_of_mem hentry)

/-- Where the upper table has one key each, its values go before those of the lower one. -/
theorem lookup_merge {above : Table α} (h : above.keys.Nodup) (base : Table α)
    (key : String) : (base.merge above).lookup key = (above.lookup key).or (base.lookup key) := by
  unfold merge
  induction above generalizing base with
  | nil => rfl
  | cons entry rest ih =>
      obtain ⟨other, value⟩ := entry
      obtain ⟨hother, hrest⟩ := List.nodup_cons.mp h
      rw [List.foldl_cons, ih hrest, lookup_insert, lookup_cons]
      by_cases hkey : key = other
      · rw [if_pos hkey, if_pos hkey, lookup_eq_none (hkey ▸ hother)]
        rfl
      · rw [if_neg hkey, if_neg hkey]

end Table

end CaseWorkflow
