import CaseWorkflow.Proofs.Json.Number
import CaseWorkflow.Proofs.Json.Text

/-!
# Values in JSON texts

What is read of the text of a value: the value with its texts settled, its days, moments
and members as texts, and one entry for each key of an object.  It is read unless an
integer in it has too many digits or too many lists and objects stand in each other.
What was read once is read again as it is.
-/

namespace CaseWorkflow.Json

instance (i : ℤ) : Decidable (Legible i) := inferInstanceAs (Decidable (_ < _))

mutual

/-- What is read of the text of a value, in which so many more lists and objects may be
opened. -/
def reread? : Value → ℕ → Option Value
  | .null, _ => some .null
  | .bool value, _ => some (.bool value)
  | .int value, _ => if Legible value then some (.int value) else none
  | .float value, _ => some (.float value)
  | .text value, _ => some (.text (settledText value))
  | .member value, _ => some (.text (settledText value.wire))
  | .date value, _ => some (.text (settledText value.text))
  | .moment value, _ => some (.text (settledText value.text))
  | .list items, room =>
    if room = 0 then none else (rereadItems? items (room - 1)).map .list
  | .object entries, room =>
    if room = 0 then none else (rereadEntries? entries (room - 1) []).map .object

def rereadItems? : List Value → ℕ → Option (List Value)
  | [], _ => some []
  | item :: rest, room =>
    (reread? item room).bind fun item => (rereadItems? rest room).map (item :: ·)

/-- The entries are put behind those that were read before. -/
def rereadEntries? : List (String × Value) → ℕ → Entries → Option Entries
  | [], _, entries => some entries
  | (key, value) :: rest, room, entries =>
    (reread? value room).bind fun value =>
      rereadEntries? rest room (entries.insert (settledText key) value)

end

/-! ## Reading in steps -/

/-- The result of reading: the value and what stands after it, or a failure. -/
def Reads {α : Type} (result : Except Failure (α × List Char)) (value? : Option α)
    (rest : List Char) : Prop :=
  result.toOption = value?.map (·, rest)

section Reads

variable {α β : Type} {rest tail : List Char}

theorem Reads.ok (a : α) : Reads (.ok (a, rest)) (some a) rest := rfl

theorem Reads.error (failure : Failure) : Reads (.error failure : Except _ (α × _)) none rest := rfl

theorem Reads.bind {result : Except Failure (α × List Char)} {value? : Option α}
    {next : α × List Char → Except Failure (β × List Char)} {follow : α → Option β}
    (h : Reads result value? rest) (hnext : ∀ a, Reads (next (a, rest)) (follow a) tail) :
    Reads (result >>= next) (value?.bind follow) tail := by
  cases result with
  | error failure =>
      cases value? with
      | none => rfl
      | some a => cases h
  | ok pair =>
      cases value? with
      | none => cases h
      | some a =>
          obtain rfl : pair = (a, rest) := Option.some.inj h
          exact hnext a

theorem Reads.map {result : Except Failure (α × List Char)} {value? : Option α}
    {next : α × List Char → Except Failure (β × List Char)} {f : α → β}
    (h : Reads result value? rest) (hnext : ∀ a, next (a, rest) = .ok (f a, tail)) :
    Reads (result >>= next) (value?.map f) tail := by
  rw [Option.map_eq_bind]
  exact h.bind fun a => (hnext a).symm ▸ Reads.ok (f a)

end Reads

/-! ## The first character of a text -/

/-- The text starts with an ASCII character that neither is a blank nor closes a list or
object. -/
def Opens (cs : List Char) : Prop :=
  ∃ c more, cs = c :: more ∧ c.toNat < 0x80 ∧ isSpace c = false ∧ c ≠ ']' ∧ c ≠ '\x7d'

theorem Opens.append {cs : List Char} (h : Opens cs) (rest : List Char) : Opens (cs ++ rest) := by
  obtain ⟨c, more, rfl, hopens⟩ := h
  exact ⟨c, more ++ rest, rfl, hopens⟩

theorem Opens.skipSpace {cs : List Char} (h : Opens cs) : skipSpace cs = cs := by
  obtain ⟨c, more, rfl, -, hspace, -⟩ := h
  rw [Json.skipSpace, List.dropWhile_cons_of_neg (by simp [hspace])]

theorem opens_writeText (s : String) : Opens (writeText s).toList := by
  have h := toList_writeText s []
  rw [List.append_nil] at h
  exact ⟨_, _, h, by decide, by decide, by decide, by decide⟩

/-- The text starts with a digit, maybe after a minus sign. -/
def StartsNumber (cs : List Char) : Prop :=
  ∃ negative digit more, digit.isDigit = true ∧ cs = signChars negative ++ digit :: more

theorem StartsNumber.append {cs : List Char} (h : StartsNumber cs) (rest : List Char) :
    StartsNumber (cs ++ rest) := by
  obtain ⟨negative, digit, more, hdigit, rfl⟩ := h
  exact ⟨negative, digit, more ++ rest, hdigit, by simp⟩

theorem digit_ne {digit : Char} (h : digit.isDigit = true) {c : Char} (hc : c.isDigit = false) :
    digit ≠ c := by
  rintro rfl
  rw [h] at hc
  cases hc

theorem StartsNumber.opens {cs : List Char} (h : StartsNumber cs) : Opens cs := by
  obtain ⟨negative, digit, more, hdigit, rfl⟩ := h
  cases negative with
  | true => exact ⟨'-', digit :: more, rfl, by decide, by decide, by decide, by decide⟩
  | false =>
      refine ⟨digit, more, rfl, toNat_lt_of_isDigit hdigit, ?_, digit_ne hdigit rfl,
        digit_ne hdigit rfl⟩
      simp [isSpace, digit_ne hdigit (c := ' ') rfl, digit_ne hdigit (c := '\t') rfl,
        digit_ne hdigit (c := '\n') rfl, digit_ne hdigit (c := '\r') rfl]

/-- A number is no word. -/
theorem readWord?_number {cs : List Char} (h : StartsNumber cs) : readWord? cs = none := by
  obtain ⟨negative, digit, more, hdigit, rfl⟩ := h
  have hbeq : ∀ c : Char, c.isDigit = false → (c == digit) = false := by
    intro c hc
    simpa using (digit_ne hdigit hc).symm
  have hnone : ∀ word ∈ words, word.1.isPrefixOf (signChars negative ++ digit :: more) = false := by
    cases negative <;>
      simp [words, signChars, List.isPrefixOf, hbeq 'n' rfl, hbeq 't' rfl, hbeq 'f' rfl,
        hbeq 'N' rfl, hbeq 'I' rfl, hbeq '-' rfl]
  rw [readWord?, List.find?_eq_none.mpr (fun word hword => by simp [hnone word hword])]
  rfl

theorem startsNumber_of_wholeDigits? {cs whole rest : List Char}
    (h : wholeDigits? (splitMinus cs).2 = some (whole, rest)) : StartsNumber cs := by
  have hhead : ∀ unsigned, wholeDigits? unsigned = some (whole, rest) →
      ∃ digit more, digit.isDigit = true ∧ unsigned = digit :: more := by
    intro unsigned hwhole
    unfold wholeDigits? at hwhole
    split at hwhole
    next after => exact ⟨'0', after, rfl, rfl⟩
    next _ hzero =>
      cases unsigned with
      | nil => simp at hwhole
      | cons c more =>
          by_cases hc : c.isDigit = true
          · exact ⟨c, more, hc, rfl⟩
          · simp [hc] at hwhole
  unfold splitMinus at h
  split at h
  next after =>
    obtain ⟨digit, more, hdigit, rfl⟩ := hhead after h
    exact ⟨true, digit, more, hdigit, rfl⟩
  next =>
    obtain ⟨digit, more, hdigit, rfl⟩ := hhead cs h
    exact ⟨false, digit, more, hdigit, rfl⟩

theorem startsNumber_of_readNumber {cs : List Char} {value : Value} {rest : List Char}
    (h : readNumber cs = .ok (value, rest)) : StartsNumber cs := by
  unfold readNumber at h
  cases hwhole : wholeDigits? (splitMinus cs).2 with
  | none => simp [hwhole, fail] at h
  | some pair => exact startsNumber_of_wholeDigits? hwhole

theorem startsNumber_toString (i : ℤ) : StartsNumber (toString i).toList := by
  obtain ⟨c, more, hdigits⟩ := List.exists_cons_of_ne_nil (whole_toDigits i.natAbs).ne_nil
  have hdigit := (whole_toDigits i.natAbs).isDigit c (by simp [hdigits])
  exact ⟨_, c, more, hdigit, by rw [toList_toString_int, hdigits]⟩

/-! ## Texts of lists and objects -/

/-- The items of a list as they stand between the brackets. -/
def itemChars (items : List Value) : List Char := (", ".intercalate (writeItems items)).toList

/-- The entries of an object as they stand between the braces. -/
def entryChars (entries : List (String × Value)) : List Char :=
  (", ".intercalate (writeEntries entries)).toList

theorem itemChars_singleton (item : Value) : itemChars [item] = (write item).toList := by
  simp [itemChars, writeItems]

theorem itemChars_cons_cons (item next : Value) (rest : List Value) :
    itemChars (item :: next :: rest)
      = (write item).toList ++ ',' :: ' ' :: itemChars (next :: rest) := by
  simp [itemChars, writeItems]

theorem entryChars_singleton (key : String) (value : Value) :
    entryChars [(key, value)] = (writeText key).toList ++ ':' :: ' ' :: (write value).toList := by
  simp [entryChars, writeEntries]

theorem entryChars_cons_cons (key : String) (value : Value) (next : String × Value)
    (rest : List (String × Value)) :
    entryChars ((key, value) :: next :: rest)
      = (writeText key).toList ++ ':' :: ' ' :: ((write value).toList
        ++ ',' :: ' ' :: entryChars (next :: rest)) := by
  obtain ⟨nextKey, nextValue⟩ := next
  simp [entryChars, writeEntries]

theorem toList_write_list (items : List Value) :
    (write (.list items)).toList = '[' :: (itemChars items ++ [']']) := by
  simp [write, itemChars]

theorem toList_write_object (entries : List (String × Value)) :
    (write (.object entries)).toList = '\x7b' :: (entryChars entries ++ ['\x7d']) := by
  simp [write, entryChars, Value.openBrace, Value.closeBrace]

theorem opens_write (v : Value) : Opens (write v).toList := by
  cases v with
  | null => exact ⟨'n', _, rfl, by decide, by decide, by decide, by decide⟩
  | bool value =>
      cases value
      · exact ⟨'f', _, rfl, by decide, by decide, by decide, by decide⟩
      · exact ⟨'t', _, rfl, by decide, by decide, by decide, by decide⟩
  | int value => exact (startsNumber_toString value).opens
  | float value =>
      cases value with
      | nan => exact ⟨'N', _, rfl, by decide, by decide, by decide, by decide⟩
      | infinity negative =>
          cases negative
          · exact ⟨'I', _, rfl, by decide, by decide, by decide, by decide⟩
          · exact ⟨'-', _, rfl, by decide, by decide, by decide, by decide⟩
      | finite negative m e hcanonical =>
          have h := readNumber_double negative m e hcanonical EndsNumber.nil
          rw [List.append_nil] at h
          exact (startsNumber_of_readNumber h).opens
  | text value => exact opens_writeText value
  | member value => exact opens_writeText value.wire
  | date value => exact opens_writeText value.text
  | moment value => exact opens_writeText value.text
  | list items =>
      exact ⟨'[', _, toList_write_list items, by decide, by decide, by decide, by decide⟩
  | object entries =>
      exact ⟨'\x7b', _, toList_write_object entries, by decide, by decide, by decide, by decide⟩

theorem opens_itemChars (item : Value) (rest : List Value) : Opens (itemChars (item :: rest)) := by
  cases rest with
  | nil => exact itemChars_singleton item ▸ opens_write item
  | cons next rest => exact itemChars_cons_cons item next rest ▸ (opens_write item).append _

theorem opens_entryChars (entry : String × Value) (rest : List (String × Value)) :
    Opens (entryChars (entry :: rest)) := by
  obtain ⟨key, value⟩ := entry
  cases rest with
  | nil => exact entryChars_singleton key value ▸ (opens_writeText key).append _
  | cons next rest =>
      exact entryChars_cons_cons key value next rest ▸ (opens_writeText key).append _

/-! ## Reading what was written -/

theorem length_le_length_written (cs tail : List Char) : cs.length < (written cs tail).length := by
  induction cs with
  | nil => simp [written]
  | cons c cs ih =>
      have hpos : 0 < (writeChar c).length := by
        have h := spelled_writeChar c
        generalize writeChar c = spelling at h
        cases h <;> simp [unitEscape]
      rw [written_cons, List.length_append, List.length_cons]
      omega

theorem reads_text (s : String) (room fuel : ℕ) (rest : List Char)
    (hfuel : (writeText s).toList.length ≤ fuel) :
    Reads (readValue fuel room ((writeText s).toList ++ rest)) (some (.text (settledText s)))
      rest := by
  have hlength := length_le_length_written s.toList []
  have hchars := toList_writeText s []
  rw [List.append_nil] at hchars
  rw [hchars, List.length_cons] at hfuel
  obtain ⟨fuel, rfl⟩ : ∃ n, fuel = n + 1 := ⟨fuel - 1, by omega⟩
  rw [toList_writeText, readValue, if_pos (by decide), readText_written _ _ _ (by omega)]
  exact Reads.ok _

/-- A word is read as it is, whatever stands after it. -/
theorem reads_word {word : List Char} {value : Value} (room fuel : ℕ) (rest : List Char)
    (hword : readWord? (word ++ rest) = some (value, rest))
    (hhead : word.head? ≠ some Text.doubleQuote ∧ word.head? ≠ some '[' ∧
      word.head? ≠ some '\x7b')
    (hne : word ≠ []) (hfuel : 0 < fuel) :
    Reads (readValue fuel room (word ++ rest)) (some value) rest := by
  obtain ⟨fuel, rfl⟩ : ∃ n, fuel = n + 1 := ⟨fuel - 1, by omega⟩
  obtain ⟨c, more, rfl⟩ := List.exists_cons_of_ne_nil hne
  simp only [List.head?_cons, ne_eq, Option.some.injEq] at hhead
  obtain ⟨hquote, hlist, hobject⟩ := hhead
  rw [List.cons_append] at hword ⊢
  simp only [readValue, beq_iff_eq, hquote, hlist, hobject, if_false, hword]
  exact Reads.ok _

theorem readValue_number {cs : List Char} (h : StartsNumber cs) (room fuel : ℕ)
    (hfuel : 0 < fuel) : readValue fuel room cs = readNumber cs := by
  obtain ⟨fuel, rfl⟩ : ∃ n, fuel = n + 1 := ⟨fuel - 1, by omega⟩
  have hword := readWord?_number h
  obtain ⟨negative, digit, more, hdigit, rfl⟩ := h
  cases negative with
  | true =>
      simp only [signChars, if_true, List.cons_append, List.nil_append] at hword ⊢
      simp [readValue, hword, Text.doubleQuote]
  | false =>
      have hquote := digit_ne hdigit (c := Text.doubleQuote) rfl
      have hlist := digit_ne hdigit (c := '[') rfl
      have hobject := digit_ne hdigit (c := '\x7b') rfl
      simp only [signChars, Bool.false_eq_true, if_false, List.nil_append] at hword ⊢
      simp only [readValue, beq_iff_eq, hquote, hlist, hobject, if_false, hword]

theorem reads_int (i : ℤ) (room fuel : ℕ) {rest : List Char} (hrest : EndsNumber rest)
    (hfuel : 0 < fuel) :
    Reads (readValue fuel room ((toString i).toList ++ rest))
      (if Legible i then some (.int i) else none) rest := by
  rw [readValue_number ((startsNumber_toString i).append rest) room fuel hfuel]
  obtain ⟨hok, herror⟩ := readNumber_int i hrest
  split
  next hlegible =>
    rw [hok hlegible]
    exact Reads.ok _
  next hlegible =>
    obtain ⟨failure, hfailure⟩ := herror hlegible
    rw [hfailure]
    exact Reads.error failure

theorem reads_double (d : Double) (room fuel : ℕ) {rest : List Char} (hrest : EndsNumber rest)
    (hfuel : 0 < fuel) :
    Reads (readValue fuel room ((writeDouble d).toList ++ rest)) (some (.float d)) rest := by
  cases d with
  | nan => exact reads_word room fuel rest rfl (by decide) (by decide) hfuel
  | infinity negative =>
      cases negative with
      | true => exact reads_word room fuel rest rfl (by decide) (by decide) hfuel
      | false => exact reads_word room fuel rest rfl (by decide) (by decide) hfuel
  | finite negative m e hcanonical =>
      have h := readNumber_double negative m e hcanonical hrest
      rw [writeDouble, readValue_number (startsNumber_of_readNumber h) room fuel hfuel, h]
      · exact Reads.ok _
      · simp
      · simp

/-- After an item the list ends, or goes on with a comma. -/
theorem EndsNumber.of_mark {c : Char} (rest : List Char) (h : c = ',' ∨ c = ']' ∨ c = '\x7d') :
    EndsNumber (c :: rest) := by
  apply EndsNumber.cons
  rcases h with rfl | rfl | rfl <;> decide

/-- What was written for the value is read as `reread?` says, whatever stands after it. -/
def Rereads (v : Value) : Prop :=
  ∀ room fuel rest, EndsNumber rest → 2 * (write v).toList.length ≤ fuel →
    Reads (readValue fuel room ((write v).toList ++ rest)) (reread? v room) rest

theorem reads_items {items : List Value} (hitems : ∀ item ∈ items, Rereads item) (hne : items ≠ [])
    (room fuel : ℕ) (rest : List Char) (hfuel : 2 * (itemChars items).length + 1 ≤ fuel) :
    Reads (readItems fuel room (itemChars items ++ ']' :: rest)) (rereadItems? items room)
      rest := by
  induction items generalizing fuel with
  | nil => exact absurd rfl hne
  | cons item items ih =>
      obtain ⟨fuel, rfl⟩ : ∃ n, fuel = n + 1 := ⟨fuel - 1, by omega⟩
      have hitem := hitems item (by simp)
      rw [readItems, rereadItems?]
      cases items with
      | nil =>
          rw [itemChars_singleton] at hfuel ⊢
          have hmark := EndsNumber.of_mark rest (c := ']') (by simp)
          apply (hitem room fuel _ hmark (by omega)).bind
          intro item
          exact Reads.ok _
      | cons next items =>
          rw [itemChars_cons_cons] at hfuel ⊢
          simp only [List.length_cons, List.length_append] at hfuel
          rw [List.append_assoc]
          have hmark := EndsNumber.of_mark (' ' :: itemChars (next :: items) ++ ']' :: rest)
            (c := ',') (by simp)
          apply (hitem room fuel _ hmark (by omega)).bind
          intro item
          have hopens := (opens_itemChars next items).append (']' :: rest)
          have hskip : skipSpace (' ' :: (itemChars (next :: items) ++ ']' :: rest))
              = itemChars (next :: items) ++ ']' :: rest := hopens.skipSpace
          have hmore := ih (fun item hitem => hitems item (by simp [hitem])) (by simp) fuel
            (by omega)
          rw [← hskip] at hmore
          exact hmore.map fun items => rfl

/-- An entry is read by its key and its value; then it is looked at what stands after it. -/
theorem readEntries_entry (key : String) (value : Value) (room fuel : ℕ) (done : Entries)
    (rest : List Char) (hfuel : (writeText key).toList.length ≤ fuel) :
    readEntries (fuel + 1) room done
        ((writeText key).toList ++ ':' :: ' ' :: ((write value).toList ++ rest))
      = (do
          let (value, rest) ← readValue fuel room ((write value).toList ++ rest)
          let entries := done.insert (settledText key) value
          match skipSpace rest with
          | '\x7d' :: rest => return (entries, rest)
          | ',' :: rest => readEntries fuel room entries (skipSpace rest)
          | rest => fail .expectingComma rest.length) := by
  have hlength := length_le_length_written key.toList []
  have hchars := toList_writeText key []
  rw [List.append_nil] at hchars
  rw [hchars, List.length_cons] at hfuel
  have hvalue : skipSpace (' ' :: ((write value).toList ++ rest)) = (write value).toList ++ rest :=
    ((opens_write value).append rest).skipSpace
  rw [toList_writeText, readEntries, if_neg (by decide), readText_written _ _ _ (by omega), ok_bind]
  exact congrArg (fun cs => readValue fuel room cs >>= _) hvalue

theorem reads_entries {entries : List (String × Value)}
    (hentries : ∀ entry ∈ entries, Rereads entry.2) (hne : entries ≠ []) (room fuel : ℕ)
    (done : Entries) (rest : List Char) (hfuel : 2 * (entryChars entries).length + 1 ≤ fuel) :
    Reads (readEntries fuel room done (entryChars entries ++ '\x7d' :: rest))
      (rereadEntries? entries room done) rest := by
  induction entries generalizing fuel done with
  | nil => exact absurd rfl hne
  | cons entry entries ih =>
      obtain ⟨key, value⟩ := entry
      obtain ⟨fuel, rfl⟩ : ∃ n, fuel = n + 1 := ⟨fuel - 1, by omega⟩
      have hvalue : Rereads value := hentries (key, value) (by simp)
      rw [rereadEntries?]
      cases entries with
      | nil =>
          rw [entryChars_singleton] at hfuel ⊢
          simp only [List.length_cons, List.length_append] at hfuel
          rw [List.append_assoc, List.cons_append, List.cons_append,
            readEntries_entry _ _ _ _ _ _ (by omega)]
          have hmark := EndsNumber.of_mark rest (c := '\x7d') (by simp)
          apply (hvalue room fuel _ hmark (by omega)).bind
          intro value
          exact Reads.ok _
      | cons next entries =>
          rw [entryChars_cons_cons] at hfuel ⊢
          simp only [List.length_cons, List.length_append] at hfuel
          rw [List.append_assoc, List.cons_append, List.cons_append, List.append_assoc,
            List.cons_append, List.cons_append, readEntries_entry _ _ _ _ _ _ (by omega)]
          have hmark := EndsNumber.of_mark (' ' :: (entryChars (next :: entries) ++ '\x7d' :: rest))
            (c := ',') (by simp)
          apply (hvalue room fuel _ hmark (by omega)).bind
          intro value
          have hopens := (opens_entryChars next entries).append ('\x7d' :: rest)
          have hskip : skipSpace (' ' :: (entryChars (next :: entries) ++ '\x7d' :: rest))
              = entryChars (next :: entries) ++ '\x7d' :: rest := hopens.skipSpace
          have hmore := ih (fun entry hentry => hentries entry (by simp [hentry])) (by simp) fuel
            (done.insert (settledText key) value) (by omega)
          rw [← hskip] at hmore
          exact hmore

theorem sizeOf_item_lt {items : List Value} {item : Value} (h : item ∈ items) :
    sizeOf item < sizeOf (Value.list items) := by
  have hlt := List.sizeOf_lt_of_mem h
  simp only [Value.list.sizeOf_spec]
  omega

theorem sizeOf_entry_lt {entries : List (String × Value)} {entry : String × Value}
    (h : entry ∈ entries) : sizeOf entry.2 < sizeOf (Value.object entries) := by
  have hlt := List.sizeOf_lt_of_mem h
  have hvalue : sizeOf entry.2 < sizeOf entry := by
    obtain ⟨key, value⟩ := entry
    simp only [Prod.mk.sizeOf_spec]
    omega
  simp only [Value.object.sizeOf_spec]
  omega

/-- What was written for a value is read as `reread?` says. -/
theorem rereads (v : Value) : Rereads v := by
  intro room fuel rest hrest hfuel
  obtain ⟨c, more, hopens, -⟩ := opens_write v
  have hpos : 0 < fuel := by
    rw [hopens, List.length_cons] at hfuel
    omega
  cases v with
  | null => exact reads_word room fuel rest rfl (by decide) (by decide) hpos
  | bool value =>
      cases value with
      | true => exact reads_word room fuel rest rfl (by decide) (by decide) hpos
      | false => exact reads_word room fuel rest rfl (by decide) (by decide) hpos
  | int value => exact reads_int value room fuel hrest hpos
  | float value => exact reads_double value room fuel hrest hpos
  | text value => exact reads_text value room fuel rest (by rw [write] at hfuel; omega)
  | member value => exact reads_text value.wire room fuel rest (by rw [write] at hfuel; omega)
  | date value => exact reads_text value.text room fuel rest (by rw [write] at hfuel; omega)
  | moment value => exact reads_text value.text room fuel rest (by rw [write] at hfuel; omega)
  | list items =>
      obtain ⟨fuel, rfl⟩ : ∃ n, fuel = n + 1 := ⟨fuel - 1, by omega⟩
      rw [toList_write_list] at hfuel ⊢
      simp only [List.length_cons, List.length_append, List.length_nil] at hfuel
      rw [List.cons_append, List.append_assoc, readValue, if_neg (by decide), if_pos (by decide),
        reread?]
      split
      next => exact Reads.error _
      next =>
        have hitems : ∀ item ∈ items, Rereads item := fun item _ => rereads item
        cases items with
        | nil => exact Reads.ok _
        | cons item items =>
            have hopens := (opens_itemChars item items).append ([']'] ++ rest)
            rw [hopens.skipSpace]
            split
            next after heq =>
              obtain ⟨c, more, hcons, -, -, hne, -⟩ := hopens
              rw [heq] at hcons
              exact absurd (List.cons.inj hcons).1.symm hne
            next =>
              exact (reads_items hitems (by simp) (room - 1) fuel rest (by omega)).map
                fun items => rfl
  | object entries =>
      obtain ⟨fuel, rfl⟩ : ∃ n, fuel = n + 1 := ⟨fuel - 1, by omega⟩
      rw [toList_write_object] at hfuel ⊢
      simp only [List.length_cons, List.length_append, List.length_nil] at hfuel
      rw [List.cons_append, List.append_assoc, readValue, if_neg (by decide), if_neg (by decide),
        if_pos (by decide), reread?]
      split
      next => exact Reads.error _
      next =>
        have hentries : ∀ entry ∈ entries, Rereads entry.2 := fun entry _ => rereads entry.2
        cases entries with
        | nil => exact Reads.ok _
        | cons entry entries =>
            have hopens := (opens_entryChars entry entries).append (['\x7d'] ++ rest)
            rw [hopens.skipSpace]
            split
            next after heq =>
              obtain ⟨c, more, hcons, -, -, -, hne⟩ := hopens
              rw [heq] at hcons
              exact absurd (List.cons.inj hcons).1.symm hne
            next =>
              exact (reads_entries hentries (by simp) (room - 1) fuel [] rest (by omega)).map
                fun entries => rfl
termination_by sizeOf v
decreasing_by
  · subst v
    exact sizeOf_item_lt ‹_›
  · subst v
    exact sizeOf_entry_lt ‹_›

/-- The text of a value is read as `reread?` says, or not read. -/
theorem read_write (v : Value) : (read (write v)).toOption = reread? v depthLimit := by
  have h := rereads v depthLimit (2 * (write v).toList.length + 2) [] EndsNumber.nil (by omega)
  rw [List.append_nil] at h
  have hspace := (opens_write v).skipSpace
  obtain ⟨c, more, hcons, hascii, -⟩ := opens_write v
  unfold read readAll
  rw [hspace]
  split
  next after hmark =>
    obtain rfl := (List.cons.inj (hcons.symm.trans hmark)).1
    exact absurd hascii (by decide)
  next =>
    cases hread : readValue (2 * (write v).toList.length + 2) depthLimit (write v).toList with
    | error failure =>
        rw [hread] at h
        cases hvalue : reread? v depthLimit with
        | none => rfl
        | some w => rw [hvalue] at h; cases h
    | ok pair =>
        rw [hread] at h
        cases hvalue : reread? v depthLimit with
        | none => rw [hvalue] at h; cases h
        | some w =>
            rw [hvalue] at h
            obtain rfl : pair = (w, []) := Option.some.inj h
            rfl

/-! ## Reading twice -/

/-- The value is read as it is. -/
def Settled (room : ℕ) (v : Value) : Prop := reread? v room = some v

/-- The entries have one key each, and are read as they are. -/
structure SettledEntries (room : ℕ) (entries : Entries) : Prop where
  nodup : entries.keys.Nodup
  key : ∀ key ∈ entries.keys, settledText key = key
  value : ∀ entry ∈ entries, Settled room entry.2

theorem SettledEntries.nil (room : ℕ) : SettledEntries room [] :=
  ⟨List.nodup_nil, by simp [Table.keys], by simp⟩

theorem SettledEntries.insert {room : ℕ} {entries : Entries} (h : SettledEntries room entries)
    {key : String} {value : Value} (hkey : settledText key = key) (hvalue : Settled room value) :
    SettledEntries room (entries.insert key value) := by
  refine ⟨Table.nodup_keys_insert h.nodup key value, fun other hother => ?_, fun entry hentry => ?_⟩
  · rcases (Table.mem_keys_insert entries key other value).mp hother with rfl | hold
    · exact hkey
    · exact h.key other hold
  · rcases Table.mem_of_mem_insert hentry with rfl | hold
    · exact hvalue
    · exact h.value entry hold

theorem rereadItems?_settled {room : ℕ} {items : List Value}
    (h : ∀ item ∈ items, Settled room item) : rereadItems? items room = some items := by
  induction items with
  | nil => rfl
  | cons item items ih =>
      have hitem : reread? item room = some item := h item (by simp)
      have hrest := ih fun item hmem => h item (by simp [hmem])
      rw [rereadItems?, hitem, hrest]
      rfl

theorem rereadEntries?_settled {room : ℕ} {done entries : Entries}
    (h : SettledEntries room (done ++ entries)) :
    rereadEntries? entries room done = some (done ++ entries) := by
  induction entries generalizing done with
  | nil => rw [rereadEntries?, List.append_nil]
  | cons entry entries ih =>
      obtain ⟨key, value⟩ := entry
      have hvalue : reread? value room = some value := h.value (key, value) (by simp)
      have hkey : settledText key = key := h.key key (by simp [Table.keys])
      have hfresh : key ∉ Table.keys done := by
        have hnodup := h.nodup
        simp only [Table.keys, List.map_append, List.map_cons] at hnodup ⊢
        exact fun hmem => (List.nodup_append.mp hnodup).2.2 key hmem key (by simp) rfl
      have hsplit : done ++ (key, value) :: entries = (done ++ [(key, value)]) ++ entries := by simp
      rw [rereadEntries?, hvalue, Option.bind_some, hkey, Table.insert_of_not_mem hfresh,
        ih (hsplit ▸ h), ← hsplit]

section Reread

variable {room : ℕ}

theorem settled_items {items settled : List Value}
    (hitems : ∀ item ∈ items, ∀ w, reread? item room = some w → Settled room w)
    (h : rereadItems? items room = some settled) : ∀ item ∈ settled, Settled room item := by
  induction items generalizing settled with
  | nil =>
      obtain rfl : [] = settled := Option.some.inj h
      simp
  | cons item items ih =>
      rw [rereadItems?, Option.bind_eq_some_iff] at h
      obtain ⟨first, hfirst, hrest⟩ := h
      obtain ⟨more, hmore, rfl⟩ := Option.map_eq_some_iff.mp hrest
      intro other hother
      rcases List.mem_cons.mp hother with rfl | hother
      · exact hitems item (by simp) _ hfirst
      · exact ih (fun item hmem => hitems item (by simp [hmem])) hmore other hother

theorem settled_entries {entries : List (String × Value)} {done settled : Entries}
    (hentries : ∀ entry ∈ entries, ∀ w, reread? entry.2 room = some w → Settled room w)
    (hdone : SettledEntries room done) (h : rereadEntries? entries room done = some settled) :
    SettledEntries room settled := by
  induction entries generalizing done with
  | nil =>
      obtain rfl : done = settled := Option.some.inj h
      exact hdone
  | cons entry entries ih =>
      obtain ⟨key, value⟩ := entry
      rw [rereadEntries?, Option.bind_eq_some_iff] at h
      obtain ⟨first, hfirst, hrest⟩ := h
      have hinsert := hdone.insert (settledText_settledText key)
        (hentries (key, value) (by simp) first hfirst)
      exact ih (fun entry hmem => hentries entry (by simp [hmem])) hinsert hrest

end Reread

/-- What was read of a value is read as it is. -/
theorem settled_of_reread? {v w : Value} {room : ℕ} (h : reread? v room = some w) :
    Settled room w := by
  unfold Settled
  cases v with
  | null | bool _ | float _ =>
      obtain rfl := Option.some.inj h
      rfl
  | int value =>
      rw [reread?] at h
      split at h
      next hlegible =>
        obtain rfl := Option.some.inj h
        rw [reread?, if_pos hlegible]
      next => cases h
  | text _ | member _ | date _ | moment _ =>
      obtain rfl := Option.some.inj h
      rw [reread?, settledText_settledText]
  | list items =>
      rw [reread?] at h
      split at h
      next => cases h
      next hroom =>
        obtain ⟨settled, hsettled, rfl⟩ := Option.map_eq_some_iff.mp h
        have hitems := settled_items (fun item _ w hw => settled_of_reread? hw) hsettled
        rw [reread?, if_neg hroom, rereadItems?_settled hitems]
        rfl
  | object entries =>
      rw [reread?] at h
      split at h
      next => cases h
      next hroom =>
        obtain ⟨settled, hsettled, rfl⟩ := Option.map_eq_some_iff.mp h
        have hentries := settled_entries (fun entry _ w hw => settled_of_reread? hw)
          (SettledEntries.nil _) hsettled
        have hagain : rereadEntries? settled _ [] = some settled := rereadEntries?_settled hentries
        rw [reread?, if_neg hroom, hagain]
        rfl
termination_by sizeOf v
decreasing_by
  · subst v
    exact sizeOf_item_lt ‹_›
  · subst v
    exact sizeOf_entry_lt ‹_›

end CaseWorkflow.Json
