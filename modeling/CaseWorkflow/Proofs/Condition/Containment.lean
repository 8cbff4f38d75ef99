import CaseWorkflow.Proofs.Condition.Meaning

/-!
# Texts that stand in other texts

`contains` looks for the small letters of one text in those of another one.  The small letter of
a capital sigma depends on its neighbours, and that of every other character on itself alone.  So
a text is found wherever it stands, unless a capital sigma at one of its ends reads otherwise
there.
-/

namespace CaseWorkflow

namespace Text

variable {before after passed part : List Char}

theorem eq_of_infix_cons {l m : List Char} {x : Char} (h : l <:+: x :: m)
    (hlength : l.length = m.length) (hhead : l.head? ≠ some x) : l = m := by
  rcases List.infix_cons_iff.mp h with hprefix | hinfix
  · rcases List.prefix_cons_iff.mp hprefix with rfl | ⟨t, rfl, -⟩
    · exact (List.length_eq_zero_iff.mp hlength.symm).symm
    · exact absurd rfl hhead
  · exact hinfix.eq_of_length hlength

theorem eq_of_infix_concat {l m : List Char} {x : Char} (h : l <:+: m ++ [x])
    (hlength : l.length = m.length) (hlast : l.getLast? ≠ some x) : l = m := by
  rw [← List.reverse_infix, List.reverse_append] at h
  exact List.reverse_injective
    (eq_of_infix_cons h (by simpa using hlength) (by rwa [List.head?_reverse]))

/-! ## Neighbours -/

theorem nextIsCased_cons (c : Char) (cs : List Char) :
    nextIsCased (c :: cs) = if isCaseIgnorable c then nextIsCased cs else isCased c := by
  unfold nextIsCased
  rw [List.dropWhile_cons]
  cases isCaseIgnorable c <;> rfl

/-- What stands further off counts only where all that stands nearer does not. -/
theorem nextIsCased_append (cs ds : List Char) :
    nextIsCased (cs ++ ds) =
      if cs.all isCaseIgnorable then nextIsCased ds else nextIsCased cs := by
  induction cs with
  | nil => rfl
  | cons c cs ih =>
      rw [List.cons_append, nextIsCased_cons, nextIsCased_cons, List.all_cons, ih]
      cases isCaseIgnorable c <;> simp

theorem nextIsCased_of_all {cs : List Char} (h : cs.all isCaseIgnorable = true) :
    nextIsCased cs = false := by
  have happend := nextIsCased_append cs []
  rw [List.append_nil, if_pos h] at happend
  exact happend

theorem lowerSigma_of_not_before (h : nextIsCased before = false) (after : List Char) :
    lowerSigma before after = 'σ' := by simp [lowerSigma, h]

theorem lowerSigma_of_after (before : List Char) (h : nextIsCased after = true) :
    lowerSigma before after = 'σ' := by simp [lowerSigma, h]

theorem lowerSigma_final (hbefore : nextIsCased before = true)
    (hafter : nextIsCased after = false) : lowerSigma before after = 'ς' := by
  simp [lowerSigma, hbefore, hafter]

/-! ## A stretch of a text -/

/-- The small form of a character between its neighbours. -/
def lowerAmong (before after : List Char) (c : Char) : List Char :=
  if c == 'Σ' then [lowerSigma before after] else lowerChar c

theorem lowerFrom_cons (before : List Char) (c : Char) (after : List Char) :
    lowerFrom before (c :: after) = lowerAmong before after c ++ lowerFrom (c :: before) after :=
  rfl

theorem length_lowerAmong (before before' after after' : List Char) (c : Char) :
    (lowerAmong before after c).length = (lowerAmong before' after' c).length := by
  unfold lowerAmong
  split <;> rfl

/-- Only a capital sigma looks at its neighbours. -/
theorem lowerAmong_eq_iff {before before' after after' : List Char} {c : Char} :
    lowerAmong before after c = lowerAmong before' after' c ↔
      (c = 'Σ' → lowerSigma before after = lowerSigma before' after') := by
  unfold lowerAmong
  by_cases h : c = 'Σ'
  · simp [h]
  · simp [h]

/-- The small letters of a stretch of a text; `before` holds what was passed, the nearest first,
and `after` what follows the stretch. -/
def lowerBetween (before after : List Char) : List Char → List Char
  | [] => []
  | c :: rest => lowerAmong before (rest ++ after) c ++ lowerBetween (c :: before) after rest

/-- The small letters of a text are those of a stretch and those of what follows it. -/
theorem lowerFrom_append (before part after : List Char) :
    lowerFrom before (part ++ after)
      = lowerBetween before after part ++ lowerFrom (part.reverse ++ before) after := by
  induction part generalizing before with
  | nil => rfl
  | cons c part ih =>
      rw [List.cons_append, lowerFrom_cons, ih, lowerBetween, List.reverse_cons]
      simp only [List.append_assoc, List.singleton_append]

theorem lowerBetween_nil (before part : List Char) :
    lowerBetween before [] part = lowerFrom before part := by
  have happend := lowerFrom_append before part []
  rw [lowerFrom, List.append_nil, List.append_nil] at happend
  exact happend.symm

theorem lowerFrom_parts (before part after : List Char) :
    lowerFrom [] (before ++ part ++ after)
      = lowerBetween [] (part ++ after) before ++ lowerBetween before.reverse after part
        ++ lowerFrom (part.reverse ++ before.reverse) after := by
  rw [List.append_assoc, lowerFrom_append, lowerFrom_append, List.append_nil, List.append_assoc]

/-- The neighbours decide which small letters there are, not how many. -/
theorem length_lowerBetween (before after part : List Char) :
    (lowerBetween before after part).length = (lowerFrom passed part).length := by
  induction part generalizing before passed with
  | nil => rfl
  | cons c part ih =>
      rw [lowerBetween, lowerFrom_cons, List.length_append, List.length_append, ih,
        length_lowerAmong]

/-- Each capital sigma of the part has the same small letter between the two texts as in the part
alone. -/
def SigmasStand (before part after : List Char) : Prop :=
  ∀ u v, part = u ++ 'Σ' :: v →
    lowerSigma (u.reverse ++ before.reverse) (v ++ after) = lowerSigma u.reverse v

/-- A capital sigma of a text is its first character or one of the rest. -/
theorem forall_sigma_cons {P : List Char → List Char → Prop} {c : Char} :
    (∀ u v, c :: part = u ++ 'Σ' :: v → P u v) ↔
      (c = 'Σ' → P [] part) ∧ ∀ u v, part = u ++ 'Σ' :: v → P (c :: u) v := by
  constructor
  · intro h
    exact ⟨fun hc => h [] part (by rw [hc]; rfl),
      fun u v hpart => h (c :: u) v (by rw [hpart]; rfl)⟩
  · rintro ⟨hfirst, hrest⟩ u v hsplit
    cases u with
    | nil =>
        obtain ⟨hc, rfl⟩ := List.cons.inj hsplit
        exact hfirst hc
    | cons d u =>
        obtain ⟨rfl, hpart⟩ := List.cons.inj hsplit
        exact hrest u v hpart

theorem lowerBetween_append_eq_iff (passed before after part : List Char) :
    lowerBetween (passed ++ before) after part = lowerFrom passed part ↔
      ∀ u v, part = u ++ 'Σ' :: v →
        lowerSigma (u.reverse ++ (passed ++ before)) (v ++ after)
          = lowerSigma (u.reverse ++ passed) v := by
  -- what of the part was passed is nearest to what is left of it, both alone and in its place
  induction part generalizing passed with
  | nil => simp [lowerBetween, lowerFrom]
  | cons c part ih =>
      have hrest := ih (c :: passed)
      rw [List.cons_append] at hrest
      rw [forall_sigma_cons, lowerBetween, lowerFrom_cons]
      simp only [List.reverse_nil, List.nil_append, List.reverse_cons, List.append_assoc,
        List.singleton_append]
      rw [← hrest, ← lowerAmong_eq_iff]
      constructor
      · exact fun heq => List.append_inj heq (length_lowerAmong _ _ _ _ c)
      · rintro ⟨hfirst, hthen⟩
        rw [hfirst, hthen]

/-- A part reads between two texts as it does alone if and only if its capital sigmas do. -/
theorem lowerBetween_eq_iff :
    lowerBetween before.reverse after part = lowerFrom [] part ↔ SigmasStand before part after := by
  have hiff := lowerBetween_append_eq_iff [] before.reverse after part
  simp only [List.nil_append, List.append_nil] at hiff
  exact hiff

/-! ## Sigmas at the ends -/

/-- A capital sigma near one end of the text depends on what stands beyond that end: before the
first one nothing counts and no cased letter follows it, or after the last one nothing counts and
a cased letter stands before it. -/
def OpenSigma (part : List Char) : Prop :=
  ∃ u v, part = u ++ 'Σ' :: v ∧
    (u.all isCaseIgnorable = true ∧ nextIsCased v = false ∨
      nextIsCased u.reverse = true ∧ v.all isCaseIgnorable = true)

/-- Without a capital sigma at its ends a text reads everywhere as it does alone. -/
theorem sigmasStand_of_not_openSigma (h : ¬OpenSigma part) (before after : List Char) :
    SigmasStand before part after := by
  intro u v hpart
  have hneither := fun hopen => h ⟨u, v, hpart, hopen⟩
  cases hu : u.all isCaseIgnorable with
  | true =>
      have halone : nextIsCased u.reverse = false :=
        nextIsCased_of_all (by rw [List.all_reverse, hu])
      have hv : nextIsCased v = true := by
        by_contra hv
        exact hneither (.inl ⟨hu, by simpa using hv⟩)
      have hvall : ¬v.all isCaseIgnorable = true := fun hvall => by
        rw [nextIsCased_of_all hvall] at hv
        cases hv
      rw [lowerSigma_of_not_before halone, lowerSigma_of_after]
      rw [nextIsCased_append, if_neg hvall, hv]
  | false =>
      have hbefore : nextIsCased (u.reverse ++ before.reverse) = nextIsCased u.reverse := by
        rw [nextIsCased_append, List.all_reverse, hu]
        rfl
      cases hv : v.all isCaseIgnorable with
      | true =>
          have halone : nextIsCased u.reverse = false := by
            by_contra hcased
            exact hneither (.inr ⟨by simpa using hcased, hv⟩)
          rw [lowerSigma_of_not_before halone, lowerSigma_of_not_before (hbefore.trans halone)]
      | false =>
          have hafter : nextIsCased (v ++ after) = nextIsCased v := by
            rw [nextIsCased_append, hv]
            rfl
          rw [lowerSigma, lowerSigma, hbefore, hafter]

/-- A capital sigma before which nothing counts becomes final after a cased letter. -/
theorem not_sigmasStand_after {x : Char} (hx : isCased x = true)
    (hcounts : isCaseIgnorable x = false) {u v : List Char} (hu : u.all isCaseIgnorable = true)
    (hv : nextIsCased v = false) : ¬SigmasStand [x] (u ++ 'Σ' :: v) [] := by
  intro hstand
  have hsame := hstand u v rfl
  have hthere : nextIsCased (u.reverse ++ [x].reverse) = true := by
    rw [nextIsCased_append, List.all_reverse, if_pos hu]
    simp [nextIsCased_cons, hx, hcounts]
  rw [List.append_nil, lowerSigma_final hthere hv, lowerSigma_of_not_before] at hsame
  · cases hsame
  · exact nextIsCased_of_all (by rw [List.all_reverse, hu])

/-- A capital sigma after which nothing counts is not final before a cased letter. -/
theorem not_sigmasStand_before {x : Char} (hx : isCased x = true)
    (hcounts : isCaseIgnorable x = false) {u v : List Char} (hu : nextIsCased u.reverse = true)
    (hv : v.all isCaseIgnorable = true) : ¬SigmasStand [] (u ++ 'Σ' :: v) [x] := by
  intro hstand
  have hsame := hstand u v rfl
  have hthere : nextIsCased (v ++ [x]) = true := by
    rw [nextIsCased_append, if_pos hv]
    simp [nextIsCased_cons, hx, hcounts]
  rw [lowerSigma_of_after _ hthere, lowerSigma_final hu (nextIsCased_of_all hv)] at hsame
  cases hsame

/-- There is a small letter other than a given one. -/
theorem exists_letter_ne (d : Option Char) :
    ∃ x, d ≠ some x ∧ isCased x = true ∧ isCaseIgnorable x = false ∧
      ∀ before after, lowerBetween before after [x] = [x] := by
  by_cases h : d = some 'a'
  · exact ⟨'b', by rw [h]; decide, by decide +kernel, by decide +kernel, fun _ _ => rfl⟩
  · exact ⟨'a', h, by decide +kernel, by decide +kernel, fun _ _ => rfl⟩

/-- A text with a capital sigma at one of its ends is missed beside some letter, which is chosen
so that the text does not fit one place further on either. -/
theorem exists_missed_of_openSigma (h : OpenSigma part) :
    ∃ before after, ¬lowerFrom [] part <:+: lowerFrom [] (before ++ part ++ after) := by
  obtain ⟨u, v, rfl, ⟨hu, hv⟩ | ⟨hu, hv⟩⟩ := h
  · obtain ⟨x, hne, hx, hcounts, hletter⟩ :=
      exists_letter_ne (lowerFrom [] (u ++ 'Σ' :: v)).head?
    refine ⟨[x], [], fun hfound => not_sigmasStand_after hx hcounts hu hv ?_⟩
    rw [lowerFrom_parts, hletter, lowerFrom, List.append_nil] at hfound
    exact lowerBetween_eq_iff.mp
      (eq_of_infix_cons hfound (length_lowerBetween _ _ _).symm hne).symm
  · obtain ⟨x, hne, hx, hcounts, hletter⟩ :=
      exists_letter_ne (lowerFrom [] (u ++ 'Σ' :: v)).getLast?
    refine ⟨[], [x], fun hfound => not_sigmasStand_before hx hcounts hu hv ?_⟩
    rw [lowerFrom_parts, ← lowerBetween_nil _ [x], hletter, lowerBetween,
      List.nil_append] at hfound
    exact lowerBetween_eq_iff.mp
      (eq_of_infix_concat hfound (length_lowerBetween _ _ _).symm hne).symm

end Text

/-! ## Conditions -/

theorem occursIn_iff {needle text : List Char} :
    occursIn needle text = true ↔ needle <:+: text := by
  induction text with
  | nil => simp [occursIn]
  | cons c cs ih =>
      rw [occursIn, Bool.or_eq_true, ih, List.isPrefixOf_iff_prefix, List.infix_cons_iff]

/-- The text of a value is found in that of another one if its small letters stand there. -/
theorem Value.mentions_iff {v part : Value} :
    v.mentions part = true ↔
      Text.lowerFrom [] part.plainText.toList <:+: Text.lowerFrom [] v.plainText.toList := by
  unfold mentions Text.lower
  simp only [String.toList_ofList, Bool.and_eq_true, decide_eq_true_eq, occursIn_iff]
  exact and_iff_right_of_imp List.IsInfix.length_le

namespace Condition

theorem evaluate_contains {field : String} {part actual : Value} {data : Entries}
    (hactual : data.lookup field = some actual) :
    (asking field .contains part).evaluate data = .ok (actual.mentions part) ∧
      (asking field .notContains part).evaluate data = .ok (!actual.mentions part) :=
  ⟨evaluate_of_present rfl hactual, evaluate_of_present rfl hactual⟩

/-- Whatever the field and the data, `contains` holds of a value in whose text the part stands
between the two others, and `not_contains` does not. -/
def FoundBetween (part : Value) (before after : List Char) : Prop :=
  ∀ (field : String) (data : Entries) (actual : Value), data.lookup field = some actual →
    actual.plainText.toList = before ++ part.plainText.toList ++ after →
      (asking field .contains part).evaluate data = .ok true ∧
        (asking field .notContains part).evaluate data = .ok false

theorem foundBetween_of_sigmasStand {part : Value} {before after : List Char}
    (hstand : Text.SigmasStand before part.plainText.toList after) :
    FoundBetween part before after := by
  intro field data actual hactual hplace
  have hmentions : actual.mentions part = true := by
    rw [Value.mentions_iff, hplace, Text.lowerFrom_parts, Text.lowerBetween_eq_iff.mpr hstand]
    exact List.infix_append _ _ _
  rw [(evaluate_contains hactual).1, (evaluate_contains hactual).2, hmentions]
  exact ⟨rfl, rfl⟩

/-- A text is found at each place where its capital sigmas read as they do alone, and it is found
wherever it stands if and only if no capital sigma at its ends depends on what is around. -/
theorem contains_finds (part : Value) :
    (∀ before after, Text.SigmasStand before part.plainText.toList after →
        FoundBetween part before after) ∧
      ((∀ before after, FoundBetween part before after) ↔
        ¬Text.OpenSigma part.plainText.toList) := by
  refine ⟨fun before after => foundBetween_of_sigmasStand, ?_, ?_⟩
  · intro hfound hopen
    obtain ⟨before, after, hmissed⟩ := Text.exists_missed_of_openSigma hopen
    let actual : Value := .text (String.ofList (before ++ part.plainText.toList ++ after))
    have hplace : actual.plainText.toList = before ++ part.plainText.toList ++ after :=
      String.toList_ofList
    have hlookup : ([("f", actual)] : Entries).lookup "f" = some actual := rfl
    have hcontains := (hfound before after "f" _ actual hlookup hplace).1
    rw [(evaluate_contains hlookup).1, Except.ok.injEq, Value.mentions_iff, hplace] at hcontains
    exact hmissed hcontains
  · intro hopen before after
    exact foundBetween_of_sigmasStand (Text.sigmasStand_of_not_openSigma hopen before after)

/-- The street is found where it is a word, though its small letters end in another sigma than
they would within a word. -/
theorem contains_finds_street :
    Text.SigmasStand "Οδός ".toList (Value.text "ΟΔΟΣ").plainText.toList " 5".toList ∧
      (asking "rua" .contains (.text "ΟΔΟΣ")).evaluate [("rua", .text "Οδός ΟΔΟΣ 5")]
        = .ok true := by
  have hstand : Text.SigmasStand "Οδός ".toList (Value.text "ΟΔΟΣ").plainText.toList
      " 5".toList := Text.lowerBetween_eq_iff.mp (by decide +kernel)
  exact ⟨hstand, ((contains_finds (.text "ΟΔΟΣ")).1 _ _ hstand "rua" _ (.text "Οδός ΟΔΟΣ 5")
    rfl (by decide +kernel)).1⟩

/-- A text that starts with another one does not contain it: alone the second ends a word. -/
theorem contains_misses_prefix :
    (Value.text "ΑΣΑ").plainText.toList = (Value.text "ΑΣ").plainText.toList ++ ['Α'] ∧
      (asking "f" .contains (.text "ΑΣ")).evaluate [("f", .text "ΑΣΑ")] = .ok false := by
  refine ⟨by decide +kernel, ?_⟩
  have hmissed : (Value.text "ΑΣΑ").mentions (.text "ΑΣ") = false := by decide +kernel
  rw [(evaluate_contains rfl).1, hmissed]

end Condition

end CaseWorkflow
