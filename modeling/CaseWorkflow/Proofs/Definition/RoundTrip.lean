import CaseWorkflow.Definition.Showing
import CaseWorkflow.Proofs.Definition.Reading
import CaseWorkflow.Proofs.Queue.RoundTrip

/-!
# Definitions shown and read again

Reading a definition brings its fields to a form that is read as it is, so that a definition
that was read is read once more of what it shows.  It is shown unless its parameters nest too
deep to be copied.
-/

namespace CaseWorkflow

/-! ## Settled fields -/

namespace Value

theorem orElse_orElse (v other : Value) : (v.orElse other).orElse other = v.orElse other := by
  by_cases h : v.isTruthy = true
  · have hv : v.orElse other = v := if_pos h
    rw [hv, hv]
  · have hv : v.orElse other = other := if_neg h
    rw [hv, orElse, ite_self]

theorem isTruthy_plain (v : Value) : v.plain.isTruthy = v.isTruthy := by
  cases v <;> rfl

theorem plain_plain (v : Value) : v.plain.plain = v.plain := by
  cases v <;> rfl

theorem plain_orElse (v : Value) (other : String) :
    (v.orElse (.text other)).plain = v.plain.orElse (.text other) := by
  by_cases h : v.isTruthy = true
  · rw [orElse, if_pos h, orElse, if_pos ((isTruthy_plain v).trans h)]
  · have hplain : ¬v.plain.isTruthy = true := by rwa [isTruthy_plain]
    rw [orElse, if_neg h, orElse, if_neg hplain]
    rfl

end Value

theorem Operator.find?_value (operator : Operator) :
    Vocabulary.find? (Vocabulary.value operator) = some operator := by
  cases operator <;> decide

/-! ## What reading comes to -/

/-- Reading does not change the field any more, and the operator is known. -/
structure Condition.Settled (c : Condition) : Prop where
  field : c.field.orElse (.text "") = c.field
  operator : ∃ operator, c.operator = .known operator

structure Trigger.Settled (t : Trigger) : Prop where
  kind : ∃ kind, t.kind = .known kind
  conditions : ∀ c ∈ t.conditions, c.Settled

structure Action.Settled (a : Action) : Prop where
  kind : (a.kind.orElse (.text "")).plain = a.kind
  parameters : ∃ parameters, a.parameters = .object parameters

structure Definition.Settled (d : Definition) : Prop where
  id : d.id.orElse (.text "") = d.id
  name : d.name.orElse (.text "") = d.name
  description : d.description.orElse (.text "") = d.description
  trigger : ∃ trigger, d.trigger = some trigger ∧ trigger.Settled
  actions : ∀ a ∈ d.actions, a.Settled

section Reading

variable {v : Value}

theorem Condition.settled_of_read {c : Condition} (h : read v = .ok c) : c.Settled := by
  unfold read at h
  split at h
  next entries hentries =>
    split at h
    next => cases h
    next operator hoperator =>
      obtain rfl := Except.ok.inj h
      exact ⟨Value.orElse_orElse _ _, operator, rfl⟩
  next => cases h

theorem Trigger.settled_of_read {entries : Entries} {t : Trigger} (h : read entries = .ok t) :
    t.Settled := by
  rw [read_eq] at h
  obtain ⟨kind, hkind, h⟩ := bind_eq_ok h
  obtain ⟨items, hitems, h⟩ := bind_eq_ok h
  cases hconditions : items.mapM Condition.read with
  | error problem =>
      rw [hconditions] at h
      cases h
  | ok conditions =>
      rw [hconditions] at h
      obtain rfl := Except.ok.inj h
      refine ⟨⟨kind, rfl⟩, ?_⟩
      intro c hc
      obtain ⟨item, -, hread⟩ := exists_of_mapM hconditions c hc
      exact Condition.settled_of_read hread

theorem Action.settled_of_read {a : Action} (h : read v = .ok a) : a.Settled := by
  unfold read at h
  split at h
  next entries hentries =>
    split at h
    next parameters hparameters =>
      obtain rfl := Except.ok.inj h
      refine ⟨?_, parameters, rfl⟩
      rw [Value.plain_orElse, Value.plain_plain, Value.plain_orElse, Value.orElse_orElse]
    next => cases h
  next => cases h

theorem Definition.settled_of_read {d : Definition} (h : read v = .ok d) : d.Settled := by
  obtain ⟨entries, trigger, parts, -, -, hparts, rfl⟩ := exists_parts_of_read h
  obtain ⟨htrigger, items, -, hactions⟩ := exists_of_readParts hparts
  refine {
    id := Value.orElse_orElse _ _
    name := Value.orElse_orElse _ _
    description := Value.orElse_orElse _ _
    trigger := ⟨parts.1, rfl, Trigger.settled_of_read htrigger⟩
    actions := ?_ }
  intro a ha
  obtain ⟨item, -, hread⟩ := exists_of_mapM hactions a ha
  exact Action.settled_of_read hread

end Reading

/-! ## What is settled is read as it is -/

theorem Condition.Settled.read_toValue {c : Condition} (h : c.Settled) :
    read c.toValue = .ok c := by
  obtain ⟨field, operator, value⟩ := c
  obtain ⟨hfield, operator, rfl⟩ := h
  let entries : Entries :=
    [("field", field), ("operator", Vocabulary.value operator), ("value", value)]
  have hshown : toValue ⟨field, .known operator, value⟩ = .object entries := rfl
  have hoperator : entries.field "operator" = Vocabulary.value operator := rfl
  have hgiven : (entries.field "field").orElse (.text "") = field := hfield
  have hvalue : entries.field "value" = value := rfl
  unfold read
  simp only [hshown, Value.entries?, hoperator, Operator.find?_value, hgiven, hvalue]

theorem mapM_read_toValue {α : Type} {read : Value → Except Problem α} {toValue : α → Value}
    {row : List α} (h : ∀ a ∈ row, read (toValue a) = .ok a) :
    (row.map toValue).mapM read = .ok row := by
  rw [List.mapM_map]
  exact (mapM_eq_map h).trans (congrArg Except.ok row.map_id)

theorem TriggerKind.isTruthy_value (kind : TriggerKind) :
    (Vocabulary.value kind).isTruthy = true := by
  cases kind <;> decide

theorem Trigger.Settled.read_toValue {t : Trigger} (h : t.Settled) :
    ∃ entries, t.toValue = .object entries ∧ read entries = .ok t := by
  obtain ⟨kind, conditions⟩ := t
  obtain ⟨⟨kind, rfl⟩, hconditions⟩ := h
  let entries : Entries := [("type", Vocabulary.value kind),
    ("conditions", .list (conditions.map Condition.toValue))]
  have htype : entries.field "type" = Vocabulary.value kind := rfl
  have hitems : (entries.field "conditions").itemsOf .triggerConditions
      = .ok (conditions.map Condition.toValue) := rfl
  have hkind : readKind entries = .ok kind := by
    simp [readKind, htype, kind.isTruthy_value, Vocabulary.find?_value]
  refine ⟨entries, rfl, ?_⟩
  rw [read_eq, hkind, hitems]
  change ((conditions.map Condition.toValue).mapM Condition.read).map _ = _
  rw [mapM_read_toValue fun c hc => (hconditions c hc).read_toValue]
  rfl

theorem Action.field_timeout (a : Action) :
    ∃ entries : Entries, a.toValue = .object entries ∧ entries.field "type" = a.kind ∧
      entries.field "parameters" = a.parameters ∧ entries.field "timeout_seconds" = a.timeout := by
  refine ⟨_, rfl, rfl, rfl, ?_⟩
  cases htimeout : a.timeout with
  | null => rfl
  | _ => rfl

theorem Action.Settled.read_toValue {a : Action} (h : a.Settled) : read a.toValue = .ok a := by
  obtain ⟨parameters, hparameters⟩ := h.parameters
  obtain ⟨entries, hvalue, hkind, hgiven, htimeout⟩ := a.field_timeout
  unfold read
  simp only [hvalue, Value.entries?, hkind, hgiven, htimeout, hparameters, Value.orElse_object,
    h.kind]
  rw [← hparameters]

/-- A definition that was read is read once more, as it is, of its data. -/
theorem Definition.Settled.read_toValue {d : Definition} (h : d.Settled) :
    read d.toValue = .ok d := by
  obtain ⟨trigger, htrigger, hsettled⟩ := h.trigger
  obtain ⟨entries, hvalue, hread⟩ := hsettled.read_toValue
  let shown : Entries := [("id", d.id), ("name", d.name), ("description", d.description),
    ("trigger", .object entries), ("actions", .list (d.actions.map Action.toValue))]
  have hshown : d.toValue = .object shown := by
    simp [toValue, htrigger, hvalue, shown]
  have hparts : readParts shown entries = .ok (trigger, d.actions) := by
    unfold readParts
    rw [hread]
    change ((d.actions.map Action.toValue).mapM Action.read >>= fun actions =>
      pure (trigger, actions)) = _
    rw [mapM_read_toValue fun a ha => (h.actions a ha).read_toValue]
    rfl
  have hfield : shown.field "trigger" = .object entries := rfl
  rw [hshown, read_object hfield, hparts]
  change Except.ok (ofParts shown (trigger, d.actions)) = _
  have hid : (shown.field "id").orElse (.text "") = d.id := h.id
  have hname : (shown.field "name").orElse (.text "") = d.name := h.name
  have hdescription : (shown.field "description").orElse (.text "") = d.description :=
    h.description
  rw [ofParts, hid, hname, hdescription, ← htrigger]

/-! ## What is shown -/

theorem Condition.Settled.show? {c : Condition} (h : c.Settled) : c.show? = .ok c.toValue := by
  obtain ⟨operator, hoperator⟩ := h.operator
  rw [Condition.show?, hoperator]
  rfl

theorem Trigger.Settled.show? {t : Trigger} (h : t.Settled) : t.show? = .ok t.toValue := by
  obtain ⟨kind, hkind⟩ := h.kind
  rw [Trigger.show?, hkind]
  change (t.conditions.mapM Condition.show? >>= _) = _
  rw [mapM_eq_map fun c hc => (h.conditions c hc).show?]
  rw [Trigger.toValue, hkind]
  rfl

theorem Action.show?_of_le {a : Action} (h : Json.depth a.parameters ≤ copyDepth) :
    a.show? = .ok a.toValue := if_pos h

theorem Action.show?_of_lt {a : Action} (h : copyDepth < Json.depth a.parameters) :
    a.show? = .error .tooDeep := if_neg (Nat.not_le_of_lt h)

namespace Definition

variable {d : Definition}

theorem Settled.show?_of_le (h : d.Settled)
    (hdepth : ∀ a ∈ d.actions, Json.depth a.parameters ≤ copyDepth) :
    d.show? = .ok d.toValue := by
  obtain ⟨trigger, htrigger, hsettled⟩ := h.trigger
  rw [show?, htrigger, toValue, htrigger]
  change (trigger.show? >>= _) = _
  rw [hsettled.show?, mapM_eq_map fun a ha => Action.show?_of_le (hdepth a ha)]
  rfl

theorem Settled.show?_of_lt (h : d.Settled)
    (hdepth : ∃ a ∈ d.actions, copyDepth < Json.depth a.parameters) :
    d.show? = .error .tooDeep := by
  obtain ⟨trigger, htrigger, hsettled⟩ := h.trigger
  obtain ⟨deep, hdeep, hlt⟩ := hdepth
  rw [show?, htrigger]
  change (trigger.show? >>= _) = _
  rw [hsettled.show?]
  -- the row stops at an action that need not be this one, but it is too deep as well
  rcases mapM_cases Action.show? d.actions with ⟨shown, -, hall⟩ | ⟨gap, hrow, a, ha, hgap⟩
  · obtain ⟨value, hok⟩ := hall deep hdeep
    rw [Action.show?_of_lt hlt] at hok
    cases hok
  · by_cases hshallow : Json.depth a.parameters ≤ copyDepth
    · rw [Action.show?_of_le hshallow] at hgap
      cases hgap
    · rw [Action.show?_of_lt (Nat.lt_of_not_le hshallow)] at hgap
      obtain rfl := Except.error.inj hgap
      rw [hrow]
      rfl

/-- A definition that was read shows the data of which it is read again, and again gets the same
verdict, unless the parameters of an action nest too deep to be copied; then it shows nothing. -/
theorem read_again_of_shown {v : Value} (h : read v = .ok d) :
    ((∀ a ∈ d.actions, Json.depth a.parameters ≤ copyDepth) →
      ∃ shown again, d.show? = .ok shown ∧ read shown = .ok again ∧ again = d ∧
        Workflow.ofDefinition again = Workflow.ofDefinition d) ∧
    ((∃ a ∈ d.actions, copyDepth < Json.depth a.parameters) → d.show? = .error .tooDeep) := by
  have hsettled := settled_of_read h
  constructor
  · intro hdepth
    exact ⟨d.toValue, d, hsettled.show?_of_le hdepth, hsettled.read_toValue, rfl, rfl⟩
  · exact hsettled.show?_of_lt

/-- Fields that say nothing, a kind that no handler knows, and times that are no spans. -/
def sparseData : Value :=
  .object [
    ("name", .int 0),
    ("trigger", .object [("type", .text "processo_criado"), ("conditions", .null)]),
    ("extra", .bool true),
    ("actions", .list [
      .object [("type", .text "abrir_chamado"), ("parameters", .list []),
        ("timeout_seconds", .int 0)],
      .object [("timeout_seconds", .bool false)]])]

theorem read_again_of_shown_sparse :
    ∃ d shown, read sparseData = .ok d ∧ d.show? = .ok shown ∧ read shown = .ok d := by
  have hread : read sparseData = .ok {
      id := .text ""
      name := .text ""
      description := .text ""
      trigger := some ⟨.known .processCreated, []⟩
      actions := [⟨.text "abrir_chamado", .object [], .int 0⟩,
        ⟨.text "", .object [], .bool false⟩] } := rfl
  have hdepth : ∀ a ∈ [(⟨.text "abrir_chamado", .object [], .int 0⟩ : Action),
      ⟨.text "", .object [], .bool false⟩], Json.depth a.parameters ≤ copyDepth := by
    decide
  obtain ⟨shown, again, hshown, hagain, rfl, -⟩ := (read_again_of_shown hread).1 hdepth
  exact ⟨_, shown, hread, hshown, hagain⟩

/-- A tag that nests too deep to be copied. -/
def deepTagData : Value :=
  .object [
    ("id", .text "etiqueta"),
    ("name", .text "Etiqueta"),
    ("trigger", .object [("type", .text "processo_criado")]),
    ("actions", .list [
      .object [("type", .text "adicionar_tag"),
        ("parameters", .object [("tag", Message.nested copyDepth)])]])]

theorem exists_read_not_shown :
    ∃ d, read deepTagData = .ok d ∧ d.show? = .error .tooDeep := by
  have hread : read deepTagData = .ok {
      id := .text "etiqueta"
      name := .text "Etiqueta"
      description := .text ""
      trigger := some ⟨.known .processCreated, []⟩
      actions := [⟨.text "adicionar_tag", .object [("tag", Message.nested copyDepth)], .null⟩] } :=
    rfl
  refine ⟨_, hread, (settled_of_read hread).show?_of_lt ⟨_, List.mem_cons_self, ?_⟩⟩
  simp [Json.depth, Json.entriesDepth, Message.depth_nested]

end Definition

end CaseWorkflow
