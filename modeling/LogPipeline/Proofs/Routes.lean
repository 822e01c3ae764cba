import LogPipeline.Proofs.Traffic
import Mathlib.Data.List.Dedup
import Mathlib.Data.List.Flatten
import Mathlib.Logic.Relation

/-!
# Routes by key set

An orchestrator by key set launches one pipeline for each tuple of key values that it sees. The
records of all sinks that have these values go there, those of one sink in the order in which the
sink was given them, and no other record does (`Traffic.routes_of_reaches`).
-/

namespace LogPipeline

/-- The template that the settings ask for. Without one the values are joined by points. -/
def TagTemplate.ofSettings (names : List String) : Option String → Except SettingsError TagTemplate
  | some text => parse text names
  | none => .ok (dotted names)

namespace Orchestrator

variable {schema : Schema} {x : Plant} {o : Orchestrator} {names : List String}
  {text : Option String}

theorem buildKeyed_cases (hr : x.ground.blueprint.settings.routing = .byKeySet names text)
    (hb : buildKeyed schema x = .ok o) :
    x.ground.blueprint.settings.check = .ok () ∧ ∃ fields template,
      KeyFields.ofNames schema names = .ok fields
        ∧ TagTemplate.ofSettings names text = .ok template
        ∧ o = { plant := x, router := .keyed fields template {} } := by
  simp only [buildKeyed, hr, bind, Except.bind] at hb
  split at hb
  · simp at hb
  · rename_i hcheck
    rcases hfields : KeyFields.ofNames schema names with e | fields
    · simp [hfields] at hb
    · obtain ⟨hnames, -⟩ := KeyFields.values_ofNames hfields {}
      refine ⟨hcheck, fields, ?_⟩
      cases text with
      | none =>
        simp only [hfields, hnames] at hb
        exact ⟨_, rfl, rfl, (Except.ok.inj hb).symm⟩
      | some text =>
        simp only [hfields, hnames] at hb
        rcases htemplate : TagTemplate.parse text names with e | template
        · simp [htemplate] at hb
        · simp only [htemplate] at hb
          exact ⟨template, rfl, htemplate, (Except.ok.inj hb).symm⟩

end Orchestrator

/-- No sink has come yet. -/
theorem Lane.flows_empty (fields : KeyFields) (id : Nat) :
    Flows fields [] id ⟨[], [], [], [], none⟩ :=
  ⟨rfl, by simp, by simp, ⟨[], [], rfl, by simp, by simp⟩, fun _ => rfl, by simp, by simp⟩

namespace Traffic

variable {schema : Schema} {x : Plant} {o : Orchestrator} {names : List String}
  {text : Option String} {t t' : Traffic} {fields : KeyFields} {template : TagTemplate}

theorem ordered_start (hcheck : x.ground.blueprint.settings.check = .ok ())
    (hx : x.pipelines = []) (fields : KeyFields) (template : TagTemplate) :
    Ordered fields template x
      { orchestrator := { plant := x, router := .keyed fields template {} } } := by
  have hkeySets : x.keySets = [] := by
    rw [Plant.keySets, hx]
    rfl
  refine ⟨⟨hcheck, ?_, ⟨{}, rfl, rfl, ?_, ?_⟩, ?_, ?_⟩, fun id => ?_, ?_, ?_, ?_, ?_⟩
  · simp [hx]
  · simp [hx]
  · simp [hx]
  · simp [hx]
  · rw [hkeySets]
    exact ⟨List.nodup_nil, by simp⟩
  · rw [hkeySets]
    exact Lane.flows_empty fields id
  · simp [hkeySets]
  · simp [hx, Orchestrator.books]
  · exact Nat.le_refl _
  · simp [Plant.waitingAt, hx, entered]

theorem Ordered.reaches (h : t.Ordered fields template x)
    (hm : Relation.ReflTransGen Move t t') (hshort : ∀ e ∈ t'.accepted, e.2.Short) :
    t'.Ordered fields template x := by
  induction hm with
  | refl => exact h
  | tail _ hmove ih =>
    have hshort' := fun e he => hshort e (hmove.accepted.subset he)
    exact (ih hshort').move hshort' hmove

/-! ## Where records go -/

/-- A record of a sink went to a pipeline, is on its way there, or waits to be. -/
def GoesTo (id : Nat) (r : Record) (j : Nat) (t : Traffic) : Prop := r ∈ (t.lane id).towards j

/-- The records of one sink that entered the input of a pipeline, in their order. -/
def enteredFrom (id j : Nat) (t : Traffic) : Batch :=
  ((t.lane id).shipped.filter fun d => d.entered && d.pipeline == j).flatMap Shipment.batch

/-- How an orchestrator by key set routes. Two records go to the same pipeline if and only if they
have the same key values, and there are no pipelines but for the values that were seen. -/
structure Routed (schema : Schema) (names : List String) (template : TagTemplate) (x : Plant)
    (t : Traffic) : Prop where
  /-- Records that a call has come to go to a pipeline. -/
  accepted : ∀ id, (t.lane id).accepted
    = (t.lane id).routed ++ (t.calls id).errands.flatMap Errand.unrouted
  placed : ∀ id r, (id, r) ∈ t.routed → ∃ j, t.GoesTo id r j
  same : ∀ id r j id' r' j', t.GoesTo id r j → t.GoesTo id' r' j' →
    (j = j' ↔ ∀ name ∈ names, schema.valueOf r name = schema.valueOf r' name)
  /-- Pipelines are numbered, and known by the key values of their records. -/
  meets : ∀ id r j, t.GoesTo id r j →
    ∃ p, t.orchestrator.plant.pipelines[j]? = some p ∧ p.keySet = schema.tuple names r
  named : ∀ (j : Nat) (p : Pipeline), t.orchestrator.plant.pipelines[j]? = some p →
    p.id = j ∧ p.tag = template.render p.keySet
  seen : ∀ v, v ∈ t.orchestrator.plant.keySets ↔ ∃ e ∈ t.routed, schema.tuple names e.2 = v
  launched : t.orchestrator.books.counters.pipelinesLaunched
    = x.ground.books.counters.pipelinesLaunched
      + (t.routed.map fun e => schema.tuple names e.2).dedup.length
  /-- The order of each sink is kept, and what does not enter an input is counted as lost. -/
  streams : ∀ (id j : Nat) (p : Pipeline), t.orchestrator.plant.pipelines[j]? = some p →
    (t.lane id).accepted.filter (fun r => decide (schema.tuple names r = p.keySet))
      = (t.lane id).towards j ++ ((t.calls id).errands.flatMap Errand.unrouted).filter
          (fun r => decide (schema.tuple names r = p.keySet))
  ordered : ∀ (id j : Nat) (p : Pipeline), t.orchestrator.plant.pipelines[j]? = some p →
    (t.enteredFrom id j).Sublist
      ((t.lane id).accepted.filter fun r => decide (schema.tuple names r = p.keySet))
  /-- What entered an input was taken from its front or waits there, in the order of its coming. -/
  queued : ∀ (j : Nat) (p : Pipeline), t.orchestrator.plant.pipelines[j]? = some p →
    t.taken j ++ p.input.items = t.entered j
  lost : x.ground.books.counters.recordsLost + total Shipment.loss t.shipped
    ≤ t.orchestrator.books.counters.recordsLost

theorem Ordered.routed (h : t.Ordered fields template x)
    (hvalues : ∀ r, fields.values r = schema.tuple names r) : t.Routed schema names template x := by
  have hkeySet : ∀ {j : Nat} {p : Pipeline}, t.orchestrator.plant.pipelines[j]? = some p →
      t.orchestrator.plant.keySets[j]? = some p.keySet := fun hp =>
    Plant.getElem?_keySets.2 ⟨_, hp, rfl⟩
  have hgoes : ∀ {id : Nat} {r : Record} {j : Nat}, t.GoesTo id r j →
      t.orchestrator.plant.keySets[j]? = some (schema.tuple names r) := fun hr =>
    hvalues _ ▸ (h.lanes _).values_of_towards hr
  have hseen : ∀ v, v ∈ t.orchestrator.plant.keySets
      ↔ ∃ e ∈ t.routed, schema.tuple names e.2 = v := by
    intro v
    constructor
    · intro hv
      obtain ⟨e, he, hev⟩ := h.seen v hv
      exact ⟨e, he, (hvalues _).symm.trans hev⟩
    · rintro ⟨⟨id, r⟩, he, rfl⟩
      rw [← hvalues]
      exact (h.lanes id).known r (mem_ofSink.2 he)
  have hstreams : ∀ (id j : Nat) (p : Pipeline), t.orchestrator.plant.pipelines[j]? = some p →
      (t.lane id).accepted.filter (fun r => decide (schema.tuple names r = p.keySet))
        = (t.lane id).towards j ++ ((t.calls id).errands.flatMap Errand.unrouted).filter
            (fun r => decide (schema.tuple names r = p.keySet)) := by
    intro id j p hp
    simp only [← hvalues]
    exact (h.lanes id).accepted_filter (hkeySet hp)
  refine {
    accepted := fun id => (h.lanes id).accepted
    placed := fun id r hr => (h.lanes id).exists_towards (mem_ofSink.2 hr)
    same := fun id r j id' r' j' hr hr' => ?same
    meets := fun id r j hr => Plant.getElem?_keySets.1 (hgoes hr)
    named := h.directed.named
    seen := hseen
    launched := ?launched
    streams := hstreams
    ordered := fun id j p hp => ?ordered
    queued := fun j p hp => Plant.waitingAt_of_getElem? hp ▸ h.queued j
    lost := h.lost }
  case same =>
    rw [← Schema.tuple_eq_iff]
    constructor
    · rintro rfl
      exact Option.some.inj ((hgoes hr).symm.trans (hgoes hr'))
    · intro heq
      exact h.directed.distinct.index (hgoes hr) (heq ▸ hgoes hr')
  case launched =>
    -- the key sets are the tuples that were seen, each once
    have hperm : t.orchestrator.plant.keySets.Perm
        (t.routed.map fun e => schema.tuple names e.2).dedup := by
      rw [List.perm_ext_iff_of_nodup h.directed.distinct.once (List.nodup_dedup _)]
      intro v
      rw [hseen, List.mem_dedup, List.mem_map]
    rw [h.launched, ← hperm.length_eq, Plant.length_keySets]
  case ordered =>
    rw [hstreams id j p hp]
    have hfilter : ((t.lane id).shipped.filter fun d => d.entered && d.pipeline == j).Sublist
        ((t.lane id).shipped.filter (·.pipeline == j)) :=
      List.monotone_filter_right _ fun d hd => (Bool.and_eq_true_iff.1 hd).2
    have hshipped := hfilter.flatMap Shipment.batch
    unfold Lane.towards
    rw [List.append_assoc, List.append_assoc]
    exact hshipped.trans (List.sublist_append_left _ _)

/-- However the calls on the sinks and the parties take turns, records are routed by their key
values. -/
theorem routes_of_reaches (hrouting : x.ground.blueprint.settings.routing = .byKeySet names text)
    (hx : x.pipelines = []) (hb : Orchestrator.buildKeyed schema x = .ok o)
    (hm : Relation.ReflTransGen Move { orchestrator := o } t)
    (hshort : ∀ e ∈ t.accepted, e.2.Short) :
    ∃ template, TagTemplate.ofSettings names text = .ok template
      ∧ t.Routed schema names template x := by
  obtain ⟨hcheck, fields, template, hfields, htemplate, rfl⟩ :=
    Orchestrator.buildKeyed_cases hrouting hb
  have h := (ordered_start hcheck hx fields template).reaches hm hshort
  exact ⟨template, htemplate, h.routed fun r => (KeyFields.values_ofNames hfields r).2⟩

/-- Two records of two sinks agree on the key field and go to one pipeline. A record without this
field goes to a second one. The first sink is closed, and sends what it has: the first pipeline
takes its batch, and the second one has its batch waiting. -/
theorem routes_of_two_sinks :
    let a : Record := { fields := [⟨"info", 4⟩, ⟨"1:a", 3⟩] }
    let b : Record := { fields := [⟨"warn", 4⟩, ⟨"1:a", 3⟩] }
    let c : Record := { fields := [⟨"warn", 4⟩] }
    ∃ x o t, x.ground.blueprint.settings.routing = .byKeySet ["app"] none
      ∧ Orchestrator.buildKeyed ⟨["level", "app"]⟩ x = .ok o
      ∧ Relation.ReflTransGen Move { orchestrator := o } t
      ∧ t.accepted = [(1, a), (1, c), (2, b)]
      ∧ (∃ j, t.GoesTo 1 a j ∧ t.GoesTo 2 b j ∧ ¬ t.GoesTo 1 c j)
      ∧ t.orchestrator.books.counters.pipelinesLaunched = 2
      ∧ t.entered 0 = [[a]] ∧ t.taken 0 = [[a]]
      ∧ t.entered 1 = [[c]] ∧ t.orchestrator.plant.waitingAt 1 = [[c]] := by
  intro a b c
  let x : Plant :=
    ⟨{ blueprint := { settings := { routing := .byKeySet ["app"] none }, collects := true }
       destination := ⟨{ capacity := 1 }, []⟩ }, []⟩
  have hb : Orchestrator.buildKeyed ⟨["level", "app"]⟩ x
      = .ok { plant := x, router := .keyed ⟨["app"], [1]⟩ (.dotted ["app"]) {} } := rfl
  have h₁ : Relation.ReflTransGen Move
      { orchestrator := { plant := x, router := .keyed ⟨["app"], [1]⟩ (.dotted ["app"]) {} } } _ :=
    .tail (.tail .refl (.addSink 1 rfl)) (.addSink 2 rfl)
  have h₂ := h₁.tail (.accept 1 [a, c] (Option.some_ne_none _) rfl)
    |>.tail (.accept 2 [b] (Option.some_ne_none _) rfl)
  -- the calls on the two sinks take turns
  have h₃ := h₂.tail (.goOn 1) |>.tail (.goOn 2) |>.tail (.goOn 1)
  have h₄ := h₃.tail (.close 1 (Option.isSome_iff_ne_none.1 (by decide)) (by decide))
    |>.tail (.goOn 1) |>.tail (.goOn 1)
  have h₅ := h₄.tail (.act ⟨0, .supervisor⟩) |>.tail (.act ⟨0, .supervisor⟩)
  have hrouting : x.ground.blueprint.settings.routing = .byKeySet ["app"] none := rfl
  obtain ⟨template, -, h⟩ := routes_of_reaches hrouting rfl hb h₅ (by
    simp only [Record.Short]
    decide)
  obtain ⟨j, ha⟩ := h.placed 1 a (by decide)
  obtain ⟨j', hb'⟩ := h.placed 2 b (by decide)
  obtain rfl : j = j' := (h.same _ _ _ _ _ _ ha hb').2 (by decide)
  refine ⟨x, _, _, rfl, hb, h₅, by decide, ⟨j, ha, hb', fun hc => ?_⟩, ?_, ?_, ?_, ?_, ?_⟩
  · exact absurd ((h.same _ _ _ _ _ _ ha hc).1 rfl) (by decide)
  · rw [h.launched]
    decide
  · decide
  · decide
  · decide
  · decide

end Traffic

end LogPipeline
