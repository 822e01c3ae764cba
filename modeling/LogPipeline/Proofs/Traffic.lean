import LogPipeline.Proofs.Directories

/-!
# Traffic

Many sinks are in use at once. Each has its own call under way, and these go on in any order, one
errand at a time, while the pipelines run (`Traffic.Move`). Every move keeps each record on its lane
and each lane in order, and counts what it loses. What entered an input is what was taken from it
and what waits there (`Traffic.Ordered.move`).
-/

namespace LogPipeline

/-- What the call on a sink has left to do, and until when it may send. -/
structure Call where
  errands : List Errand := []
  deadline : Instant := 0
deriving Inhabited

/-- An orchestrator and the calls on its sinks, each of which has it for one errand at a time. Noted
are the records that each sink was given, those that have found a buffer, the batches that the sinks
have parted with, and those that were taken from the input of each pipeline. -/
structure Traffic where
  orchestrator : Orchestrator
  calls : Nat → Call := fun _ => {}
  accepted : List (Nat × Record) := []
  routed : List (Nat × Record) := []
  shipped : List Shipment := []
  taken : Nat → List Batch := fun _ => []

namespace Traffic

variable {t t' : Traffic} {id k : Nat}

/-- The orchestrator in the hands of the call on a sink. -/
def lend (id : Nat) (t : Traffic) : Orchestrator :=
  { t.orchestrator with errands := (t.calls id).errands, deadline := (t.calls id).deadline }

/-- The call on a sink leaves the orchestrator like this. -/
def keep (id : Nat) (o : Orchestrator) (t : Traffic) : Traffic :=
  { t with orchestrator := o, calls := Function.update t.calls id ⟨o.errands, o.deadline⟩ }

/-- A sink is given records. -/
def accept (id : Nat) (l : Batch) (t : Traffic) : Traffic :=
  { t.keep id ((t.lend id).accept id l) with accepted := t.accepted ++ l.map (id, ·) }

/-- A sink is dropped, and what waits in it is lost. -/
def dropSink (id : Nat) (t : Traffic) : Traffic :=
  { t with
    orchestrator := t.orchestrator.dropSink id
    shipped := t.shipped ++ (((t.orchestrator.sink? id).map Sink.outlets).getD []).map fun o =>
      ⟨id, o.pipeline, o.buffer.pending, false⟩ }

/-- A record has found a buffer. -/
def note (id : Nat) (r : Record) (t : Traffic) : Traffic :=
  { t with routed := t.routed ++ [(id, r)] }

/-- A sink has parted with a batch. -/
def ship (d : Shipment) (t : Traffic) : Traffic := { t with shipped := t.shipped ++ [d] }

/-- The parties act, and leave the orchestrator like this. What they took from the inputs is
noted. -/
def proceed (o : Orchestrator) (t : Traffic) : Traffic :=
  { t with
    orchestrator := o
    taken := fun j => t.taken j ++ t.orchestrator.plant.takenAt j o.plant }

/-- The call on a sink does its next errand, if it can be done. -/
def goOn (id : Nat) (t : Traffic) : Traffic :=
  let o := t.lend id
  let t' := t.keep id o.callAct
  match o.errands with
  | .route _ r :: _ => t'.note id r
  | .send i b :: _ =>
    match o.plant.send o.deadline i b with
    | .done _ => t'.ship ⟨id, i, b, true⟩
    | .failed _ => t'.ship ⟨id, i, b, false⟩
    | .blocked => t'
  | _ => t'

/-- What may happen before a shutdown: sinks come and go, each is called once its call before has
returned, any call or party goes on, time passes, and something happens to the destination. -/
inductive Move (t : Traffic) : Traffic → Prop where
  | addSink (id : Nat) (hs : t.orchestrator.sink? id = none) :
    Move t { t with orchestrator := t.orchestrator.addSink id }
  | dropSink (id : Nat) (hc : (t.calls id).errands = []) : Move t (t.dropSink id)
  | accept (id : Nat) (l : Batch) (hs : t.orchestrator.sink? id ≠ none)
    (hc : (t.calls id).errands = []) : Move t (t.accept id l)
  | tick (id : Nat) (hs : t.orchestrator.sink? id ≠ none) (hc : (t.calls id).errands = []) :
    Move t (t.keep id ((t.lend id).tick id))
  | close (id : Nat) (hs : t.orchestrator.sink? id ≠ none) (hc : (t.calls id).errands = []) :
    Move t (t.keep id ((t.lend id).close id))
  | goOn (id : Nat) : Move t (t.goOn id)
  | act (a : Actor) : Move t (t.proceed (t.orchestrator.act a))
  | tickEarly (a : Actor) :
    Move t (t.proceed { t.orchestrator with plant := t.orchestrator.plant.tickEarly a })
  | setNow (now : Instant) : Move t { t with
      orchestrator := { t.orchestrator with plant := t.orchestrator.plant.setNow now } }
  | receive (d : Destination) : Move t { t with
      orchestrator := { t.orchestrator with plant.ground.destination := d } }

/-! ## Lanes -/

/-- The records of one sink. -/
def ofSink (id : Nat) (l : List (Nat × Record)) : Batch := (l.filter (·.1 == id)).map (·.2)

/-- The lane of a sink. -/
def lane (id : Nat) (t : Traffic) : Lane where
  accepted := ofSink id t.accepted
  routed := ofSink id t.routed
  shipped := t.shipped.filter (·.sink == id)
  errands := (t.calls id).errands
  sink := t.orchestrator.sink? id

/-- The batches that entered the input of a pipeline, in their order. -/
def entered (j : Nat) (t : Traffic) : List Batch :=
  (t.shipped.filter fun d => d.entered && d.pipeline == j).map Shipment.batch

@[simp] theorem ofSink_append (id : Nat) (l l' : List (Nat × Record)) :
    ofSink id (l ++ l') = ofSink id l ++ ofSink id l' := by
  simp [ofSink]

@[simp] theorem ofSink_self (id : Nat) (l : Batch) : ofSink id (l.map (id, ·)) = l := by
  simp [ofSink, List.filter_map, Function.comp_def]

theorem ofSink_of_ne (hk : k ≠ id) (l : Batch) : ofSink k (l.map (id, ·)) = [] := by
  simp [ofSink, List.filter_map, Function.comp_def, Ne.symm hk]

theorem mem_ofSink {l : List (Nat × Record)} {r : Record} : r ∈ ofSink id l ↔ (id, r) ∈ l := by
  simp [ofSink]

/-- A call leaves the lanes of other sinks as they are. -/
theorem lane_keep (hk : k ≠ id) {o : Orchestrator} (ho : o.sink? k = t.orchestrator.sink? k) :
    (t.keep id o).lane k = t.lane k := by
  simp only [lane, keep, Function.update_of_ne hk, ho]

theorem lane_keep_self (id : Nat) (o : Orchestrator) (t : Traffic) :
    (t.keep id o).lane id = { t.lane id with errands := o.errands, sink := o.sink? id } := by
  simp only [lane, keep, Function.update_self]

theorem lane_ship (hk : k ≠ id) {i : Nat} {b : Batch} {entered : Bool} :
    (t.ship ⟨id, i, b, entered⟩).lane k = t.lane k := by
  simp [lane, ship, Ne.symm hk]

theorem lane_ship_self (i : Nat) (b : Batch) (entered : Bool) :
    (t.ship ⟨id, i, b, entered⟩).lane id
      = { t.lane id with shipped := (t.lane id).shipped ++ [⟨id, i, b, entered⟩] } := by
  simp [lane, ship]

theorem lane_note (hk : k ≠ id) (r : Record) : (t.note id r).lane k = t.lane k := by
  simp [lane, note, ofSink, Ne.symm hk]

theorem lane_note_self (r : Record) :
    (t.note id r).lane id = { t.lane id with routed := (t.lane id).routed ++ [r] } := by
  simp [lane, note, ofSink]

theorem entered_ship (d : Shipment) (j : Nat) :
    (t.ship d).entered j
      = t.entered j ++ if d.entered && d.pipeline == j then [d.batch] else [] := by
  cases hd : d.entered && d.pipeline == j <;> simp [entered, ship, hd]

end Traffic

namespace Orchestrator

variable {o : Orchestrator} {id k : Nat} {s : Sink}

theorem sink?_dropSink (o : Orchestrator) (id k : Nat) :
    (o.dropSink id).sink? k = if k = id then none else o.sink? k := by
  have hfind : ∀ l : List (Nat × Sink), (l.filter (·.1 != id)).find? (·.1 == k)
      = if k = id then none else l.find? (·.1 == k) := by
    intro l
    rw [List.find?_filter]
    split
    · rename_i hk
      rw [List.find?_eq_none]
      simp [hk]
    · rename_i hk
      congr 1
      funext e
      by_cases he : e.1 = k
      · simp [he, hk]
      · simp [he]
  simp only [sink?, Orchestrator.dropSink, hfind]
  split <;> rfl

theorem sink?_addSink (hs : o.sink? id = none) {fields : KeyFields} {template : TagTemplate}
    {map : KeyMap PipelineEntry} (hr : o.router = .keyed fields template map) (k : Nat) :
    (o.addSink id).sink? k = if k = id then some (.keyed {}) else o.sink? k := by
  simp only [sink?, Orchestrator.addSink, dropSink_of_none hs, hr, List.find?_append,
    Option.map_or]
  by_cases hk : k = id
  · subst hk
    have hnone : o.sinks.find? (·.1 == k) = none := by simpa [sink?] using hs
    simp [hnone]
  · simp [hk, Ne.symm hk]

end Orchestrator

/-! ## What is always so -/

/-- The records of a shipment that are lost. -/
def Shipment.loss (d : Shipment) : Nat := if d.entered then 0 else d.batch.length

namespace Traffic

variable {t t' : Traffic} {id k : Nat} {fields : KeyFields} {template : TagTemplate} {x : Plant}

/-- Every record is on the lane of its sink, and each lane is in order. Pipelines are launched for
the key values of records only. What entered an input was taken from its front or still waits there,
in this order, and what did not enter was counted as lost. -/
structure Ordered (fields : KeyFields) (template : TagTemplate) (x : Plant) (t : Traffic) :
    Prop where
  directed : t.orchestrator.Directed fields template
  lanes : ∀ id, (t.lane id).Flows fields t.orchestrator.plant.keySets id
  seen : ∀ v ∈ t.orchestrator.plant.keySets, ∃ e ∈ t.routed, fields.values e.2 = v
  launched : t.orchestrator.books.counters.pipelinesLaunched
    = x.ground.books.counters.pipelinesLaunched + t.orchestrator.plant.pipelines.length
  lost : x.ground.books.counters.recordsLost + total Shipment.loss t.shipped
    ≤ t.orchestrator.books.counters.recordsLost
  queued : ∀ j, t.taken j ++ t.orchestrator.plant.waitingAt j = t.entered j

/-- The pipelines go on, and shipments may be lost. -/
theorem Ordered.of_continues (h : t.Ordered fields template x)
    (hx : t.orchestrator.plant.Continues t'.orchestrator.plant)
    (hdirected : t'.orchestrator.Directed fields template)
    (hlanes : ∀ id, (t'.lane id).Flows fields t.orchestrator.plant.keySets id)
    (hrouted : t.routed ⊆ t'.routed) {more : List Shipment}
    (hshipped : t'.shipped = t.shipped ++ more) (hmore : ∀ d ∈ more, d.entered = false)
    (hlost : t.orchestrator.books.counters.recordsLost + total Shipment.loss more
      ≤ t'.orchestrator.books.counters.recordsLost)
    (hqueued : ∀ j, t'.taken j ++ t'.orchestrator.plant.waitingAt j
      = t.taken j ++ t.orchestrator.plant.waitingAt j) : t'.Ordered fields template x := by
  have hkeySets : t'.orchestrator.plant.keySets = t.orchestrator.plant.keySets :=
    hx.map_eq fun p p' hp => hp.keySet
  have hentered : ∀ j, t'.entered j = t.entered j := by
    intro j
    have hnone : more.filter (fun d => d.entered && d.pipeline == j) = [] :=
      List.filter_eq_nil_iff.2 fun d hd => by simp [hmore d hd]
    rw [entered, entered, hshipped, List.filter_append, hnone, List.append_nil]
  refine ⟨hdirected, hkeySets ▸ hlanes, fun v hv => ?_, ?_, ?_, fun j => ?_⟩
  · obtain ⟨e, he, hev⟩ := h.seen v (hkeySets ▸ hv)
    exact ⟨e, hrouted he, hev⟩
  · have hlaunched := h.launched
    unfold Orchestrator.books at hlaunched ⊢
    rw [hx.books.launched, hx.length, hlaunched]
  · have hlost₀ := h.lost
    rw [hshipped, total_append]
    omega
  · rw [hqueued, hentered, h.queued]

/-- Nobody parts with a batch. -/
theorem Ordered.of_unshipped (h : t.Ordered fields template x)
    (hx : t.orchestrator.plant.Continues t'.orchestrator.plant)
    (hdirected : t'.orchestrator.Directed fields template)
    (hlanes : ∀ id, (t'.lane id).Flows fields t.orchestrator.plant.keySets id)
    (hrouted : t.routed ⊆ t'.routed) (hshipped : t'.shipped = t.shipped)
    (hqueued : ∀ j, t'.taken j ++ t'.orchestrator.plant.waitingAt j
      = t.taken j ++ t.orchestrator.plant.waitingAt j) : t'.Ordered fields template x :=
  h.of_continues hx hdirected hlanes hrouted (hshipped.trans (List.append_nil _).symm) (by simp)
    hx.books.lost hqueued

/-- Nothing happens to the pipelines. -/
theorem Ordered.of_plant_eq (h : t.Ordered fields template x)
    (hplant : t'.orchestrator.plant = t.orchestrator.plant)
    (hdirected : t'.orchestrator.Directed fields template)
    (hlanes : ∀ id, (t'.lane id).Flows fields t.orchestrator.plant.keySets id)
    (hrouted : t.routed ⊆ t'.routed) (hshipped : t'.shipped = t.shipped)
    (htaken : t'.taken = t.taken) : t'.Ordered fields template x :=
  h.of_unshipped (hplant ▸ .refl _) hdirected hlanes hrouted hshipped fun j => by
    rw [htaken, hplant]

/-- A pipeline is launched for the key values of a record. -/
theorem Ordered.of_launched (h : t.Ordered fields template x) {tag : String} {v : List String}
    (hplant : t'.orchestrator.plant = Orchestrator.launch tag v t.orchestrator.plant)
    (hdirected : t'.orchestrator.Directed fields template)
    (hlanes : ∀ id,
      (t'.lane id).Flows fields (Orchestrator.launch tag v t.orchestrator.plant).keySets id)
    {e : Nat × Record} (hrouted : t'.routed = t.routed ++ [e])
    (hv : fields.values e.2 = v) (hshipped : t'.shipped = t.shipped)
    (htaken : t'.taken = t.taken) : t'.Ordered fields template x := by
  have hkeySets : t'.orchestrator.plant.keySets = t.orchestrator.plant.keySets ++ [v] := by
    rw [hplant, Plant.keySets_launch]
  refine ⟨hdirected, hplant ▸ hlanes, fun w hw => ?_, ?_, ?_, fun j => ?_⟩
  · rw [hrouted]
    rw [hkeySets] at hw
    rcases List.mem_append.1 hw with hw | hw
    · obtain ⟨e', he', hev⟩ := h.seen w hw
      exact ⟨e', List.mem_append_left _ he', hev⟩
    · exact ⟨e, List.mem_append_right _ (List.mem_singleton.2 rfl),
        hv.trans (List.mem_singleton.1 hw).symm⟩
  · rw [← Plant.length_keySets, hkeySets, List.length_append, Plant.length_keySets,
      Orchestrator.books, hplant]
    exact congrArg (· + 1) h.launched
  · rw [hshipped, Orchestrator.books, hplant]
    exact h.lost
  · have hentered : t'.entered j = t.entered j := by rw [entered, entered, hshipped]
    rw [hentered, htaken, hplant, Plant.waitingAt_launch, h.queued]

/-! ## Parties -/

/-- The pipelines go on, and the calls do not. -/
theorem Ordered.of_plant (h : t.Ordered fields template x) {o : Orchestrator}
    {taken : Nat → List Batch}
    (hx : t.orchestrator.plant.Continues o.plant) (hsound : ∀ p ∈ o.plant.pipelines, p.Sound)
    (hr : ∀ map, t.orchestrator.router = .keyed fields template map →
      ∃ map', o.router = .keyed fields template map' ∧ map'.destroyed = map.destroyed
        ∧ map'.created = map.created ∧ map'.entries = map.entries)
    (hs : ∀ k, o.sink? k = t.orchestrator.sink? k)
    (hqueued : ∀ j, taken j ++ o.plant.waitingAt j
      = t.taken j ++ t.orchestrator.plant.waitingAt j) :
    Ordered fields template x { t with orchestrator := o, taken } := by
  refine h.of_unshipped hx (h.directed.of_continues hx hsound hr) (fun k => ?_)
    (List.Subset.refl _) rfl hqueued
  have hlane : lane k { t with orchestrator := o, taken } = t.lane k := by simp only [lane, hs]
  rw [hlane]
  exact h.lanes k

/-- What the parties take from an input was at its front. -/
theorem Ordered.proceed (h : t.Ordered fields template x) {o : Orchestrator}
    (hstep : t.orchestrator.plant.Step o.plant)
    (hr : ∀ map, t.orchestrator.router = .keyed fields template map →
      ∃ map', o.router = .keyed fields template map' ∧ map'.destroyed = map.destroyed
        ∧ map'.created = map.created ∧ map'.entries = map.entries)
    (hs : ∀ k, o.sink? k = t.orchestrator.sink? k) : (t.proceed o).Ordered fields template x := by
  have hx := Plant.continues_step hstep
  refine h.of_plant hx (Plant.sound_step h.directed.checked h.directed.sound hstep) hr hs
    fun j => ?_
  rw [List.append_assoc, hx.taken]

theorem Ordered.act (h : t.Ordered fields template x) (a : Actor) :
    (t.proceed (t.orchestrator.act a)).Ordered fields template x := by
  refine h.proceed (Plant.step_act h.directed.sound a) (fun map hr => ?_) fun k => rfl
  simp only [Orchestrator.act, hr]
  split
  · exact ⟨_, rfl, rfl, rfl, rfl⟩
  · exact ⟨_, rfl, rfl, rfl, rfl⟩

theorem Ordered.tickEarly (h : t.Ordered fields template x) (a : Actor) :
    (t.proceed { t.orchestrator with
      plant := t.orchestrator.plant.tickEarly a }).Ordered fields template x :=
  h.proceed (t.orchestrator.plant.step_tickEarly a) (fun map hr => ⟨map, hr, rfl, rfl, rfl⟩)
    fun _ => rfl

/-! ## Calls begin -/

theorem Ordered.addSink (h : t.Ordered fields template x) (hs : t.orchestrator.sink? id = none) :
    Ordered fields template x { t with orchestrator := t.orchestrator.addSink id } := by
  obtain ⟨map, hr, -⟩ := h.directed.router
  have hplant : (t.orchestrator.addSink id).plant = t.orchestrator.plant := by
    simp only [Orchestrator.addSink, Orchestrator.dropSink_of_none hs]
  have hx : t.orchestrator.plant.Continues (t.orchestrator.addSink id).plant := hplant ▸ .refl _
  have hrouter : (t.orchestrator.addSink id).router = t.orchestrator.router := rfl
  have hdirected := h.directed.of_continues hx h.directed.sound fun map hr =>
    ⟨map, hrouter.trans hr, rfl, rfl, rfl⟩
  refine h.of_plant_eq hplant hdirected (fun k => ?_) (List.Subset.refl _) rfl rfl
  have hlane : lane k { t with orchestrator := t.orchestrator.addSink id }
      = if k = id then { t.lane id with sink := some (.keyed {}) } else t.lane k := by
    simp only [lane, Orchestrator.sink?_addSink hs hr]
    split
    · rename_i hk
      rw [hk]
    · rfl
  rw [hlane]
  split
  · rename_i hk
    rw [hk]
    exact (h.lanes id).addSink hs
  · exact h.lanes k

theorem total_loss (id : Nat) (l : List Outlet) :
    total Shipment.loss (l.map fun o => ⟨id, o.pipeline, o.buffer.pending, false⟩)
      = (l.flatMap (·.buffer.pending)).length := by
  induction l with
  | nil => rfl
  | cons o l ih =>
    rw [List.map_cons, total_cons, ih, List.flatMap_cons, List.length_append]
    rfl

/-- What waits in a sink that is dropped is lost. -/
theorem Ordered.dropSink (h : t.Ordered fields template x) (hc : (t.calls id).errands = []) :
    (t.dropSink id).Ordered fields template x := by
  have hx : t.orchestrator.plant.Continues (t.orchestrator.dropSink id).plant :=
    Plant.continues_onBooks (Books.continues_lose _ _)
  have hdirected := h.directed.of_continues hx h.directed.sound fun map hr =>
    ⟨map, hr, rfl, rfl, rfl⟩
  refine h.of_continues hx hdirected (fun k => ?_) (List.Subset.refl _) rfl (fun d hd => ?_) ?_
    fun _ => rfl
  · by_cases hk : k = id
    · subst hk
      rcases hs : t.orchestrator.sink? k with _ | s
      · have hlane : (t.dropSink k).lane k = t.lane k := by
          simp [lane, Traffic.dropSink, Orchestrator.sink?_dropSink, hs]
        rw [hlane]
        exact h.lanes k
      · have hlane : (t.dropSink k).lane k = { t.lane k with
            shipped := (t.lane k).shipped
              ++ s.outlets.map fun o => ⟨k, o.pipeline, o.buffer.pending, false⟩
            sink := none } := by
          simp [lane, Traffic.dropSink, Orchestrator.sink?_dropSink, hs, List.filter_map,
            Function.comp_def]
        rw [hlane]
        exact (h.lanes k).dropSink hc hs
    · have hlane : (t.dropSink id).lane k = t.lane k := by
        simp [lane, Traffic.dropSink, Orchestrator.sink?_dropSink, hk, List.filter_map,
          Function.comp_def, Ne.symm hk]
      rw [hlane]
      exact h.lanes k
  · obtain ⟨o, -, rfl⟩ := List.mem_map.1 hd
    rfl
  · rw [total_loss]
    show _ + _ ≤ t.orchestrator.books.counters.recordsLost
      + (((t.orchestrator.sink? id).map Sink.pending).getD []).length
    rcases t.orchestrator.sink? id with _ | s
    · exact Nat.le_refl _
    · exact Nat.le_refl _

/-- A call begins with errands that concern the buffers of its sink. -/
theorem Ordered.begin (h : t.Ordered fields template x) (hs : t.orchestrator.sink? id ≠ none)
    (hc : (t.calls id).errands = []) {o : Orchestrator}
    (hx : t.orchestrator.plant.Continues o.plant)
    (hpipelines : o.plant.pipelines = t.orchestrator.plant.pipelines)
    (hr : o.router = t.orchestrator.router) (hsinks : o.sinks = t.orchestrator.sinks)
    (herrands : ∀ u ∈ o.errands, u.Concerns id) :
    Ordered fields template x { t.keep id o with
      accepted := t.accepted ++ (o.errands.flatMap Errand.unrouted).map (id, ·) } := by
  have hsink : ∀ k, o.sink? k = t.orchestrator.sink? k := fun k => by
    rw [Orchestrator.sink?, hsinks]
    rfl
  have hdirected := h.directed.of_continues hx (hpipelines ▸ h.directed.sound) fun map hr' =>
    ⟨map, hr.trans hr', rfl, rfl, rfl⟩
  have hwaiting : ∀ j, o.plant.waitingAt j = t.orchestrator.plant.waitingAt j := fun j => by
    rw [Plant.waitingAt, hpipelines, Plant.waitingAt]
  refine h.of_unshipped hx hdirected (fun k => ?_) (List.Subset.refl _) rfl
    fun j => congrArg (t.taken j ++ ·) (hwaiting j)
  by_cases hk : k = id
  · subst hk
    have hlane : lane k { t.keep k o with
        accepted := t.accepted ++ (o.errands.flatMap Errand.unrouted).map (k, ·) }
        = { t.lane k with
            accepted := (t.lane k).accepted ++ o.errands.flatMap Errand.unrouted
            errands := o.errands } := by
      simp [lane, keep, hsink]
    rw [hlane]
    exact (h.lanes k).begin hc hs herrands
  · have hlane : lane k { t.keep id o with
        accepted := t.accepted ++ (o.errands.flatMap Errand.unrouted).map (id, ·) } = t.lane k := by
      simp [lane, keep, hsink, hk, ofSink_of_ne hk]
    rw [hlane]
    exact h.lanes k

theorem Ordered.accept (h : t.Ordered fields template x) (hs : t.orchestrator.sink? id ≠ none)
    (hc : (t.calls id).errands = []) (l : Batch) : (t.accept id l).Ordered fields template x := by
  have hl : (l.map (Errand.route id)).flatMap Errand.unrouted = l := by
    simp [List.flatMap_map, Errand.unrouted]
  have hbegin := h.begin hs hc (o := (t.lend id).accept id l)
    (Plant.continues_onBooks ⟨rfl, Nat.le_refl _⟩) rfl rfl rfl (by
      simp [Orchestrator.accept, Orchestrator.begin, Errand.Concerns])
  rw [show ((t.lend id).accept id l).errands = l.map (Errand.route id) from rfl, hl] at hbegin
  exact hbegin

theorem Ordered.tick (h : t.Ordered fields template x) (hs : t.orchestrator.sink? id ≠ none)
    (hc : (t.calls id).errands = []) :
    (t.keep id ((t.lend id).tick id)).Ordered fields template x := by
  have hnone : ((t.lend id).tick id).errands.flatMap Errand.unrouted = [] := by
    simp [Orchestrator.tick, Orchestrator.begin, List.flatMap_map, Errand.unrouted]
  have hbegin := h.begin hs hc (o := (t.lend id).tick id) (.refl _) rfl rfl rfl (by
      simp [Orchestrator.tick, Orchestrator.begin, Errand.Concerns])
  rw [hnone, List.map_nil, List.append_nil] at hbegin
  exact hbegin

theorem Ordered.close (h : t.Ordered fields template x) (hs : t.orchestrator.sink? id ≠ none)
    (hc : (t.calls id).errands = []) :
    (t.keep id ((t.lend id).close id)).Ordered fields template x := by
  obtain ⟨s, hs⟩ := Option.ne_none_iff_exists'.1 hs
  have hs' : (t.lend id).sink? id = some s := hs
  have hclose : (t.lend id).close id = ((t.lend id).putSink id s.emptied).begin
      (s.batches.map fun e => .send e.1 e.2) := by
    simp only [Orchestrator.close, hs']
  have hsink : ∀ k, ((t.lend id).close id).sink? k
      = if k = id then some s.emptied else t.orchestrator.sink? k := by
    intro k
    rw [hclose]
    exact Orchestrator.sink?_putSink hs' s.emptied k
  have hplant : ((t.lend id).close id).plant = t.orchestrator.plant := by
    rw [hclose]
    rfl
  have hdirected : ((t.lend id).close id).Directed fields template := by
    rw [hclose]
    exact h.directed.of_continues (.refl _) h.directed.sound fun map hr => ⟨map, hr, rfl, rfl, rfl⟩
  refine h.of_plant_eq hplant hdirected (fun k => ?_) (List.Subset.refl _) rfl rfl
  by_cases hk : k = id
  · subst hk
    rw [lane_keep_self, hsink, if_pos rfl, hclose]
    exact (h.lanes k).close hc hs
  · rw [lane_keep hk (by rw [hsink, if_neg hk])]
    exact h.lanes k

/-! ## Calls go on -/

theorem Ordered.lend (h : t.Ordered fields template x) (id : Nat) :
    (t.lend id).Directed fields template :=
  h.directed.of_continues (.refl _) h.directed.sound fun map hr => ⟨map, hr, rfl, rfl, rfl⟩

/-- The call on a sink changes only the sink and its own errands. -/
theorem Ordered.of_keep (h : t.Ordered fields template x) {o : Orchestrator}
    (hplant : o.plant = t.orchestrator.plant) (hr : o.router = t.orchestrator.router)
    (hs : ∀ k ≠ id, o.sink? k = t.orchestrator.sink? k)
    (hlane : Lane.Flows fields t.orchestrator.plant.keySets id
      { t.lane id with errands := o.errands, sink := o.sink? id }) :
    (t.keep id o).Ordered fields template x := by
  have hx : t.orchestrator.plant.Continues o.plant := hplant ▸ .refl _
  have hdirected := h.directed.of_continues hx (hplant ▸ h.directed.sound) fun map hr' =>
    ⟨map, hr.trans hr', rfl, rfl, rfl⟩
  refine h.of_plant_eq hplant hdirected (fun k => ?_) (List.Subset.refl _) rfl rfl
  by_cases hk : k = id
  · subst hk
    rw [lane_keep_self]
    exact hlane
  · rw [lane_keep hk (hs k hk)]
    exact h.lanes k

theorem Ordered.rest (h : t.Ordered fields template x) (id : Nat) :
    (t.keep id (t.lend id)).Ordered fields template x :=
  h.of_keep rfl rfl (fun _ _ => rfl) (h.lanes id)

theorem Ordered.tickSink (h : t.Ordered fields template x) {s : Sink} {i : Nat} {now : Instant}
    {l : List Errand} (hl : (t.calls id).errands = .tick id i now :: l)
    (hs : t.orchestrator.sink? id = some s) :
    (t.keep id (((t.lend id).putSink id (s.tick now i).2).next (s.tick now i).1)).Ordered fields
      template x := by
  have hsink := Orchestrator.sink?_putSink (o := t.lend id) hs (s.tick now i).2
  refine h.of_keep rfl rfl (fun k hk => (hsink k).trans (if_neg hk)) ?_
  have hlane := (h.lanes id).tick h.directed.distinct hs hl
  have herrands : (((t.lend id).putSink id (s.tick now i).2).next (s.tick now i).1).errands
      = (s.tick now i).1.toList.map (fun e => .send e.1 e.2) ++ l := by
    simp only [Orchestrator.next, Orchestrator.putSink, Traffic.lend, hl]
    rfl
  have hsink' : (((t.lend id).putSink id (s.tick now i).2).next (s.tick now i).1).sink? id
      = some (s.tick now i).2 := (hsink id).trans (if_pos rfl)
  rw [herrands, hsink']
  exact hlane

/-- The sink has parted with a batch, whatever became of it. -/
theorem Ordered.shipped (h : t.Ordered fields template x) {i : Nat} {b : Batch} {l : List Errand}
    (hl : (t.calls id).errands = .send i b :: l) {o : Orchestrator} (herrands : o.errands = l)
    (hs : ∀ k, o.sink? k = t.orchestrator.sink? k) (entered : Bool) (k : Nat) :
    (((t.keep id o).ship ⟨id, i, b, entered⟩).lane k).Flows fields t.orchestrator.plant.keySets
      k := by
  by_cases hk : k = id
  · subst hk
    rw [lane_ship_self, lane_keep_self, herrands, hs]
    exact (h.lanes k).ship hl entered
  · rw [lane_ship hk, lane_keep hk (hs k)]
    exact h.lanes k

/-- A batch could not be sent, and is lost. -/
theorem Ordered.loseBatch (h : t.Ordered fields template x) {i : Nat} {b : Batch} {l : List Errand}
    (hl : (t.calls id).errands = .send i b :: l) (timedOut : Bool) :
    ((t.keep id (((t.lend id).onBooks (·.loseSend timedOut b)).next none)).ship
      ⟨id, i, b, false⟩).Ordered fields template x := by
  have hx : t.orchestrator.plant.Continues
      (t.orchestrator.plant.onBooks (·.loseSend timedOut b)) :=
    Plant.continues_onBooks (Books.continues_loseSend _ _ _)
  have hdirected : (((t.lend id).onBooks (·.loseSend timedOut b)).next none).Directed fields
      template :=
    h.directed.of_continues hx h.directed.sound fun map hr => ⟨map, hr, rfl, rfl, rfl⟩
  have herrands : (((t.lend id).onBooks (·.loseSend timedOut b)).next none).errands = l := by
    simp [Orchestrator.next, Orchestrator.onBooks, Traffic.lend, hl]
  refine h.of_continues hx hdirected (h.shipped hl herrands (fun _ => rfl) false)
    (List.Subset.refl _) rfl (by simp) ?_ fun _ => rfl
  have hloss : total Shipment.loss [⟨id, i, b, false⟩] = b.length := by simp [Shipment.loss]
  rw [hloss]
  cases timedOut <;> exact Nat.le_refl _

/-- A batch enters the input of its pipeline. -/
theorem Ordered.sendBatch (h : t.Ordered fields template x) {i : Nat} {b : Batch} {l : List Errand}
    (hl : (t.calls id).errands = .send i b :: l) {deadline : Instant} {plant : Plant}
    (hs : t.orchestrator.plant.send deadline i b = .done plant) :
    ((t.keep id (({ t.lend id with plant } : Orchestrator).next none)).ship
      ⟨id, i, b, true⟩).Ordered fields template x := by
  obtain ⟨hdirected, hkeySets, hground, hlength⟩ := (h.lend id).send hs
  have herrands : (({ t.lend id with plant } : Orchestrator).next none).errands = l := by
    simp [Orchestrator.next, Traffic.lend, hl]
  refine ⟨⟨hdirected.checked, hdirected.sound, hdirected.router, hdirected.named,
    hdirected.distinct⟩, fun k => ?_, fun v hv => h.seen v (hkeySets ▸ hv), ?_, ?_, fun j => ?_⟩
  · show Lane.Flows fields plant.keySets k _
    rw [hkeySets]
    exact h.shipped hl herrands (fun _ => rfl) true k
  · show plant.ground.books.counters.pipelinesLaunched = _ + plant.pipelines.length
    rw [hground, hlength]
    exact h.launched
  · show _ + total Shipment.loss (t.shipped ++ [⟨id, i, b, true⟩])
      ≤ plant.ground.books.counters.recordsLost
    rw [hground, total_append]
    exact h.lost
  · show t.taken j ++ plant.waitingAt j = _
    rw [entered_ship, Plant.waitingAt_send hs, ← List.append_assoc, h.queued]
    simp only [Bool.true_and, beq_iff_eq]
    rfl

/-- A record finds the buffer of its key. A pipeline is launched if no record before had its key
values. -/
theorem Ordered.route (h : t.Ordered fields template x) {r : Record} {l : List Errand}
    (hl : (t.calls id).errands = .route id r :: l) (hshort : r.Short) :
    ((t.keep id ((t.lend id).route id r)).note id r).Ordered fields template x := by
  obtain ⟨c, hs, hc⟩ := (h.lanes id).exists_sink hl
  obtain ⟨out, c', plant, map, hroute, hdirected, hplant, hleads, hsame, hf⟩ :=
    (h.lend id).route hs hc hshort
  set o := (t.lend id).route id r with ho
  have hsink : ∀ k, o.sink? k = if k = id
      then some (.keyed (c'.put (fields.key r) (out.append (t.lend id).now r).2))
      else t.orchestrator.sink? k := by
    intro k
    rw [hroute]
    exact Orchestrator.sink?_putSink (o := { t.lend id with plant, router := .keyed _ _ _ }) hs _ k
  have herrands : o.errands
      = (out.append (t.lend id).now r).1.toList.map (fun e => .send e.1 e.2) ++ l := by
    rw [hroute]
    simp only [Orchestrator.next, Orchestrator.putSink, Traffic.lend, hl]
    rfl
  have hoplant : o.plant = plant := by
    rw [hroute]
    rfl
  have hodirected : o.Directed fields template := by
    rw [hroute]
    exact ⟨hdirected.checked, hdirected.sound, hdirected.router, hdirected.named,
      hdirected.distinct⟩
  -- each lane also flows with the key set that may be new
  have hflows : ∀ k, (t.lane k).Flows fields plant.keySets k := by
    intro k
    cases hplant with
    | found => exact h.lanes k
    | launched hnew =>
      rw [Plant.keySets_launch]
      exact (h.lanes k).extend hnew
  have hlanes : ∀ k, (((t.keep id o).note id r).lane k).Flows fields plant.keySets k := by
    intro k
    by_cases hk : k = id
    · subst hk
      rw [lane_note_self, lane_keep_self, herrands, hsink, if_pos rfl]
      exact (hflows k).route hdirected.distinct hs hl hleads hsame hplant.mem hf _
    · rw [lane_note hk, lane_keep hk (by rw [hsink, if_neg hk])]
      exact hflows k
  cases hplant with
  | found => exact h.of_plant_eq hoplant hodirected hlanes (List.subset_append_left _ _) rfl rfl
  | launched => exact h.of_launched hoplant hodirected hlanes (e := (id, r)) rfl rfl rfl rfl

/-- The call on a sink does its next errand. -/
theorem Ordered.goOn (h : t.Ordered fields template x) (hshort : ∀ e ∈ t.accepted, e.2.Short)
    (id : Nat) : (t.goOn id).Ordered fields template x := by
  have hlend : (t.lend id).errands = (t.calls id).errands := rfl
  rcases hl : (t.calls id).errands with _ | ⟨u, l⟩
  · have hrest : t.goOn id = t.keep id (t.lend id) := by
      simp only [Traffic.goOn, Orchestrator.callAct, hlend, hl]
    rw [hrest]
    exact h.rest id
  have hhead := (h.lanes id).head hl
  cases u with
  | route k r =>
    obtain rfl : k = id := by simpa [Errand.Concerns] using hhead
    have hroute : t.goOn k = (t.keep k ((t.lend k).route k r)).note k r := by
      simp only [Traffic.goOn, Orchestrator.callAct, hlend, hl]
    have hmem : r ∈ (t.lane k).accepted := by
      rw [(h.lanes k).accepted]
      exact List.mem_append_right _ (by simp [lane, hl, Errand.unrouted])
    rw [hroute]
    exact h.route hl (hshort _ (mem_ofSink.1 hmem))
  | tick k i now =>
    obtain rfl : k = id := by simpa [Errand.Concerns] using hhead
    obtain ⟨c, hs, -⟩ := (h.lanes k).exists_sink hl
    have hs' : (t.lend k).sink? k = some (.keyed c) := hs
    have htick : t.goOn k = t.keep k (((t.lend k).putSink k ((Sink.keyed c).tick now i).2).next
        ((Sink.keyed c).tick now i).1) := by
      simp only [Traffic.goOn, Orchestrator.callAct, hlend, hl, hs']
    rw [htick]
    exact h.tickSink hl hs
  | send i b =>
    have hplant : (t.lend id).plant = t.orchestrator.plant := rfl
    rcases hsend : t.orchestrator.plant.send (t.lend id).deadline i b with plant | reason | _
    · have hsent : t.goOn id
          = (t.keep id (({ t.lend id with plant } : Orchestrator).next none)).ship
            ⟨id, i, b, true⟩ := by
        simp only [Traffic.goOn, Orchestrator.callAct, hlend, hl, hplant, hsend]
      rw [hsent]
      exact h.sendBatch hl hsend
    · simp only [Traffic.goOn, Orchestrator.callAct, hlend, hl, hplant, hsend]
      exact h.loseBatch hl _
    · simp only [Traffic.goOn, Orchestrator.callAct, hlend, hl, hplant, hsend]
      exact h.rest id
  | awaitStop limit => simp [Errand.Concerns] at hhead

/-! ## Every move -/

/-- A call that goes on takes no new records. -/
@[simp] theorem accepted_goOn (id : Nat) (t : Traffic) : (t.goOn id).accepted = t.accepted := by
  unfold Traffic.goOn
  dsimp only
  split
  · rfl
  · split <;> rfl
  · rfl

/-- What was accepted stays on record. -/
theorem Move.accepted (hm : t.Move t') : t.accepted <+: t'.accepted := by
  cases hm with
  | accept => exact List.prefix_append _ _
  | goOn id => exact (accepted_goOn id t).symm ▸ List.prefix_rfl
  | _ => exact List.prefix_rfl

theorem Ordered.move (h : t.Ordered fields template x) (hshort : ∀ e ∈ t.accepted, e.2.Short)
    (hm : t.Move t') : t'.Ordered fields template x := by
  cases hm with
  | addSink id hs => exact h.addSink hs
  | dropSink id hc => exact h.dropSink hc
  | accept id l hs hc => exact h.accept hs hc l
  | tick id hs hc => exact h.tick hs hc
  | close id hs hc => exact h.close hs hc
  | goOn id => exact h.goOn hshort id
  | act a => exact h.act a
  | tickEarly a => exact h.tickEarly a
  | setNow now =>
    exact h.of_plant ⟨rfl, .refl _, rfl, fun _ p hp => ⟨p, hp, .refl p⟩⟩ h.directed.sound
      (fun map hr => ⟨map, hr, rfl, rfl, rfl⟩) (fun _ => rfl) fun _ => rfl
  | receive d =>
    exact h.of_plant ⟨rfl, .refl _, rfl, fun _ p hp => ⟨p, hp, .refl p⟩⟩ h.directed.sound
      (fun map hr => ⟨map, hr, rfl, rfl, rfl⟩) (fun _ => rfl) fun _ => rfl

end Traffic

end LogPipeline
