import LogPipeline.Proofs.Conservation
import LogPipeline.Proofs.Upkeep

/-!
# Orchestrators in which nothing is lost

Calls on sinks lose nothing either, as long as no sink is given records that has no buffer for them
and inputs are closed once the sinks are empty (`Orchestrator.Kept`). A call begins with its time
before it, and what a sink holds is in the hands of the call that closes it. What is outstanding
grows by the records that a sink is given, and by nothing else.
-/

namespace LogPipeline

/-- The sum of a measure over the records in the hands of a call. -/
def Errand.weigh (φ : Record → Nat) : Errand → Nat
  | route _ r => φ r
  | send _ b => total φ b
  | _ => 0

/-- The sum of a measure over the line of a record, if it has one. -/
def Stages.measure (g : Stages) (ψ : ByteArray → Nat) (r : Record) : Nat :=
  total ψ (g.line? r).toList

theorem Stages.total_measure (g : Stages) (ψ : ByteArray → Nat) (l : List Record) :
    total (g.measure ψ) l = total ψ (l.filterMap g.line?) := by
  induction l with
  | nil => rfl
  | cons r l ih =>
    rcases hr : g.line? r with _ | line
    · rw [List.filterMap_cons_none hr, total_cons, ih, measure, hr]
      exact Nat.zero_add _
    · rw [List.filterMap_cons_some hr, total_cons, total_cons, ih, measure, hr]
      rfl

/-- No record and no chunk was lost, and no send was late. -/
structure Books.Clean (b : Books) : Prop where
  records : b.counters.recordsLost = 0
  chunks : b.counters.chunksLost = 0
  timeouts : b.counters.sendTimeouts = 0

theorem Books.Spared.clean {b b' : Books} (h : Books.Spared b b') (hb : b.Clean) : b'.Clean := by
  obtain ⟨⟨h1, h2⟩, h3⟩ := h
  exact ⟨h1.trans hb.records, h2.trans hb.chunks, h3.trans hb.timeouts⟩

/-! ## Sinks -/

namespace Sink

variable {s : Sink} {n m : Nat} {now : Instant} {i : Nat}

/-- The sink has a buffer for every record, or may get one. -/
def Takes : Sink → Prop
  | single none => False
  | _ => True

/-- The batches of the sink go to pipelines before `n`. -/
def Below (n : Nat) (s : Sink) : Prop := ∀ t ∈ s.outlets, t.pipeline < n

theorem Below.mono (h : s.Below n) (hn : n ≤ m) : s.Below m := fun t ht =>
  Nat.lt_of_lt_of_le (h t ht) hn

theorem below_emptied (n : Nat) (s : Sink) : s.emptied.Below n := by
  cases s <;> simp [Below, emptied, outlets]

theorem Below.batches (h : s.Below n) : ∀ e ∈ s.batches, e.1 < n := by
  intro e he
  obtain ⟨t, ht, hb⟩ := List.mem_filterMap.1 he
  obtain ⟨b, -, rfl⟩ := Option.map_eq_some_iff.1 hb
  exact h t ht

theorem Below.tick (h : s.Below n) (now : Instant) (i : Nat) :
    (s.tick now i).2.Below n ∧ ∀ e, (s.tick now i).1 = some e → e.1 < n := by
  unfold Sink.tick
  split
  · exact ⟨h, by simp⟩
  · rename_i o
    have ho := h o (by simp [outlets])
    refine ⟨fun t ht => ?_, fun e he => (o.pipeline_tick now).2 e he ▸ ho⟩
    obtain rfl : t = (o.tick now).2 := by simpa [outlets] using ht
    exact ho
  · rename_i c
    split
    · exact ⟨h, by simp⟩
    · rename_i key o hi
      have ho := h o (List.mem_map_of_mem (f := Prod.snd) (List.mem_of_getElem? hi))
      refine ⟨fun t ht => ?_, fun e he => (o.pipeline_tick now).2 e he ▸ ho⟩
      obtain ⟨e, he, rfl⟩ := List.mem_map.1 ht
      rcases List.mem_or_eq_of_mem_set he with he | rfl
      · exact h _ (List.mem_map_of_mem he)
      · exact ho

theorem Takes.tick (h : s.Takes) : (s.tick now i).2.Takes := by
  unfold Sink.tick
  split
  · exact h
  · trivial
  · split <;> trivial

end Sink

/-- The sink is one that an orchestrator with this router makes. -/
def Router.Serves : Router → Sink → Prop
  | single _, .single _ => True
  | keyed _ _ _, .keyed _ => True
  | _, _ => False

theorem Router.Serves.tick {r : Router} {s : Sink} (h : r.Serves s) (now : Instant) (i : Nat) :
    r.Serves (s.tick now i).2 := by
  unfold Sink.tick
  split
  · exact h
  · cases r <;> exact h
  · split <;> cases r <;> exact h

theorem Router.Serves.emptied {r : Router} {s : Sink} (h : r.Serves s) : r.Serves s.emptied := by
  cases r <;> cases s <;> exact h

/-- Sinks are the same whatever pipelines there are. -/
theorem Router.Serves.keyed {fields : KeyFields} {template : TagTemplate}
    {map : KeyMap PipelineEntry} {s : Sink} (h : Serves (.keyed fields template map) s)
    (map' : KeyMap PipelineEntry) : Serves (.keyed fields template map') s := by
  cases s <;> exact h

/-! ## Routers -/

/-- The map knows the pipelines: all of them as long as it was not destroyed. It holds the token of
none that has stopped. -/
structure KeyMap.Fits (ps : List Pipeline) (map : KeyMap PipelineEntry) : Prop where
  bounded : ∀ e ∈ map.entries, e.2.id < ps.length
  complete : map.destroyed = false → ∀ i < ps.length, ∃ e ∈ map.entries, e.2.id = i
  once : map.live.Nodup
  running : ∀ i ∈ map.live, ∃ p, ps[i]? = some p ∧ p.isStopped = false

/-- A new pipeline comes last and takes the next number. -/
theorem KeyMap.Fits.launch {ps : List Pipeline} {map : KeyMap PipelineEntry} (h : map.Fits ps)
    (hd : map.destroyed = false) (hcreated : map.created = ps.length) {p : Pipeline}
    (hp : p.isStopped = false) (key : String) {v : PipelineEntry} (hv : v.id = map.created) :
    KeyMap.Fits (ps ++ [p]) { map with
      entries := map.entries ++ [(key, v)]
      created := map.created + 1
      live := map.live ++ [map.created] } := by
  obtain ⟨hbounded, hcomplete, honce, hrunning⟩ := h
  refine ⟨fun e he => ?_, fun _ j hj => ?_, ?_, fun j hj => ?_⟩
  · rw [List.length_append, List.length_singleton]
    rcases List.mem_append.1 he with he | he
    · exact Nat.lt_succ_of_lt (hbounded e he)
    · rw [List.mem_singleton.1 he]
      show v.id < _
      omega
  · rw [List.length_append, List.length_singleton] at hj
    by_cases hj' : j < ps.length
    · obtain ⟨e, he, hej⟩ := hcomplete hd j hj'
      exact ⟨e, List.mem_append_left _ he, hej⟩
    · refine ⟨_, List.mem_append_right _ (List.mem_singleton.2 rfl), ?_⟩
      show v.id = j
      omega
  · refine List.nodup_append.2 ⟨honce, by simp, fun a ha b hb hab => ?_⟩
    obtain ⟨q, hq, -⟩ := hrunning a ha
    have hlt := (List.getElem?_eq_some_iff.1 hq).1
    rw [List.mem_singleton] at hb
    omega
  · rcases List.mem_append.1 hj with hj | hj
    · obtain ⟨q, hq, hrun⟩ := hrunning j hj
      have hlt := (List.getElem?_eq_some_iff.1 hq).1
      exact ⟨q, (List.getElem?_append_left hlt).trans hq, hrun⟩
    · obtain rfl := List.mem_singleton.1 hj
      exact ⟨p, by simp [hcreated], hp⟩

/-- There was no shutdown. -/
def Router.isOpen : Router → Bool
  | single b => b
  | keyed _ _ map => !map.destroyed

/-- The router knows the pipelines. -/
def Router.Fits (ps : List Pipeline) : Router → Prop
  | single _ => ps.length = 1
  | keyed _ _ map => map.Fits ps

theorem Router.Fits.of_running {r : Router} {ps ps' : List Pipeline} (h : r.Fits ps)
    (hlen : ps'.length = ps.length) (hrun : ∀ (i : Nat) (p : Pipeline), ps[i]? = some p →
      p.isStopped = false → ∃ p', ps'[i]? = some p' ∧ p'.isStopped = false) : r.Fits ps' := by
  cases r with
  | single isOpen => exact hlen.trans h
  | keyed fields template map =>
    obtain ⟨h1, h2, h3, h4⟩ := h
    refine ⟨fun e he => hlen ▸ h1 e he, fun hd i hi => h2 hd i (hlen ▸ hi), h3, fun i hi => ?_⟩
    obtain ⟨p, hp, hs⟩ := h4 i hi
    exact hrun i p hp hs

namespace Orchestrator

variable {g : Stages} {o o' : Orchestrator} {id : Nat} {s s' : Sink} {φ : Record → Nat}
  {ψ : ByteArray → Nat}

/-- The sum of a measure over the records that wait in sinks or are in the hands of the call. -/
def weigh (φ : Record → Nat) (o : Orchestrator) : Nat :=
  total (fun e => total φ e.2.pending) o.sinks + total (Errand.weigh φ) o.errands

/-- The sum of a measure over all lines that are yet to be delivered. -/
def outstanding (g : Stages) (ψ : ByteArray → Nat) (o : Orchestrator) : Nat :=
  o.weigh (g.measure ψ) + o.plant.weigh g ψ

/-- After a shutdown all is quiet once every pipeline has stopped. -/
theorem isQuiet_of_stopped (hfits : o.router.Fits o.plant.pipelines)
    (hshut : o.router.isOpen = false) (hs : ∀ p ∈ o.plant.pipelines, p.isStopped = true) :
    o.isQuiet = true := by
  unfold isQuiet
  rcases hr : o.router with isOpen | ⟨fields, template, map⟩ <;> rw [hr] at hfits hshut
  · simpa [Plant.running, List.filter_eq_nil_iff] using hs
  · have hd : map.destroyed = true := by simpa [Router.isOpen] using hshut
    have hnil : map.live = [] := by
      refine List.eq_nil_iff_forall_not_mem.2 fun j hj => ?_
      obtain ⟨p, hp, hrun⟩ := hfits.running j hj
      simp [hs p (List.mem_of_getElem? hp)] at hrun
    simp [KeyMap.isQuiet, hd, hnil]

/-- What is so between calls and during them, as long as nothing was lost. -/
structure Steady (g : Stages) (o : Orchestrator) : Prop where
  sound : o.Sound
  plant : o.plant.Kept g
  clean : o.books.Clean
  router : o.router.Fits o.plant.pipelines
  sinks : ∀ e ∈ o.sinks, o.router.Serves e.2 ∧ e.2.Below o.plant.pipelines.length
  inputs : o.plant.Inputs o.router.isOpen

/-- The errand can be done without a loss. -/
def Fair (o : Orchestrator) : Errand → Prop
  | .route id _ => ∃ s, o.sink? id = some s ∧ s.Takes
  | .tick _ _ _ => True
  | .send i _ => i < o.plant.pipelines.length
  | .awaitStop _ => False

/-- Nothing was lost, and what is under way loses nothing. -/
structure Kept (g : Stages) (o : Orchestrator) : Prop where
  steady : o.Steady g
  working : o.router.isOpen = true →
    (∀ t ∈ o.errands, o.Fair t) ∧ (o.errands ≠ [] → o.now < o.deadline)
  closing : o.router.isOpen = false → (∀ e ∈ o.sinks, e.2.pending = [])
    ∧ (o.errands = [] ∧ o.stopped = some true
      ∨ ∃ limit, o.errands = [.awaitStop limit] ∧ o.now < limit)

theorem Fair.mono {t : Errand} (h : o.Fair t)
    (hs : ∀ id s, o.sink? id = some s → s.Takes → ∃ s', o'.sink? id = some s' ∧ s'.Takes)
    (hp : o.plant.pipelines.length ≤ o'.plant.pipelines.length) : o'.Fair t := by
  cases t with
  | route id r =>
    obtain ⟨s, h1, h2⟩ := h
    exact hs id s h1 h2
  | tick id i now => trivial
  | send i b => exact Nat.lt_of_lt_of_le h hp
  | awaitStop limit => exact h

theorem Steady.lt_add_sendTimeout (h : o.Steady g) : o.now < o.now + o.settings.sendTimeout :=
  Nat.lt_add_of_pos_right
    (Nat.pos_of_ne_zero (PipelineSettings.of_check h.plant.healthy.checked).2.2.1)

/-! ## Sinks of an orchestrator -/

theorem sink?_putSink (hs : o.sink? id = some s) (s' : Sink) (k : Nat) :
    (o.putSink id s').sink? k = if k = id then some s' else o.sink? k := by
  refine (find?_replace o.sinks id s' k).trans ?_
  by_cases hk : k = id
  · have hs' : (o.sinks.find? (·.1 == id)).map (·.2) = some s := hs
    simp only [hk, ↓reduceIte, hs', Option.map_some]
  · simp only [hk, ↓reduceIte, Option.map_id']
    rfl

theorem Steady.sink (h : o.Steady g) (hs : o.sink? id = some s) :
    o.router.Serves s ∧ s.Below o.plant.pipelines.length := by
  obtain ⟨e, he, rfl⟩ := Option.map_eq_some_iff.1 hs
  exact h.sinks e (List.mem_of_find?_eq_some he)

theorem Steady.putSink (h : o.Steady g) (hs : o.sink? id = some s) (hn : s'.Neat)
    (hserves : o.router.Serves s') (hbelow : s'.Below o.plant.pipelines.length) :
    (o.putSink id s').Steady g := by
  refine ⟨(h.sound.putSink hs hn).1, h.plant, h.clean, h.router, fun e he => ?_, h.inputs⟩
  obtain ⟨e', he', rfl⟩ := List.mem_map.1 he
  split
  · exact ⟨hserves, hbelow⟩
  · exact h.sinks e' he'

theorem Steady.begin (h : o.Steady g) (l : List Errand) : (o.begin l).Steady g :=
  ⟨h.sound.begin l, h.plant, h.clean, h.router, h.sinks, h.inputs⟩

theorem Steady.next (h : o.Steady g) (b : Option (Nat × Batch)) : (o.next b).Steady g :=
  ⟨h.sound.next b, h.plant, h.clean, h.router, h.sinks, h.inputs⟩

/-- Something happens in the plant, and the router follows. -/
theorem Steady.of_plant (h : o.Steady g) {x : Plant} {r : Router}
    (hsound : Sound { o with plant := x, router := r }) (hx : x.Kept g)
    (hclean : x.ground.books.Clean) (hlen : o.plant.pipelines.length ≤ x.pipelines.length)
    (hfits : r.Fits x.pipelines) (hserves : ∀ s, o.router.Serves s → r.Serves s)
    (hin : x.Inputs r.isOpen) : Steady g { o with plant := x, router := r } := by
  refine ⟨hsound, hx, hclean, hfits, fun e he => ?_, hin⟩
  obtain ⟨h1, h2⟩ := h.sinks e he
  exact ⟨hserves _ h1, h2.mono hlen⟩

theorem Kept.of_plant (h : o.Kept g) {x : Plant} {r : Router}
    (hs : Steady g { o with plant := x, router := r }) (hnow : x.ground.now = o.now)
    (hlen : o.plant.pipelines.length ≤ x.pipelines.length) (hopen : r.isOpen = o.router.isOpen) :
    Kept g { o with plant := x, router := r } := by
  refine ⟨hs, fun ho => ?_, fun hc => ?_⟩
  · obtain ⟨hfair, hd⟩ := h.working (hopen ▸ ho)
    refine ⟨fun t ht => ?_, fun hne => ?_⟩
    · exact (hfair t ht).mono (fun k s hk htakes => ⟨s, hk, htakes⟩) hlen
    · show x.ground.now < _
      exact hnow ▸ hd hne
  · obtain ⟨hempty, hend⟩ := h.closing (hopen ▸ hc)
    refine ⟨hempty, hend.imp_right fun ⟨limit, hone, hlate⟩ => ⟨limit, hone, ?_⟩⟩
    show x.ground.now < _
    exact hnow ▸ hlate

theorem weigh_next {t : Errand} {l : List Errand} (hl : o.errands = t :: l)
    (b : Option (Nat × Batch)) :
    (o.next b).weigh φ + t.weigh φ = total φ (handedOn b) + o.weigh φ := by
  rcases b with _ | ⟨i, b⟩
  · simp [weigh, Orchestrator.next, hl, handedOn]
    omega
  · simp [weigh, Orchestrator.next, hl, handedOn, Errand.weigh]
    omega

/-! ## Calls begin -/

theorem dropSink_of_none (hs : o.sink? id = none) : o.dropSink id = o := by
  have hne : ∀ e ∈ o.sinks, (e.1 != id) = true := by
    have : o.sinks.find? (·.1 == id) = none := by simpa [sink?] using hs
    intro e he
    simpa [bne] using List.find?_eq_none.1 this e he
  simp only [Orchestrator.dropSink, hs, List.filter_eq_self.2 hne]
  rfl

/-- A new sink has nothing in it. -/
theorem Steady.addSink_eq (h : o.Steady g) (ho : o.router.isOpen = true) (hs : o.sink? id = none) :
    ∃ s, o.addSink id = { o with sinks := o.sinks ++ [(id, s)] } ∧ o.router.Serves s
      ∧ s.Below o.plant.pipelines.length ∧ s.pending = [] := by
  have hfits := h.router
  unfold Orchestrator.addSink
  simp only [dropSink_of_none hs]
  split
  · rename_i hr
    rw [hr] at hfits ⊢
    have hone : o.plant.pipelines.length = 1 := hfits
    exact ⟨_, rfl, trivial, by simp [Sink.Below, Sink.outlets, hone, outlet], rfl⟩
  · rename_i hr
    simp [Router.isOpen, hr] at ho
  · rename_i hr
    rw [hr]
    exact ⟨_, rfl, trivial, by simp [Sink.Below, Sink.outlets], rfl⟩

theorem Kept.addSink (h : o.Kept g) (ho : o.router.isOpen = true) (hs : o.sink? id = none) :
    (o.addSink id).Kept g ∧ ∀ ψ, (o.addSink id).outstanding g ψ = o.outstanding g ψ := by
  have hsound := (h.steady.sound.addSink id).1
  obtain ⟨s, hadd, hserves, hbelow, hpending⟩ := h.steady.addSink_eq ho hs
  rw [hadd] at hsound ⊢
  obtain ⟨hfair, hlate⟩ := h.working ho
  refine ⟨⟨⟨hsound, h.steady.plant, h.steady.clean, h.steady.router, fun e he => ?_,
    h.steady.inputs⟩, fun _ => ⟨fun t ht => ?_, hlate⟩, fun hc => ?_⟩, fun ψ => ?_⟩
  · rcases List.mem_append.1 he with he | he
    · exact h.steady.sinks e he
    · rw [List.mem_singleton.1 he]
      exact ⟨hserves, hbelow⟩
  · refine (hfair t ht).mono (fun k s hk htakes => ⟨s, ?_, htakes⟩) (Nat.le_refl _)
    obtain ⟨e, he, rfl⟩ := Option.map_eq_some_iff.1 hk
    simp [sink?, List.find?_append, he]
  · simp [show o.router.isOpen = false from hc] at ho
  · simp only [outstanding, weigh, total_append, total_cons, hpending, total_nil]
    rfl

/-- A call on an orchestrator that is open has its time before it. -/
theorem Steady.kept_begin (h : o.Steady g) (ho : o.router.isOpen = true) {l : List Errand}
    (hf : ∀ t ∈ l, o.Fair t) : (o.begin l).Kept g := by
  refine ⟨h.begin l, fun _ => ⟨fun t ht => ?_, fun _ => h.lt_add_sendTimeout⟩, fun hc => ?_⟩
  · exact (hf t ht).mono (fun id s hs htakes => ⟨s, hs, htakes⟩) (Nat.le_refl _)
  · simp [show o.router.isOpen = false from hc] at ho

theorem Kept.accept (h : o.Kept g) (ho : o.router.isOpen = true) (hc : o.errands = [])
    (hs : o.sink? id = some s) (ht : s.Takes) (l : Batch) :
    (o.accept id l).Kept g
      ∧ ∀ ψ, (o.accept id l).outstanding g ψ = o.outstanding g ψ + total (g.measure ψ) l := by
  have hsteady : (o.onBooks (·.count (Counters.entered l.length))).Steady g := by
    obtain ⟨h1, h2, ⟨h3, h4, h5⟩, h6, h7, h8⟩ := h.steady
    exact ⟨h1.onBooks _, h2.onBooks _, ⟨h3, h4, h5⟩, h6, h7, h8⟩
  refine ⟨hsteady.kept_begin ho fun t ht' => ?_, fun ψ => ?_⟩
  · obtain ⟨r, -, rfl⟩ := List.mem_map.1 ht'
    exact ⟨s, hs, ht⟩
  · simp only [outstanding, weigh, hc, Orchestrator.accept, Orchestrator.begin, total_map,
      Errand.weigh, total_nil]
    change _ + total (g.measure ψ) l + o.plant.weigh g ψ = _
    simp only [Orchestrator.onBooks]
    omega

theorem Kept.tick (h : o.Kept g) (ho : o.router.isOpen = true) (hc : o.errands = []) (id : Nat) :
    (o.tick id).Kept g ∧ ∀ ψ, (o.tick id).outstanding g ψ = o.outstanding g ψ := by
  refine ⟨h.steady.kept_begin ho fun t ht => ?_, fun ψ => ?_⟩
  · obtain ⟨i, -, rfl⟩ := List.mem_map.1 ht
    trivial
  · simp only [outstanding, weigh, hc, Orchestrator.tick, Orchestrator.begin, total_map,
      Errand.weigh]
    rw [total_eq_zero fun _ _ => rfl]
    rfl

/-- What a sink holds is in the hands of the call that closes it. -/
theorem Kept.close (h : o.Kept g) (ho : o.router.isOpen = true) (hc : o.errands = []) (id : Nat) :
    (o.close id).Kept g ∧ ∀ ψ, (o.close id).outstanding g ψ = o.outstanding g ψ := by
  unfold Orchestrator.close
  split
  · refine ⟨h.steady.kept_begin ho (by simp), fun ψ => ?_⟩
    simp only [outstanding, weigh, hc, Orchestrator.begin]
  · rename_i s hs
    obtain ⟨hserves, hbelow⟩ := h.steady.sink hs
    have hput := h.steady.putSink hs s.neat_emptied hserves.emptied (s.below_emptied _)
    refine ⟨hput.kept_begin ho fun t ht => ?_, fun ψ => ?_⟩
    · obtain ⟨e, he, rfl⟩ := List.mem_map.1 ht
      exact hbelow.batches e he
    · have hgathered := h.steady.sound.total_putSink hs s.emptied
        fun s => total (g.measure ψ) s.pending
      have hbatches : total (g.measure ψ) s.pending
          = total (fun e => total (g.measure ψ) e.2) s.batches := by
        rw [← s.flatMap_batches, total_flatMap]
      have hcarried : total (Errand.weigh (g.measure ψ))
          (s.batches.map fun e => Errand.send e.1 e.2)
          = total (fun e => total (g.measure ψ) e.2) s.batches := total_map ..
      rw [s.pending_emptied, total_nil] at hgathered
      simp only [outstanding, weigh, hc, Orchestrator.begin, total_nil]
      change _ + total _ (s.batches.map fun e => Errand.send e.1 e.2) + o.plant.weigh g ψ = _
      omega

/-! ## Shutting down -/

/-- All inputs of the entries are closed, and nothing else changes. -/
theorem pipelines_closeAll (l : List (String × PipelineEntry)) (x : Plant) (j : Nat) :
    (l.foldl (fun (x : Plant) e => x.onInput e.2.id Queue.close) x).pipelines[j]?
      = x.pipelines[j]?.map fun p =>
        if l.any (·.2.id == j) then { p with input := p.input.close } else p := by
  induction l generalizing x with
  | nil => simp
  | cons e l ih =>
    rw [List.foldl_cons, ih]
    simp only [Plant.onInput, List.getElem?_modify, Option.map_eq_map, Option.map_map,
      List.any_cons, Bool.or_eq_true, beq_iff_eq]
    refine Option.map_congr fun p _ => ?_
    by_cases he : e.2.id = j
    · simp only [he, Function.comp_apply, ↓reduceIte, true_or]
      split <;> rfl
    · simp only [he, Function.comp_apply, ↓reduceIte, false_or]

theorem kept_closeAll {x : Plant} (h : x.Kept g) (l : List (String × PipelineEntry)) :
    (l.foldl (fun (x : Plant) e => x.onInput e.2.id Queue.close) x).Kept g
      ∧ (l.foldl (fun (x : Plant) e => x.onInput e.2.id Queue.close) x).weigh g ψ
        = x.weigh g ψ := by
  induction l generalizing x with
  | nil => exact ⟨h, rfl⟩
  | cons e l ih =>
    obtain ⟨h1, h2⟩ := ih (h.close e.2.id)
    exact ⟨h1, h2.trans (Plant.weigh_close _ x)⟩

/-- The end of the pipelines is waited for once every input is closed. -/
theorem Steady.kept_shut (h : o.Steady g) (hs : ∀ e ∈ o.sinks, e.2.pending = []) {x : Plant}
    {r : Router} (hx : x.Kept g) (hground : x.ground = o.plant.ground)
    (hlen : x.pipelines.length = o.plant.pipelines.length) (hfits : r.Fits x.pipelines)
    (hserves : ∀ s, o.router.Serves s → r.Serves s) (hshut : r.isOpen = false)
    (hin : x.Inputs false) {o' : Orchestrator} (ho' : o'.Sound)
    (heq : o' = Orchestrator.begin [.awaitStop (o.now + patience)]
      { o with plant := x, router := r, stopped := none }) : o'.Kept g := by
  subst heq
  refine ⟨⟨ho', hx, ?_, hfits, fun e he => ?_, hshut ▸ hin⟩, fun hopen => ?_,
    fun _ => ⟨hs, .inr ⟨_, rfl, ?_⟩⟩⟩
  · have hclean := h.clean
    unfold books at hclean ⊢
    exact hground ▸ hclean
  · obtain ⟨h1, h2⟩ := h.sinks e he
    exact ⟨hserves _ h1, h2.mono (Nat.le_of_eq hlen.symm)⟩
  · simp [show r.isOpen = true from hopen] at hshut
  · have hpatience : o.now < o.now + patience := Nat.lt_add_of_pos_right (by decide)
    simp only [now, Orchestrator.begin, hground]
    exact hpatience

/-- A shutdown closes the only input. -/
theorem Kept.shutDown_single (h : o.Kept g) (hc : o.errands = [])
    (hs : ∀ e ∈ o.sinks, e.2.pending = []) {isOpen : Bool} (hr : o.router = .single isOpen) :
    o.shutDown.Kept g ∧ ∀ ψ, o.shutDown.outstanding g ψ = o.outstanding g ψ := by
  have hsound := (h.steady.sound.shutDown hc).1
  have hfits := h.steady.router
  rw [hr] at hfits
  have hone : o.plant.pipelines.length = 1 := hfits
  have heq : o.shutDown = Orchestrator.begin [.awaitStop (o.now + patience)]
      { o with
        plant := o.plant.onInput 0 Queue.close
        router := .single false
        stopped := none } := by
    simp only [Orchestrator.shutDown, hr]
  have hfits' : Router.Fits (o.plant.onInput 0 Queue.close).pipelines (.single false) :=
    (List.length_modify ..).trans hone
  have hserves : ∀ s, o.router.Serves s → Router.Serves (.single false) s := fun s hs => by
    rw [hr] at hs
    cases s <;> exact hs
  refine ⟨h.steady.kept_shut hs (h.steady.plant.close 0) rfl (List.length_modify ..) hfits'
    hserves rfl (fun p hp => ?_) hsound heq, fun ψ => ?_⟩
  · obtain ⟨q, hq⟩ := List.length_eq_one_iff.1 hone
    obtain rfl : p = { q with input := q.input.close } := by simpa [Plant.onInput, hq] using hp
    rfl
  · rw [heq]
    simp only [outstanding, weigh, hc, Orchestrator.begin, Plant.weigh_close]
    rfl

/-- A shutdown closes the inputs of all keys. -/
theorem Kept.shutDown_keyed (h : o.Kept g) (ho : o.router.isOpen = true) (hc : o.errands = [])
    (hs : ∀ e ∈ o.sinks, e.2.pending = []) {fields : KeyFields} {template : TagTemplate}
    {map : KeyMap PipelineEntry} (hr : o.router = .keyed fields template map) :
    o.shutDown.Kept g ∧ ∀ ψ, o.shutDown.outstanding g ψ = o.outstanding g ψ := by
  have hsound := (h.steady.sound.shutDown hc).1
  have hfits := h.steady.router
  rw [hr] at hfits
  obtain ⟨hbounded, hcomplete, honce, hrunning⟩ := hfits
  have hd : map.destroyed = false := by simpa [Router.isOpen, hr] using ho
  obtain ⟨-, hfollows, hground, -⟩ := Sound.closeAll h.steady.sound.plant map.entries
  have hkept := fun ψ => kept_closeAll (ψ := ψ) h.steady.plant map.entries
  have heq : o.shutDown = Orchestrator.begin [.awaitStop (o.now + patience)]
      { o with
        plant := map.entries.foldl (fun (x : Plant) e => x.onInput e.2.id Queue.close) o.plant
        router := .keyed fields template map.destroy.2
        stopped := none } := by
    simp only [Orchestrator.shutDown, hr]
    rfl
  have hfits' : KeyMap.Fits
      (map.entries.foldl (fun (x : Plant) e => x.onInput e.2.id Queue.close) o.plant).pipelines
      map.destroy.2 := by
    refine ⟨by simp [KeyMap.destroy], by simp [KeyMap.destroy], honce, fun j hj => ?_⟩
    obtain ⟨p, hp, hrun⟩ := hrunning j hj
    refine ⟨_, by rw [pipelines_closeAll, hp]; rfl, ?_⟩
    split <;> exact hrun
  have hserves : ∀ s, o.router.Serves s →
      Router.Serves (.keyed fields template map.destroy.2) s := fun s hs =>
    Router.Serves.keyed (hr ▸ hs) _
  refine ⟨h.steady.kept_shut (r := .keyed fields template map.destroy.2) hs (hkept fun _ => 0).1
    hground hfollows.1 hfits' hserves rfl (fun p hp => ?_) hsound heq, fun ψ => ?_⟩
  · obtain ⟨j, hj⟩ := List.getElem?_of_mem hp
    rw [pipelines_closeAll] at hj
    obtain ⟨q, hq, rfl⟩ := Option.map_eq_some_iff.1 hj
    obtain ⟨e, he, hej⟩ := hcomplete hd j (List.getElem?_eq_some_iff.1 hq).1
    have hany : map.entries.any (·.2.id == j) = true :=
      List.any_eq_true.2 ⟨e, he, by simp [hej]⟩
    simp only [hany, ↓reduceIte]
    rfl
  · rw [heq]
    simp only [outstanding, weigh, hc, Orchestrator.begin, (hkept ψ).2]
    rfl

/-- A shutdown is called when the sinks are empty. -/
theorem Kept.shutDown (h : o.Kept g) (ho : o.router.isOpen = true) (hc : o.errands = [])
    (hs : ∀ e ∈ o.sinks, e.2.pending = []) :
    o.shutDown.Kept g ∧ ∀ ψ, o.shutDown.outstanding g ψ = o.outstanding g ψ := by
  rcases hr : o.router with isOpen | ⟨fields, template, map⟩
  · exact h.shutDown_single hc hs hr
  · exact h.shutDown_keyed ho hc hs hr

end Orchestrator

end LogPipeline
