import LogPipeline.Proofs.Depots

/-!
# The books of a depot

Every record that a sink was given waits in its buffer, is in the hands of a call, is inside a
pipeline, or was counted as it left. Those that came into an input and those that strayed, being
lost on the way there, make up what is inside the pipelines and what was counted
(`Depot.Balanced`). Every move keeps this (`Depot.Balanced.move`).
-/

namespace LogPipeline

namespace Depot

variable {d d' : Depot} {id i k : Nat} {o o₀ : Orchestrator} {l : List Batch}

/-- The records in the hands of the calls under way. -/
def carried (d : Depot) : Nat := total (fun v => total Errand.load v.errands) d.visits

/-- All records that came in and have not left. -/
def load (d : Depot) : Nat := d.orchestrator.gathered + d.carried + d.orchestrator.plant.load

/-- What came in has left or is still there, and what has left was given back. Whatever did not come
into an input was lost before. -/
structure Balanced (d : Depot) : Prop where
  entered : d.counters.recordsIn = d.counters.recordsAccounted + d.load
  returned : d.orchestrator.books.pool.returns + d.orchestrator.books.pool.drops
    = d.counters.recordsAccounted
  parted : total List.length d.entered + d.strayed
    = d.counters.recordsAccounted + d.orchestrator.plant.load
  strayed : d.strayed ≤ d.counters.recordsLost

/-- What leaves the hands of a call goes where the orchestrator has it. -/
theorem Balanced.change (h : d.Balanced) (hp : o₀.Passes o)
    (h₀ : o₀.plant = d.orchestrator.plant) (hs : o₀.sinks = d.orchestrator.sinks)
    (hx : d.orchestrator.plant.Served d.orchestrator.router l o.plant o.router) {vs : List Visit}
    (hvs : total (fun v => total Errand.load v.errands) vs + o₀.carried = d.carried + o.carried)
    {entered : List Batch} (he : entered = d.entered ++ l) :
    Balanced { d.change o with visits := vs, entered } := by
  obtain ⟨n, ⟨hin, hcount, hback⟩, hload⟩ := hp
  obtain ⟨h1, h2, h3, h4⟩ := h
  obtain ⟨hfiltered, hserialized, -⟩ := hx.unworked
  have hlost := hx.lost
  have hplant := hx.load
  have hentered := congrArg (total List.length) he
  rw [total_append] at hentered
  simp only [Orchestrator.load, Orchestrator.gathered, Orchestrator.books, h₀, hs]
    at hin hcount hback hload
  simp only [Counters.recordsAccounted, counters, Orchestrator.books, load, Orchestrator.gathered]
    at h1 h2 h3 h4 hcount hback
  refine ⟨?_, ?_, ?_, ?_⟩
  all_goals
    simp only [Counters.recordsAccounted, counters, Orchestrator.books, load, carried,
      Orchestrator.gathered, Depot.change]
    omega

theorem Balanced.call (h : d.Balanced) (hi : d.orchestrator.errands = [])
    (hp : d.orchestrator.Passes o)
    (hx : d.orchestrator.plant.Served d.orchestrator.router [] o.plant o.router) (id : Nat) :
    (d.call id o).Balanced := by
  refine h.change hp rfl rfl hx ?_ (List.append_nil _).symm
  simp [carried, Orchestrator.carried, hi]

theorem Balanced.addSink (h : d.Balanced) (hs : d.Sound) (id : Nat) :
    (d.change (d.orchestrator.addSink id)).Balanced :=
  h.change (hs.orchestrator.addSink id).2 rfl rfl (served_dropSink d.orchestrator id) rfl
    (List.append_nil _).symm

theorem Balanced.dropSink (h : d.Balanced) (hs : d.Sound) (id : Nat) :
    (d.change (d.orchestrator.dropSink id)).Balanced :=
  h.change (hs.orchestrator.dropSink id).2.1 rfl rfl (served_dropSink d.orchestrator id) rfl
    (List.append_nil _).symm

theorem Balanced.goOn (h : d.Balanced) (hs : d.Sound) (k : Nat) : (d.goOn k).Balanced := by
  unfold Depot.goOn
  split
  · exact h
  · rename_i v hv
    have hwaits := hs.visits v (List.mem_of_getElem? hv)
    obtain ⟨hx, -⟩ := Orchestrator.served_callAct (o := d.orchestrator.lend v) hwaits.errands
    exact h.change (hs.lend v).callAct.2 rfl rfl hx
      (total_set (fun v => total Errand.load v.errands) hv _) rfl

theorem Balanced.accept (h : d.Balanced) (id : Nat) (l : Batch) :
    (d.call id (d.orchestrator.accept id l)).Balanced := by
  obtain ⟨h1, h2, h3, h4⟩ := h
  have hcarried : total Errand.load (l.map (Errand.route id)) = l.length := by
    rw [total_map]
    exact total_one l
  simp only [Counters.recordsAccounted, counters, Orchestrator.books, load, carried,
    Orchestrator.gathered] at h1 h3 h4
  refine ⟨?_, h2, ?_, ?_⟩
  all_goals
    simp only [Counters.recordsAccounted, counters, Orchestrator.books, load, carried,
      Orchestrator.gathered, Depot.call, Depot.change, Orchestrator.accept, Orchestrator.begin,
      Orchestrator.onBooks, Plant.onBooks, Books.count, Counters.entered, total_append, total_cons,
      total_nil, hcarried]
    simp only [Plant.load] at h1 h3 ⊢
    omega

/-! ## Parties -/

theorem Balanced.ofStep (h : d.Balanced) (hs : d.Sound) {x : Plant} {r : Router}
    (hx : d.orchestrator.plant.Step x) (delivered : List TaggedChunk) :
    Balanced { d with
      orchestrator := { d.orchestrator with plant := x, router := r }
      delivered } := by
  obtain ⟨n, ⟨hin, hcount, hback⟩, hload⟩ := hs.orchestrator.plant.load_step hx
  obtain ⟨-, ⟨-, hlost⟩, -, -⟩ := Plant.continues_step hx
  obtain ⟨h1, h2, h3, h4⟩ := h
  simp only [Counters.recordsAccounted, counters, Orchestrator.books, load, Orchestrator.gathered]
    at h1 h2 h3 h4 hin hcount hback
  refine ⟨?_, ?_, ?_, ?_⟩
  all_goals
    simp only [Counters.recordsAccounted, counters, Orchestrator.books, load,
      Orchestrator.gathered, carried] at h1 ⊢
    omega

/-! ## Moves -/

theorem Balanced.turn (h : d.Balanced) (hs : d.Sound) (ht : Turn d d') : d'.Balanced := by
  cases ht with
  | goOn k => exact h.goOn hs k
  | letGo i hi hv =>
    have hload := Plant.load_close i d.orchestrator.plant
    obtain ⟨h1, h2, h3, h4⟩ := h
    refine ⟨h1.trans ?_, h2, h3.trans ?_, h4⟩
    · simp only [load, Depot.letGo, hload]
      rfl
    · simp only [Depot.letGo, hload]
      rfl
  | comeBack hshut =>
    rw [comeBack_eq]
    exact ⟨h.entered, h.returned, h.parted, h.strayed⟩
  | act a => exact h.ofStep hs (hs.orchestrator.plant.step_act a) _
  | tickEarly a => exact h.ofStep hs (Plant.step_tickEarly a) _
  | setNow t => exact ⟨h.entered, h.returned, h.parted, h.strayed⟩
  | receive destination => exact ⟨h.entered, h.returned, h.parted, h.strayed⟩

theorem Balanced.ofCall (h : d.Balanced) (hs : d.Sound) (hc : Call d d') : d'.Balanced := by
  cases hc with
  | addSink id hf => exact h.addSink hs id
  | dropSink id hf => exact h.dropSink hs id
  | accept id l hf => exact h.accept id l
  | tick id hf => exact h.call hs.idle (hs.orchestrator.tick hs.idle id).2 (.refl _ _) id
  | close id hf =>
    exact h.call hs.idle (hs.orchestrator.close hs.idle id).2 (served_close d.orchestrator id) id
  | shutDown => exact ⟨h.entered, h.returned, h.parted, h.strayed⟩

theorem Balanced.move (h : d.Balanced) (hs : d.Sound) (hm : Move d d') : d'.Balanced :=
  hm.elim (h.ofCall hs) (h.turn hs)

/-! ## What leaves the sinks -/

/-- The records that have come into an input, and those that were lost on the way there. -/
def shipped (d : Depot) : Nat := total List.length d.entered + d.strayed

theorem Balanced.shipped_le (h : d.Balanced) : d.shipped ≤ d.counters.recordsIn := by
  have hin := h.entered
  have hparted := h.parted
  simp only [load] at hin
  simp only [shipped]
  omega

theorem shipped_move (hm : Move d d') : d.shipped ≤ d'.shipped := by
  rcases hm with hc | ht
  · cases hc with
    | shutDown => exact Nat.le_refl _
    | _ => exact Nat.add_le_add_left (Nat.le_add_right _ _) _
  · cases ht with
    | goOn k =>
      unfold Depot.goOn
      split
      · exact Nat.le_refl _
      · refine Nat.add_le_add ?_ (Nat.le_add_right _ _)
        rw [total_append]
        exact Nat.le_add_right _ _
    | comeBack =>
      rw [comeBack_eq]
      exact Nat.le_refl _
    | _ => exact Nat.le_refl _

/-- Records come in only as sinks are given them. -/
theorem Sound.recordsIn_turn (h : d.Sound) (ht : Turn d d') :
    d'.counters.recordsIn = d.counters.recordsIn := by
  have hstep : ∀ {x : Plant}, d.orchestrator.plant.Step x →
      x.ground.books.counters.recordsIn = d.counters.recordsIn := fun hx => by
    obtain ⟨n, ⟨hin, -⟩, -⟩ := h.orchestrator.plant.load_step hx
    exact hin
  cases ht with
  | goOn k =>
    unfold Depot.goOn
    split
    · rfl
    · obtain ⟨n, ⟨hin, -⟩, -⟩ := (h.lend ‹_›).callAct.2
      exact hin
  | comeBack =>
    rw [comeBack_eq]
    rfl
  | act a => exact hstep (h.orchestrator.plant.step_act a)
  | tickEarly a => exact hstep (Plant.step_tickEarly a)
  | letGo | setNow | receive => rfl

/-! ## From the start -/

variable {schema : Schema} {x : Plant}

/-- Nothing was done yet, and the router knows the pipelines. -/
theorem fresh_build (hx : x.IsNew) (hb : Orchestrator.build schema x = .ok o) :
    (o.errands = [] ∧ o.stopped = none ∧ o.books.counters.recordsIn = 0)
      ∧ o.router.isOpen = true ∧ o.router.Fits o.plant.pipelines
      ∧ ∀ p ∈ o.plant.pipelines, p.Fitted o.plant.ground.blueprint := by
  have hin : x.ground.books.counters.recordsIn = 0 := congrArg Counters.recordsIn hx.counters
  obtain ⟨-, rfl | ⟨fields, template, rfl⟩⟩ := Orchestrator.build_cases hb
  · have hone : (Orchestrator.launch Orchestrator.singleTag [] x).pipelines.length = 1 := by
      simp [Orchestrator.launch, Plant.launch, Plant.onBooks, hx.pipelines]
    refine ⟨⟨rfl, rfl, hin⟩, rfl, hone, fun p hp => ?_⟩
    obtain rfl : p = _ := by
      simpa [Orchestrator.launch, Plant.launch, Plant.onBooks, hx.pipelines] using hp
    exact ⟨by simp, by simp⟩
  · exact ⟨⟨rfl, rfl, hin⟩, rfl, ⟨by simp, by simp [hx.pipelines], List.nodup_nil, by simp⟩,
      by simp [hx.pipelines]⟩

theorem sound_build (hx : x.IsNew) (hb : Orchestrator.build schema x = .ok o) :
    Sound { orchestrator := o } ∧ Balanced { orchestrator := o } := by
  obtain ⟨hs, hin, hback⟩ := Orchestrator.sound_build hx hb
  obtain ⟨⟨hidle, hstopped, hin₀⟩, hopen, hfits, hfitted⟩ := fresh_build hx hb
  have hcarried : o.carried = 0 := by simp [Orchestrator.carried, hidle]
  simp only [Orchestrator.load, hcarried] at hin
  refine ⟨⟨hs, hidle, hfitted, hfits, by simp, fun i _ => .inl hopen, ?_⟩, hin, hback, ?_,
    Nat.zero_le _⟩
  · simp [hstopped]
  · show 0 + 0 = o.books.counters.recordsAccounted + o.plant.load
    omega

theorem sound_of_reaches (hx : x.IsNew) (hb : Orchestrator.build schema x = .ok o)
    (hr : Relation.ReflTransGen Move { orchestrator := o } d) : d.Sound ∧ d.Balanced := by
  induction hr with
  | refl => exact sound_build hx hb
  | tail _ hm ih => exact ⟨ih.1.move hm, ih.2.move ih.1 hm⟩

end Depot

end LogPipeline
