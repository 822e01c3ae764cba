import LogPipeline.Proofs.Instants
import LogPipeline.Proofs.Plants
import LogPipeline.Proofs.Safekeeping

/-!
# Plants in which nothing is lost

The pipelines of a plant share one destination. As long as that has room, whatever a party of one of
them does keeps all of them well (`Plant.Kept.act`), and when no party can do anything their inputs
are empty and time may pass (`Plant.Kept.rests`, `Plant.Kept.setNow`).
-/

namespace LogPipeline

namespace Plant

variable {g : Stages} {x x' : Plant} {i : Nat} {b : Bool} {ψ : ByteArray → Nat}

/-- Every pipeline is well kept. -/
structure Kept (g : Stages) (x : Plant) : Prop where
  healthy : x.ground.Healthy g
  pipelines : ∀ p ∈ x.pipelines, p.Kept g x.ground.blueprint x.ground.now

/-- Every input is open, or every one is closed. -/
def Inputs (b : Bool) (x : Plant) : Prop := ∀ p ∈ x.pipelines, p.input.isOpen = b

/-- The sum of a measure over the lines in the pipelines, and those of the records there. -/
def weigh (g : Stages) (ψ : ByteArray → Nat) (x : Plant) : Nat :=
  total (fun p => total ψ (p.lines g)) x.pipelines

theorem Kept.sound (h : x.Kept g) : x.Sound :=
  ⟨h.healthy.checked, h.healthy.processing, fun p hp =>
    ⟨(h.pipelines p hp).sound, (h.pipelines p hp).status.1⟩⟩

theorem Kept.lt_queueCapacity (h : x.Kept g) :
    0 < x.ground.blueprint.settings.queueCapacity :=
  Nat.pos_of_ne_zero (PipelineSettings.of_check h.healthy.checked).2.1

theorem Kept.onBooks (h : x.Kept g) (f : Books → Books) : (x.onBooks f).Kept g := by
  obtain ⟨h1, h2, h3, h4, h5⟩ := h.healthy
  exact ⟨⟨h1, h2, h3, h4, h5⟩, h.pipelines⟩

/-! ## Parties -/

theorem Inputs.step (h : x.Inputs b) (hs : x.Step x') : x'.Inputs b := by
  cases hs with
  | @pipeline i role p p' g' hp hs =>
    intro q hq
    rcases List.mem_or_eq_of_mem_set hq with hq | rfl
    · exact h q hq
    · exact (Pipeline.isOpen_step hs).trans (h p (List.mem_of_getElem? hp))
  | rest => exact h

/-- Nothing is lost by a party, and lines leave through the destination only. -/
theorem Kept.act (hg : g.Proper) (h : x.Kept g) (a : Actor)
    (hroom : (x.act a).ground.destination.queue.hasRoom = true) :
    (x.act a).Kept g ∧ Books.Spared x.ground.books (x.act a).ground.books
      ∧ ∃ ts, (x.act a).ground.destination.queue.items = x.ground.destination.queue.items ++ ts
        ∧ ∀ ψ, x.weigh g ψ = total ψ (ts.flatMap (·.chunk.lines)) + (x.act a).weigh g ψ := by
  unfold Plant.act at hroom ⊢
  split
  · exact ⟨h, .refl _, [], by simp, fun ψ => by simp⟩
  · rename_i p hp
    simp only [hp] at hroom
    have hp' := h.pipelines p (List.mem_of_getElem? hp)
    obtain ⟨hsp, hkept, ts, hitems, hlines⟩ := hp'.act (i := a.pipeline) hg h.healthy a.role
    have hstep := Pipeline.step_act (i := a.pipeline) (g := x.ground) hp'.sound.manned a.role
    have hbp := Pipeline.blueprint_step hstep
    have hnow := Pipeline.now_step hstep
    refine ⟨⟨h.healthy.gains hbp hsp.destination hroom, fun q hq => ?_⟩, hsp.books, ts, hitems,
      fun ψ => ?_⟩
    · simp only [hbp, hnow]
      rcases List.mem_or_eq_of_mem_set hq with hq | rfl
      · exact h.pipelines q hq
      · exact hkept
    · have htotal := total_set (fun p => total ψ (p.lines g)) hp
        (p.act a.pipeline a.role x.ground).1
      simp only [hlines, total_append] at htotal
      unfold weigh
      dsimp only
      omega

theorem Kept.tickEarly (hg : g.Proper) (h : x.Kept g) (a : Actor) :
    (x.tickEarly a).Kept g ∧ (x.tickEarly a).ground = x.ground
      ∧ ∀ ψ, (x.tickEarly a).weigh g ψ = x.weigh g ψ := by
  unfold Plant.tickEarly
  split
  · exact ⟨h, rfl, fun ψ => rfl⟩
  · rename_i p hp
    obtain ⟨hkept, hlines⟩ :=
      (h.pipelines p (List.mem_of_getElem? hp)).tickEarly hg h.healthy a.role
    refine ⟨⟨h.healthy, fun q hq => ?_⟩, rfl, fun ψ => ?_⟩
    · rcases List.mem_or_eq_of_mem_set hq with hq | rfl
      · exact h.pipelines q hq
      · exact hkept
    · have htotal := total_set (fun p => total ψ (p.lines g)) hp (p.tickEarly a.role x.ground)
      simp only [hlines] at htotal
      exact Nat.add_right_cancel htotal

/-- What is left to do for all pipelines before the clock has to move. -/
def effort (x : Plant) : ℕ ×ₗ ℕ ×ₗ ℕ :=
  toLex (total Pipeline.work x.pipelines, toLex (total (·.status.rank) x.pipelines,
    total (Pipeline.chores x.ground.now false) x.pipelines))

/-- As nobody has to wait for the destination, a pipeline gets on by itself. -/
theorem Kept.act_lt (h : x.Kept g) {a : Actor} (hkept : (x.act a).Kept g)
    (hable : x.able a = true) : (x.act a).effort < x.effort := by
  obtain ⟨p, hp, hable⟩ := (Option.any_eq_true _ _).1 hable
  obtain ⟨hsound, -, hfit, -⟩ := h.pipelines p (List.mem_of_getElem? hp)
  have hact : x.act a = ⟨(p.act a.pipeline a.role x.ground).2,
      x.pipelines.set a.pipeline (p.act a.pipeline a.role x.ground).1⟩ := by
    simp only [Plant.act, hp]
  have hlt := hsound.act_lt hfit h.healthy.checked hable
  have hnow := Pipeline.now_step (Pipeline.step_act (i := a.pipeline) (g := x.ground)
    hsound.manned a.role)
  have hclaims := hkept.healthy.ready.claims
  rw [hact] at hclaims ⊢
  generalize p.act a.pipeline a.role x.ground = r at *
  obtain ⟨p', gr⟩ := r
  dsimp only at hlt hnow hclaims ⊢
  have hwork := total_set Pipeline.work hp p'
  have hrank := total_set (fun p => p.status.rank) hp p'
  have hchores := total_set (Pipeline.chores x.ground.now false) hp p'
  rw [Pipeline.effort_lt] at hlt
  simp only [hclaims, h.healthy.ready.claims, hnow, List.contains_nil] at hlt
  unfold effort
  rw [Prod.Lex.toLex_lt_toLex, Prod.Lex.toLex_lt_toLex]
  simp only [hnow]
  omega

/-! ## Rest -/

/-- What has come about in a pipeline when no party can do anything. -/
theorem Kept.rests (h : x.Kept g) (hable : ∀ a, x.able a = false) {p : Pipeline}
    (hp : p ∈ x.pipelines) :
    p.Quiet ∧ p.input.items = [] ∧ (p.input.isOpen = false → p.isStopped = true) := by
  obtain ⟨i, hi⟩ := List.getElem?_of_mem hp
  obtain ⟨hsound, hst, hfit, -, -, hl⟩ := h.pipelines p hp
  have hrest : ∀ r, p.able x.ground i r = false := fun r => by
    have := hable ⟨i, r⟩
    simpa only [able, hi, Option.any_some] using this
  obtain ⟨h1, h2, h3⟩ := hsound.quiet hst hl hfit h.lt_queueCapacity h.healthy.ready hrest
  exact ⟨h1, h2, fun hi => by simp [Pipeline.isStopped, h3 hi]⟩

theorem Kept.setNow (h : x.Kept g) (hable : ∀ a, x.able a = false) (t : Instant) :
    (x.setNow t).Kept g :=
  ⟨⟨h.healthy.checked, h.healthy.processing, h.healthy.stages, h.healthy.output, h.healthy.ready⟩,
    fun p hp => (h.pipelines p hp).pass (h.rests hable hp).1 t⟩

/-- There is no less room when chunks are taken. -/
theorem Kept.take (h : x.Kept g) (n : Option Nat) : (x.take n).2.Kept g := by
  obtain ⟨h1, h2, h3, h4, hread, hroom, hclaims⟩ := h.healthy
  refine ⟨⟨h1, h2, h3, h4, hread, ?_, hclaims⟩, h.pipelines⟩
  simp only [Queue.hasRoom, decide_eq_true_eq] at hroom
  simp only [Plant.take, Destination.take, Queue.hasRoom, List.length_drop, decide_eq_true_eq]
  omega

/-! ## Owners of inputs -/

theorem Kept.onInput (h : x.Kept g) {f : Queue Batch → Queue Batch}
    (hf : ∀ p, x.pipelines[i]? = some p → p.Kept g x.ground.blueprint x.ground.now →
      Pipeline.Kept g x.ground.blueprint x.ground.now { p with input := f p.input }) :
    (x.onInput i f).Kept g := by
  refine ⟨h.healthy, fun q hq => ?_⟩
  obtain ⟨j, hj⟩ := List.getElem?_of_mem hq
  simp only [Plant.onInput, List.getElem?_modify] at hj
  obtain ⟨p, hp, rfl⟩ := Option.map_eq_some_iff.1 hj
  have hkept := h.pipelines p (List.mem_of_getElem? hp)
  split
  · rename_i hij
    subst hij
    exact hf p hp hkept
  · exact hkept

theorem Kept.close (h : x.Kept g) (i : Nat) : (x.onInput i Queue.close).Kept g :=
  h.onInput fun _ _ hp => hp.of_input (hp.sound.of_input (fun _ => rfl) fun hi _ => hi) rfl rfl

theorem weigh_close (i : Nat) (x : Plant) : (x.onInput i Queue.close).weigh g ψ = x.weigh g ψ := by
  refine total_modify (fun p => ?_) x.pipelines i
  have hlines := Pipeline.lines_input (g := g) (p := p) (q := p.input.close) (l := [])
    (List.append_nil _).symm
  simp [hlines]

theorem Kept.decides {deadline : Instant} (h : x.Kept g) (hable : ∀ a, x.able a = false) (i : Nat) :
    x.decides deadline i = true := by
  unfold Plant.decides
  rcases hp : x.pipelines[i]? with _ | p
  · rfl
  · have hmem := List.mem_of_getElem? hp
    have hroom := (h.pipelines p hmem).attended.room
    simp [Queue.decides, Queue.hasRoom, (h.rests hable hmem).2.1, hroom]

/-- A batch for an open input is taken, or waits under a deadline that lies ahead. -/
theorem Kept.send (h : x.Kept g) (ho : x.Inputs true) (hi : i < x.pipelines.length)
    {deadline : Instant} (hd : x.ground.now < deadline) (l : Batch) :
    x.send deadline i l = .blocked ∨ ∃ q, x.send deadline i l = .done (x.onInput i fun _ => q)
      ∧ (x.onInput i fun _ => q).Kept g ∧ (x.onInput i fun _ => q).Inputs true
      ∧ ∀ ψ, (x.onInput i fun _ => q).weigh g ψ
        = x.weigh g ψ + total ψ (l.filterMap g.line?) := by
  have hp : x.pipelines[i]? = some x.pipelines[i] := List.getElem?_eq_getElem hi
  generalize x.pipelines[i] = p at hp
  have hmem := List.mem_of_getElem? hp
  have hkept := h.pipelines p hmem
  have hopen := ho p hmem
  have hlate : ¬deadline ≤ x.ground.now := Nat.not_le_of_lt hd
  simp only [Plant.send, hp, hopen, Queue.trySend, hkept.isRead hopen, hlate, Bool.not_true,
    Bool.false_eq_true, ↓reduceIte]
  by_cases hroom : p.input.hasRoom = true
  · simp only [hroom, ↓reduceIte]
    refine .inr ⟨_, rfl, h.onInput fun p' hp' _ => ?_, fun q hq => ?_, fun ψ => ?_⟩
    · obtain rfl := Option.some.inj (hp.symm.trans hp')
      refine hkept.of_input (hkept.sound.of_input (fun hc => hc) fun _ hc => ?_) rfl rfl
      simp [hopen] at hc
    · obtain ⟨j, hj⟩ := List.getElem?_of_mem hq
      simp only [Plant.onInput, List.getElem?_modify] at hj
      obtain ⟨p', hp', rfl⟩ := Option.map_eq_some_iff.1 hj
      split
      · exact hopen
      · exact ho p' (List.mem_of_getElem? hp')
    · have hlines := Pipeline.lines_input (g := g) (p := p) (q := p.input.push l) (l := [l]) rfl
      obtain ⟨pre, post, hx, rfl⟩ := exists_seat hp
      simp only [weigh, Plant.onInput, hx, modify_seat, total_append, total_cons, hlines,
        List.flatten_cons, List.flatten_nil, List.append_nil]
      omega
  · simp only [hroom, Bool.false_eq_true, ↓reduceIte]
    exact .inl trivial

/-- A pipeline that is launched is well kept. -/
theorem Kept.launch (h : x.Kept g) {capacity : Nat} (hc : 0 < capacity) (id : Nat) (tag : String)
    (keySet : List String) :
    (x.launch id tag keySet capacity).Kept g
      ∧ (x.launch id tag keySet capacity).weigh g ψ = x.weigh g ψ := by
  refine ⟨⟨h.healthy, fun q hq => ?_⟩, ?_⟩
  · rcases List.mem_append.1 hq with hq | hq
    · exact h.pipelines q hq
    · obtain rfl := List.mem_singleton.1 hq
      exact Pipeline.kept_launched hc ..
  · simp only [weigh, Plant.launch, total_append, total_cons, total_nil]
    rfl

theorem Inputs.launch (h : x.Inputs true) (id : Nat) (tag : String) (keySet : List String)
    (capacity : Nat) : (x.launch id tag keySet capacity).Inputs true := by
  intro q hq
  rcases List.mem_append.1 hq with hq | hq
  · exact h q hq
  · obtain rfl := List.mem_singleton.1 hq
    rfl

end Plant

end LogPipeline
