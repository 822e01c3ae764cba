import LogPipeline.Plant
import LogPipeline.Proofs.Census

/-!
# Plants that keep count

Every pipeline of a plant is sound, and the step of one party changes one pipeline and the ground
(`Plant.Step`). So the records inside all pipelines together change as those of the one do
(`Plant.Sound.load_step`), and a pipeline that has stopped stays so (`Plant.Follows`).
-/

namespace LogPipeline

namespace Plant

variable {x x' x'' : Plant} {i : Nat}

/-- The records inside all pipelines. -/
def load (x : Plant) : Nat := total Pipeline.load x.pipelines

/-- What is always so of a plant whose pipelines process what they are sent. -/
structure Sound (x : Plant) : Prop where
  checked : x.ground.blueprint.settings.check = .ok ()
  processing : x.ground.blueprint.collects = false
  pipelines : ∀ p ∈ x.pipelines, p.Sound ∧ p.status ≠ .collecting

/-- The same pipelines, none of which has started again. -/
def Follows (x x' : Plant) : Prop :=
  x'.pipelines.length = x.pipelines.length
    ∧ ∀ (j : Nat) (p' : Pipeline), x'.pipelines[j]? = some p' → p'.isStopped = false →
      ∃ p, x.pipelines[j]? = some p ∧ p.isStopped = false

theorem Follows.refl (x : Plant) : x.Follows x := ⟨rfl, fun _ p hp hs => ⟨p, hp, hs⟩⟩

theorem Follows.trans (h : x.Follows x') (h' : x'.Follows x'') : x.Follows x'' := by
  refine ⟨h'.1.trans h.1, fun j p'' hp hs => ?_⟩
  obtain ⟨p', hp', hs'⟩ := h'.2 j p'' hp hs
  exact h.2 j p' hp' hs'

theorem Follows.isStopped (h : x.Follows x') (hs : ∀ p ∈ x.pipelines, p.isStopped = true) :
    ∀ p ∈ x'.pipelines, p.isStopped = true := by
  intro p' hp'
  obtain ⟨j, hj⟩ := List.getElem?_of_mem hp'
  by_contra hne
  obtain ⟨p, hp, hns⟩ := h.2 j p' hj (by simpa using hne)
  simp [hs p (List.mem_of_getElem? hp)] at hns

theorem Sound.load_stopped (h : x.Sound) (hs : ∀ p ∈ x.pipelines, p.isStopped = true) :
    x.load = 0 := by
  refine total_eq_zero fun p hp => (h.pipelines p hp).1.load_finished (.inr ?_)
  simpa [Pipeline.isStopped] using hs p hp

/-! ## Steps -/

/-- A party of one pipeline makes a step, or nothing changes. -/
inductive Step (x : Plant) : Plant → Prop where
  | pipeline {i : Nat} {role : Role} {p p' : Pipeline} {g' : Ground}
      (hp : x.pipelines[i]? = some p) (hs : p.Step i x.ground role p' g') :
      Step x ⟨g', x.pipelines.set i p'⟩
  | rest : Step x x

theorem step_act (h : ∀ p ∈ x.pipelines, p.Sound) (a : Actor) : x.Step (x.act a) := by
  unfold act
  split
  · exact .rest
  · rename_i p hp
    exact .pipeline hp (Pipeline.step_act (h p (List.mem_of_getElem? hp)).manned _)

theorem Sound.step_act (h : x.Sound) (a : Actor) : x.Step (x.act a) :=
  Plant.step_act (fun p hp => (h.pipelines p hp).1) a

/-- A party whose tick is due takes it before what is queued for it. -/
def tickEarly (a : Actor) (x : Plant) : Plant :=
  match x.pipelines[a.pipeline]? with
  | none => x
  | some p => { x with pipelines := x.pipelines.set a.pipeline (p.tickEarly a.role x.ground) }

theorem step_tickEarly (a : Actor) : x.Step (x.tickEarly a) := by
  unfold tickEarly
  split
  · exact .rest
  · exact .pipeline ‹_› (Pipeline.step_tickEarly _)

theorem Sound.step (h : x.Sound) (hs : x.Step x') : x'.Sound := by
  cases hs with
  | @pipeline i role p p' g' hp hs =>
    obtain ⟨hsound, hst⟩ := h.pipelines p (List.mem_of_getElem? hp)
    have hbp := Pipeline.blueprint_step hs
    refine ⟨hbp ▸ h.checked, hbp ▸ h.processing, fun q hq => ?_⟩
    rcases List.mem_or_eq_of_mem_set hq with hq | rfl
    · exact h.pipelines q hq
    · exact ⟨hsound.step h.checked hs, Pipeline.status_step hst h.processing hs⟩
  | rest => exact h

theorem Sound.load_step (h : x.Sound) (hs : x.Step x') :
    ∃ n, Books.Leave n x.ground.books x'.ground.books ∧ x.load = x'.load + n := by
  cases hs with
  | @pipeline i role p p' g' hp hs =>
    obtain ⟨hsound, hst⟩ := h.pipelines p (List.mem_of_getElem? hp)
    obtain ⟨n, hleave, hn⟩ := hsound.load_step hst hs
    have htotal := total_set Pipeline.load hp p'
    exact ⟨n, hleave, by unfold load; dsimp only; omega⟩
  | rest => exact ⟨0, .refl _, rfl⟩

theorem follows_step (hs : x.Step x') : x.Follows x' := by
  cases hs with
  | @pipeline i role p p' g' hp hs =>
    refine ⟨List.length_set, fun j q hq hns => ?_⟩
    rw [List.getElem?_set] at hq
    split at hq
    · rename_i hij
      subst hij
      obtain rfl : p' = q := by simpa [(List.getElem?_eq_some_iff.1 hp).1] using hq
      refine ⟨p, hp, Bool.eq_false_iff.2 fun hstop => ?_⟩
      simp [Pipeline.isStopped_step hstop hs] at hns
    · exact ⟨q, hq, hns⟩
  | rest => exact .refl x

/-! ## Owners of inputs -/

theorem follows_onInput (i : Nat) (f : Queue Batch → Queue Batch) (x : Plant) :
    x.Follows (x.onInput i f) := by
  refine ⟨List.length_modify .., fun j q hq hns => ?_⟩
  simp only [onInput, List.getElem?_modify] at hq
  obtain ⟨p, hp, rfl⟩ := Option.map_eq_some_iff.1 hq
  exact ⟨p, hp, by split at hns <;> exact hns⟩

theorem Sound.onInput (h : x.Sound) {f : Queue Batch → Queue Batch}
    (hf : ∀ p, x.pipelines[i]? = some p → (p.input.isOpen = false → (f p.input).isOpen = false)
      ∧ (p.input.items = [] → p.input.isOpen = false → (f p.input).items = [])) :
    (x.onInput i f).Sound := by
  refine ⟨h.checked, h.processing, fun q hq => ?_⟩
  obtain ⟨j, hj⟩ := List.getElem?_of_mem hq
  simp only [Plant.onInput, List.getElem?_modify] at hj
  obtain ⟨p, hp, rfl⟩ := Option.map_eq_some_iff.1 hj
  obtain ⟨hsound, hst⟩ := h.pipelines p (List.mem_of_getElem? hp)
  split
  · rename_i hij
    subst hij
    exact ⟨hsound.of_input (hf p hp).1 (hf p hp).2, hst⟩
  · exact ⟨hsound, hst⟩

theorem Sound.close (h : x.Sound) (i : Nat) : (x.onInput i Queue.close).Sound :=
  h.onInput fun _ _ => ⟨fun _ => rfl, fun hi _ => hi⟩

theorem load_onInput {f : Queue Batch → Queue Batch} {p : Pipeline}
    (hp : x.pipelines[i]? = some p) :
    (x.onInput i f).load + total List.length p.input.items
      = x.load + total List.length (f p.input).items := by
  obtain ⟨pre, post, hx, rfl⟩ := exists_seat hp
  simp only [load, Plant.onInput, hx, modify_seat, total_append, total_cons, Pipeline.load]
  omega

theorem load_close (i : Nat) (x : Plant) : (x.onInput i Queue.close).load = x.load := by
  rcases hp : x.pipelines[i]? with _ | p
  · simp only [load, Plant.onInput]
    rw [List.modify_eq_self (by simpa using hp)]
  · have := load_onInput (f := Queue.close) hp
    simp only [Queue.close] at this
    exact Nat.add_right_cancel this

/-- A batch is sent only to an input that is open, and comes last in it. -/
theorem exists_of_send {deadline : Instant} {b : Batch} (hs : x.send deadline i b = .done x') :
    ∃ p q, x.pipelines[i]? = some p ∧ p.input.isOpen = true ∧ q.isOpen = true
      ∧ q.items = p.input.items ++ [b] ∧ x' = x.onInput i fun _ => q := by
  unfold Plant.send at hs
  split at hs
  · simp at hs
  · rename_i p hp
    split at hs
    · simp at hs
    · rename_i ho
      have ho : p.input.isOpen = true := by simpa using ho
      split at hs
      · rename_i q hq
        obtain rfl := Fed.done.inj hs
        obtain ⟨-, -, rfl⟩ := Queue.trySend_eq_done_iff.1 hq
        exact ⟨p, p.input.push b, hp, ho, ho, rfl, rfl⟩
      · simp at hs
      · simp at hs

theorem Sound.send (h : x.Sound) {deadline : Instant} {b : Batch}
    (hs : x.send deadline i b = .done x') :
    x'.Sound ∧ x.Follows x' ∧ x'.ground = x.ground ∧ x'.load = x.load + b.length := by
  obtain ⟨p, q, hp, ho, -, hitems, rfl⟩ := exists_of_send hs
  refine ⟨h.onInput fun p' hp' => ?_, follows_onInput i _ x, rfl, ?_⟩
  · obtain rfl := Option.some.inj (hp.symm.trans hp')
    exact ⟨fun hc => by simp [ho] at hc, fun _ hc => by simp [ho] at hc⟩
  · have := load_onInput (f := fun _ => q) hp
    simp only [hitems, total_append, total_cons, total_nil] at this
    omega

/-- A pipeline that is launched has nothing in it. -/
theorem Sound.launch (h : x.Sound) (id : Nat) (tag : String) (keySet : List String)
    (capacity : Nat) :
    (x.launch id tag keySet capacity).Sound ∧ (x.launch id tag keySet capacity).load = x.load := by
  refine ⟨⟨h.checked, h.processing, fun q hq => ?_⟩, ?_⟩
  · rcases List.mem_append.1 hq with hq | hq
    · exact h.pipelines q hq
    · obtain rfl := List.mem_singleton.1 hq
      exact ⟨Pipeline.sound_launched .., by simp⟩
  · simp [load, Plant.launch, Pipeline.load]

end Plant

end LogPipeline
