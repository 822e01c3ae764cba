import LogPipeline.Proofs.Plants

/-!
# The inlets of pipelines

From outside, a pipeline is its number, its tag, its key set and its input. Nobody inside changes
the first three, and all that is done to the input is to take batches from its front
(`Pipeline.keeps_step`), so that what was taken and what still waits are what waited
(`Plant.Continues.taken`). Meanwhile no pipeline is launched, and no loss is taken back.
-/

namespace LogPipeline

/-- No pipeline was launched, and no fewer records are lost. -/
structure Books.Continues (b b' : Books) : Prop where
  launched : b'.counters.pipelinesLaunched = b.counters.pipelinesLaunched
  lost : b.counters.recordsLost ≤ b'.counters.recordsLost

namespace Books

variable {b b' : Books}

theorem Continues.refl (b : Books) : b.Continues b := ⟨rfl, Nat.le_refl _⟩

theorem continues_lose (l : Batch) (b : Books) : b.Continues (b.lose l) :=
  ⟨rfl, Nat.le_add_right _ _⟩

theorem continues_loseSend (timedOut : Bool) (l : Batch) (b : Books) :
    b.Continues (b.loseSend timedOut l) := by
  cases timedOut <;> exact ⟨rfl, Nat.le_add_right _ _⟩

theorem continues_loseChunk (timedOut : Bool) (b : Books) : b.Continues (b.loseChunk timedOut) := by
  cases timedOut <;> exact ⟨rfl, Nat.le_refl _⟩

end Books

theorem Processor.continues_step {now : Instant} {p p' : Processor} {s s' : Sequencer}
    {b b' : Books} (hs : p.Step now s b p' s' b') : b.Continues b' := by
  cases hs with
  | unwritten => exact ⟨rfl, Nat.le_succ _⟩
  | _ => exact ⟨rfl, Nat.le_refl _⟩

theorem Member.continues_acts {now : Instant} {x x' : Place} (hx : Acts now x x') :
    x.books.Continues x'.books := by
  cases hx with
  | giveUp => exact Books.continues_loseChunk _ _
  | task hs => exact Processor.continues_step hs
  | _ => exact ⟨rfl, Nat.le_refl _⟩

theorem Worker.Calls.items_suffix {α : Type} {now : Instant} {ended : Bool} {q q' : Queue α}
    {w w' : Worker} {cb : Callback α} (hc : w.Calls now ended q cb w' q') :
    q'.items <:+ q.items := by
  cases hc with
  | input hp hq =>
    rw [hq]
    exact List.suffix_cons _ _
  | _ => exact List.suffix_rfl

theorem Worker.items_leave_suffix {α : Type} (w : Worker) (q : Queue α) :
    (w.leave q).items <:+ q.items := by
  unfold Worker.leave
  split
  · exact List.nil_suffix
  · exact List.suffix_rfl

namespace Pipeline

variable {i : Nat} {p p' p'' : Pipeline} {g g' : Ground} {role : Role}

/-- It is the same pipeline, and batches were at most taken from the front of its input. -/
structure Keeps (p p' : Pipeline) : Prop where
  id : p'.id = p.id
  tag : p'.tag = p.tag
  keySet : p'.keySet = p.keySet
  input : p'.input.items <:+ p.input.items

theorem Keeps.refl (p : Pipeline) : p.Keeps p := ⟨rfl, rfl, rfl, List.suffix_rfl⟩

theorem keeps_windDown (p : Pipeline) : p.Keeps p.windDown := by
  unfold windDown
  split <;> exact ⟨rfl, rfl, rfl, List.suffix_rfl⟩

/-- Whoever acts, it stays the same pipeline. -/
theorem keeps_step (hs : Step i p g role p' g') : p.Keeps p' := by
  cases hs with
  | report hs hq | drain hs hq =>
    refine ⟨rfl, rfl, rfl, ?_⟩
    rw [hq]
    exact List.suffix_cons _ _
  | drained | crewGone => exact p.keeps_windDown
  | member | distributed => exact ⟨rfl, rfl, rfl, Worker.items_leave_suffix _ _⟩
  | memberCall hc hb hcb => exact ⟨rfl, rfl, rfl, hcb.items_suffix⟩
  | receive hc hb hcb | tick hc hb hcb | stop hc hb hcb => exact ⟨rfl, rfl, rfl, hcb.items_suffix⟩
  | _ => exact ⟨rfl, rfl, rfl, List.suffix_rfl⟩

theorem continues_step (hs : Step i p g role p' g') : g.books.Continues g'.books := by
  cases hs with
  | drain => exact Books.continues_lose _ _
  | giveUp => exact Books.continues_loseChunk _ _
  | unsent => exact Books.continues_loseSend _ _ _
  | member hc ho hb hx => exact Member.continues_acts hx
  | child hc hk ho hb hx => exact Member.continues_acts hx
  | _ => exact ⟨rfl, Nat.le_refl _⟩

end Pipeline

namespace Plant

variable {x x' : Plant}

/-- They are the same pipelines, and only their parties have acted. -/
structure Continues (x x' : Plant) : Prop where
  blueprint : x'.ground.blueprint = x.ground.blueprint
  books : x.ground.books.Continues x'.ground.books
  length : x'.pipelines.length = x.pipelines.length
  keeps : ∀ (j : Nat) (p' : Pipeline), x'.pipelines[j]? = some p' →
    ∃ p, x.pipelines[j]? = some p ∧ p.Keeps p'

theorem Continues.refl (x : Plant) : x.Continues x :=
  ⟨rfl, .refl _, rfl, fun _ p hp => ⟨p, hp, .refl p⟩⟩

theorem continues_onBooks {f : Books → Books} (hf : x.ground.books.Continues (f x.ground.books)) :
    x.Continues (x.onBooks f) :=
  ⟨rfl, hf, rfl, fun _ p hp => ⟨p, hp, .refl p⟩⟩

theorem continues_step (hs : x.Step x') : x.Continues x' := by
  cases hs with
  | @pipeline i role p p' g' hp hs =>
    refine ⟨Pipeline.blueprint_step hs, Pipeline.continues_step hs, List.length_set,
      fun j q hq => ?_⟩
    rw [List.getElem?_set] at hq
    split at hq
    · rename_i hij
      subst hij
      obtain rfl : p' = q := by simpa [(List.getElem?_eq_some_iff.1 hp).1] using hq
      exact ⟨p, hp, Pipeline.keeps_step hs⟩
    · exact ⟨q, hq, .refl q⟩
  | rest => exact .refl x

/-- What is the same of each pipeline is the same of all. -/
theorem Continues.map_eq {β : Type} (h : x.Continues x') {f : Pipeline → β}
    (hf : ∀ p p' : Pipeline, p.Keeps p' → f p' = f p) :
    x'.pipelines.map f = x.pipelines.map f := by
  refine List.ext_getElem? fun j => ?_
  rw [List.getElem?_map, List.getElem?_map]
  rcases hp' : x'.pipelines[j]? with _ | p'
  · have hp : x.pipelines[j]? = none := by
      rw [List.getElem?_eq_none_iff] at hp' ⊢
      exact h.length ▸ hp'
    rw [hp]
  · obtain ⟨p, hp, hkeeps⟩ := h.keeps j p' hp'
    rw [hp, Option.map_some, Option.map_some, hf p p' hkeeps]

/-- The batches that wait in the input of a pipeline. -/
def waitingAt (j : Nat) (x : Plant) : List Batch := (x.pipelines[j]?.map (·.input.items)).getD []

theorem waitingAt_of_getElem? {j : Nat} {p : Pipeline} (hp : x.pipelines[j]? = some p) :
    x.waitingAt j = p.input.items := by
  simp [waitingAt, hp]

/-- The batches that left the front of the input of a pipeline on the way to `x'`. -/
def takenAt (j : Nat) (x x' : Plant) : List Batch :=
  (x.waitingAt j).take ((x.waitingAt j).length - (x'.waitingAt j).length)

theorem Continues.taken (h : x.Continues x') (j : Nat) :
    x.takenAt j x' ++ x'.waitingAt j = x.waitingAt j := by
  refine List.suffix_iff_eq_append.1 ?_
  rcases hp' : x'.pipelines[j]? with _ | p'
  · simp [waitingAt, hp']
  · obtain ⟨p, hp, hkeeps⟩ := h.keeps j p' hp'
    rw [waitingAt_of_getElem? hp, waitingAt_of_getElem? hp']
    exact hkeeps.input

/-- A batch that is sent waits at the end of the input it was sent to. -/
theorem waitingAt_send {deadline : Instant} {i : Nat} {b : Batch}
    (hs : x.send deadline i b = .done x') (j : Nat) :
    x'.waitingAt j = x.waitingAt j ++ if i = j then [b] else [] := by
  obtain ⟨p, q, hp, -, -, hitems, rfl⟩ := exists_of_send hs
  simp only [waitingAt, onInput, List.getElem?_modify]
  by_cases hij : i = j
  · subst hij
    simp [hp, hitems]
  · simp [hij]

theorem sound_step (hc : x.ground.blueprint.settings.check = .ok ())
    (h : ∀ p ∈ x.pipelines, p.Sound) (hs : x.Step x') : ∀ p ∈ x'.pipelines, p.Sound := by
  cases hs with
  | @pipeline i role p p' g' hp hs =>
    intro q hq
    rcases List.mem_or_eq_of_mem_set hq with hq | rfl
    · exact h q hq
    · exact (h p (List.mem_of_getElem? hp)).step hc hs
  | rest => exact h

end Plant

end LogPipeline
