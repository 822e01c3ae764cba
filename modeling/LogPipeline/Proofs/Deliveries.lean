import LogPipeline.Proofs.Journals

/-!
# What a pipeline delivers

Whatever happens to a pipeline, a ledger of all records sent fits what it holds (`Sound.change`). So
the lines delivered are a part of those that should be, in order; nothing is missing in the end but
what was counted as lost; and with nothing lost the lines are the same, however many workers there
are (`Journal.lines_of_reaches`).
-/

namespace LogPipeline

/-- The lines that should be delivered. -/
def Stages.lines (g : Stages) (l : List Batch) : List ByteArray := l.flatten.filterMap g.line?

namespace Journal

variable {g : Stages} {c : Counters} {role : Role} {p p' : Pipeline} {j j' : Journal}

/-! ## The ledger is kept -/

/-- A ledger of all records sent fits what the pipeline holds. -/
structure Sound (g : Stages) (c : Counters) (j : Journal) (p : Pipeline) : Prop where
  tells : j.Tells p
  stages : j.feed.plant.ground.blueprint.stages = some g
  writes : p.Writes g
  ledger : ∃ es, Ledger g j.sent.flatten j.lines p.stream j.dropped j.lost.flatten es
  recordsLost : j.counters.recordsLost = c.recordsLost + j.lost.flatten.length
  chunksLost : j.counters.chunksLost = c.chunksLost + j.dropped.length

/-- What is noted as lost is what the step has lost. -/
theorem note_edit {gr : Ground} {cs : List Chunk} {rs : List Record}
    (hp : j.feed.plant.pipelines = [p]) (hcs : cs = [] ∨ cs = (p.chunkInHand role).toList)
    (hrs : rs = [] ∨ rs = p.batchInHand role)
    (hd : gr.destination.queue.items = j.feed.plant.ground.destination.queue.items)
    (hb : Books.Loss rs.length cs.length j.feed.plant.ground.books gr.books) (l : List Pipeline) :
    (j.note role ⟨gr, l⟩).lines = j.lines
      ∧ (j.note role ⟨gr, l⟩).dropped = j.dropped ++ cs
      ∧ (j.note role ⟨gr, l⟩).lost.flatten = j.lost.flatten ++ rs := by
  obtain ⟨h1, h2⟩ := hb
  refine ⟨?_, ?_, ?_⟩
  · simp [lines, note, hd]
  · simp only [note, h2, hp]
    rcases hcs with rfl | rfl
    · simp
    · rcases hc : p.chunkInHand role with _ | c <;> simp [hc]
  · simp only [note, h1, hp]
    rcases hrs with rfl | rfl
    · simp
    · rcases hr : p.batchInHand role with _ | ⟨r, l⟩ <;> simp [hr]

theorem Sound.step (h : j.Sound g c p) (hg : g.Proper) {gr : Ground}
    (hs : p.Step 0 j.feed.plant.ground role p' gr) : (j.note role ⟨gr, [p']⟩).Sound g c p' := by
  obtain ⟨es, hl⟩ := h.ledger
  obtain ⟨hsound, hst⟩ := h.tells.sound
  have htells := h.tells.step hs
  have hstages : gr.blueprint.stages = some g := by rw [Pipeline.blueprint_step hs, h.stages]
  obtain ⟨hw, hpass⟩ := hsound.passage_step hg hst h.writes h.stages h.tells.plant.checked hs
  cases hpass with
  | @edit cs rs he hcs hrs hd hb =>
    obtain ⟨h1, h2, h3⟩ := note_edit h.tells.pipelines hcs hrs hd hb [p']
    obtain ⟨es', hl'⟩ := hl.edit he
    refine ⟨htells, hstages, hw, ⟨es', ?_⟩, ?_, ?_⟩
    · rw [h1, h2, h3]
      exact hl'
    · rw [h3, List.length_append, ← Nat.add_assoc, ← h.recordsLost]
      exact hb.records
    · rw [h2, List.length_append, ← Nat.add_assoc, ← h.chunksLost]
      exact hb.chunks
  | @deliver t hs hd hb =>
    obtain ⟨es', hl'⟩ := (hs ▸ hl).deliver
    have h1 : (j.note role ⟨gr, [p']⟩).lines = j.lines ++ t.chunk.lines := by
      simp [lines, note, hd]
    have h2 : (j.note role ⟨gr, [p']⟩).dropped = j.dropped := by
      simp [note, hb.chunks]
    have h3 : (j.note role ⟨gr, [p']⟩).lost = j.lost := by
      simp [note, hb.records]
    refine ⟨htells, hstages, hw, ⟨es', ?_⟩, ?_, ?_⟩
    · rw [h1, h2, h3]
      exact hl'
    · rw [h3, ← h.recordsLost]
      exact hb.records
    · rw [h2, ← h.chunksLost]
      exact hb.chunks

theorem Sound.change (h : j.Sound g c p) (hg : g.Proper) (ht : j'.Tells p')
    (hc : Change j p j' p') : j'.Sound g c p' := by
  cases hc with
  | step hs => exact h.step hg hs
  | @sent j' q l hq hs ha =>
    obtain ⟨es, hl⟩ := h.ledger
    obtain ⟨es', hl'⟩ := hl.send l.flatten
    have hstream : Pipeline.stream { p with input := q } = p.stream ++ l.flatten.map .record := by
      simp only [Pipeline.stream, hq, List.flatten_append, List.map_append, List.append_assoc]
      simp [Pipeline.leaving, Pipeline.held]
    refine ⟨ht, by rw [ha.blueprint, h.stages], h.writes, ⟨es', ?_⟩, ?_, ?_⟩
    · rw [hstream, hs, List.flatten_append, lines, ha.delivered, ha.dropped, ha.lost]
      exact hl'
    · rw [ha.counters, ha.lost, h.recordsLost]
    · rw [ha.counters, ha.dropped, h.chunksLost]

theorem sound_start {id : Nat} {tag : String} {capacity : Nat} {ground : Ground}
    (hstages : ground.blueprint.stages = some g) (hcheck : ground.blueprint.settings.check = .ok ())
    (hcollects : ground.blueprint.collects = false) :
    ∃ p, (start id tag capacity ground).Sound g ground.books.counters p := by
  refine ⟨_, tells_start hcheck hcollects, hstages, ?_, ⟨[], ?_⟩, rfl, rfl⟩
  · intro c hc
    simp at hc
  · exact ⟨rfl, rfl, by simp, by simp, by simp [start], .refl _⟩

/-! ## Runs -/

/-- What became of all records that were sent to a pipeline that has stopped: each was delivered,
filtered, or lost in a batch or a chunk that was counted. -/
structure Accounts (g : Stages) (j : Journal) (es : List Entry) : Prop where
  records : es.map Entry.record = j.sent.flatten
  delivered : (es.filter (·.fate = .delivered)).filterMap (Entry.line? g) = j.lines
  settled : ∀ e ∈ es, e.fate ≠ .waiting ∧ e.fate ≠ .written
  fair : ∀ e ∈ es, e.Fair g
  lost : ((es.filter (·.fate = .lost)).map Entry.record).Perm j.lost.flatten
  known : ∀ e ∈ es, ∀ k, e.fate = .dropped k → k < j.dropped.length
  dropped : ∀ k c, j.dropped[k]? = some c →
    (es.filter (·.fate = .dropped k)).filterMap (Entry.line? g) = c.lines

theorem Sound.stopped (h : j.Sound g c p) (hs : j.isStopped = true) :
    ∃ es, Ledger g j.sent.flatten j.lines [] j.dropped j.lost.flatten es := by
  obtain ⟨es, hl⟩ := h.ledger
  have hstop : p.status = .stopped := by
    simpa [isStopped, h.tells.pipelines, Pipeline.isStopped] using hs
  have hnil := h.tells.sound.1.stream_stopped hstop
  exact ⟨es, hnil ▸ hl⟩

/-- Whatever happens, the lines delivered are a part of those that should be, in order, and the
counters count exactly what was noted as lost. Once the pipeline has stopped, every record was
delivered, filtered, or lost in a batch or chunk that was counted, and if nothing was counted as
lost, the lines delivered are those that should be. -/
theorem lines_of_reaches {schema : Schema} {rules : List Rule} {id : Nat} {tag : String}
    {capacity : Nat} {ground : Ground}
    (hstages : ground.blueprint.stages = some (.standard schema rules))
    (hcheck : ground.blueprint.settings.check = .ok ())
    (hcollects : ground.blueprint.collects = false)
    (hr : Relation.ReflTransGen Move (start id tag capacity ground) j) :
    let g := Stages.standard schema rules
    j.lines.Sublist (g.lines j.sent)
      ∧ j.counters.recordsLost = ground.books.counters.recordsLost + j.lost.flatten.length
      ∧ j.counters.chunksLost = ground.books.counters.chunksLost + j.dropped.length
      ∧ (j.isStopped = true → ∃ es, j.Accounts g es)
      ∧ (j.isStopped = true → j.counters.recordsLost = 0 → j.counters.chunksLost = 0 →
        j.lines = g.lines j.sent) := by
  intro g
  have hg : g.Proper := Stages.proper_standard schema rules
  have h : ∃ p, j.Sound g ground.books.counters p := by
    induction hr with
    | refl => exact sound_start hstages hcheck hcollects
    | tail _ hm ih =>
      obtain ⟨p, h⟩ := ih
      obtain ⟨p', ht, hc⟩ := change_of_move h.tells hm
      exact ⟨p', h.change hg ht hc⟩
  obtain ⟨p, h⟩ := h
  obtain ⟨es, hl⟩ := h.ledger
  refine ⟨hl.outs_sublist, h.recordsLost, h.chunksLost, fun hs => ?_, fun hs hrec hchunk => ?_⟩
  · obtain ⟨es, hl⟩ := h.stopped hs
    exact ⟨es, hl.records, hl.delivered_lines, hl.settled, hl.fair, hl.lost, hl.known, hl.dropped⟩
  · obtain ⟨es, hl⟩ := h.stopped hs
    have h1 := h.recordsLost
    have h2 := h.chunksLost
    have hlost : j.lost.flatten = [] := List.length_eq_zero_iff.1 (by omega)
    have hdropped : j.dropped = [] := List.length_eq_zero_iff.1 (by omega)
    rw [hlost, hdropped] at hl
    exact hl.outs_eq

/-- Two workers deliver the lines of two batches, each of which is a run of its own. -/
theorem lines_of_two_batches :
    ∃ ground j, ground.blueprint.stages = some (.standard ⟨["name"]⟩ [])
      ∧ ground.blueprint.settings.check = .ok () ∧ ground.blueprint.collects = false
      ∧ Relation.ReflTransGen Move (start 1 "a" 2 ground) j
      ∧ (j.isStopped = true ∧ j.counters.recordsLost = 0 ∧ j.counters.chunksLost = 0)
      ∧ j.sent.length = 2 ∧ j.delivered.length = 2
      ∧ j.lines = (Stages.standard ⟨["name"]⟩ []).lines j.sent := by
  let settings : PipelineSettings := { workers := 2, distributor := { maxRecords := 1 } }
  let ground : Ground :=
    { blueprint := { settings, stages := some (.standard ⟨["name"]⟩ []), output := some 1 }
      destination := ⟨{ capacity := 2 }, []⟩ }
  have hstages : ground.blueprint.stages = some (.standard ⟨["name"]⟩ []) := rfl
  have hcheck : ground.blueprint.settings.check = .ok () := rfl
  -- both batches wait in the input, which is closed, before anybody acts
  have h₁ := reaches_offer (j := start 1 "a" 2 ground) [{ timestamp := 1 }] 5 rfl
  have h₂ := (h₁.trans (reaches_offer [{ timestamp := 2 }] 5 rfl)).tail .close
  have h₃ := h₂.trans (reaches_acts ((List.replicate 32
    [.supervisor, .root, .child 0, .child 1, .consumer]).flatten.map (Actor.mk 0)) _)
  have hend := lines_of_reaches hstages hcheck rfl h₃
  refine ⟨ground, _, hstages, hcheck, rfl, h₃, ⟨?_, ?_, ?_⟩, ?_, ?_, ?_⟩
  · decide +kernel
  · decide +kernel
  · decide +kernel
  · decide +kernel
  · decide +kernel
  · exact hend.2.2.2.2 (by decide +kernel) (by decide +kernel) (by decide +kernel)

end Journal

end LogPipeline
