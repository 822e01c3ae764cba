import LogPipeline.Proofs.Dispatches
import LogPipeline.Proofs.Passage
import LogPipeline.Proofs.Plants
import LogPipeline.Proofs.Runs
import LogPipeline.Rig.Feed

/-!
# A pipeline with its journal

A journal goes with a pipeline that is fed by hand and notes what it was sent, what it delivered,
which batches and chunks were counted as lost, and what its distributor offered. It is kept through
every run of the pipeline (`Journal.exists_of_machine`). Each move is a step of one party, which the
journal notes, or leaves the pipeline as it is but for its input (`Journal.change_of_move`).
-/

namespace LogPipeline

/-- The batch that a call in progress gets into the pipeline when it goes on. -/
def Feed.entering (f : Feed) : List Batch :=
  match f.sending with
  | none => []
  | some (b, deadline) =>
    match f.plant.send deadline 0 b with
    | .done _ => [b]
    | _ => []

/-- A pipeline that is fed by hand, with what came of it. -/
structure Journal where
  feed : Feed
  sent : List Batch := []
  delivered : List TaggedChunk := []
  dropped : List Chunk := []
  lost : List Batch := []
  offers : List Offer := []

namespace Journal

variable {role : Role} {p p' : Pipeline} {j j' : Journal}

/-- Nothing has happened yet. -/
def start (id : Nat) (tag : String) (capacity : Nat) (ground : Ground) : Journal :=
  { feed := .start id tag capacity ground }

/-- The counters. -/
def counters (j : Journal) : Counters := j.feed.plant.ground.books.counters

/-- The lines that were delivered. -/
def lines (j : Journal) : List ByteArray := j.delivered.flatMap (·.chunk.lines)

/-- The pipeline has stopped. -/
def isStopped (j : Journal) : Bool := j.feed.plant.pipelines.all Pipeline.isStopped

/-- Notes what a step of a party has added to the destination, what it has counted as lost, which is
the chunk or the batch in its hands, and what the distributor has offered. -/
def note (role : Role) (x : Plant) (j : Journal) : Journal :=
  let old := j.feed.plant
  let items := old.ground.destination.queue.items
  let counters := old.ground.books.counters
  { j with
    feed.plant := x
    delivered := j.delivered ++ x.ground.destination.queue.items.drop items.length
    dropped := j.dropped ++
      if x.ground.books.counters.chunksLost = counters.chunksLost then []
      else old.pipelines.flatMap fun p => (p.chunkInHand role).toList
    lost := j.lost ++
      if x.ground.books.counters.recordsLost = counters.recordsLost then []
      else old.pipelines.map (Pipeline.batchInHand role)
    offers := j.offers ++ (old.pipelines.zip x.pipelines).flatMap fun e => e.1.offered e.2 }

/-- What may happen: the owner sends a batch or closes the input, the call or a party goes on, time
passes, and something happens to the destination. -/
inductive Move (j : Journal) : Journal → Prop where
  | send (b : Batch) (timeout : Nat) (hs : j.feed.sending = none) :
    Move j { j with feed := j.feed.send b timeout }
  | close : Move j { j with feed := j.feed.close }
  | goOn : Move j { j with feed := j.feed.callAct, sent := j.sent ++ j.feed.entering }
  | act (a : Actor) : Move j (j.note a.role (j.feed.plant.act a))
  | tickEarly (a : Actor) : Move j (j.note a.role (j.feed.plant.tickEarly a))
  | setNow (t : Instant) : Move j { j with feed.plant := j.feed.plant.setNow t }
  | receive (d : Destination) : Move j { j with feed.plant.ground.destination := d }

/-- However the owner and the parties are scheduled, a journal can be kept. -/
theorem exists_of_machine {f : Feed} (h : Feed.machine.Reaches j.feed f) :
    ∃ j', Relation.ReflTransGen Move j j' ∧ j'.feed = f := by
  induction h with
  | refl => exact ⟨j, .refl, rfl⟩
  | tail _ hm ih =>
    obtain ⟨j', hj, rfl⟩ := ih
    cases hm with
    | act k => exact ⟨_, hj.tail (.act k), rfl⟩
    | call => exact ⟨_, hj.tail .goOn, rfl⟩
    | setNow t => exact ⟨_, hj.tail (.setNow t), rfl⟩

/-- The parties act in this order. -/
def acts (l : List Actor) (j : Journal) : Journal :=
  l.foldl (fun j a => j.note a.role (j.feed.plant.act a)) j

theorem reaches_acts (l : List Actor) (j : Journal) :
    Relation.ReflTransGen Move j (j.acts l) := by
  induction l generalizing j with
  | nil => exact .refl
  | cons a l ih => exact .head (.act a) (ih _)

/-- The owner sends a batch, as far as that goes at once. -/
def offer (b : Batch) (timeout : Nat) (j : Journal) : Journal :=
  let j := { j with feed := j.feed.send b timeout }
  { j with feed := j.feed.callAct, sent := j.sent ++ j.feed.entering }

theorem reaches_offer (b : Batch) (timeout : Nat) (hs : j.feed.sending = none) :
    Relation.ReflTransGen Move j (j.offer b timeout) :=
  .tail (.tail .refl (.send b timeout hs)) .goOn

/-! ## What a move changes -/

/-- The plant of the journal is sound and has one pipeline. -/
structure Tells (j : Journal) (p : Pipeline) : Prop where
  plant : j.feed.plant.Sound
  pipelines : j.feed.plant.pipelines = [p]

theorem Tells.sound (h : j.Tells p) : p.Sound ∧ p.status ≠ .collecting :=
  h.plant.pipelines p (by simp [h.pipelines])

/-- Nothing has changed but the input, the time and the destination. -/
structure Agrees (j j' : Journal) : Prop where
  blueprint : j'.feed.plant.ground.blueprint = j.feed.plant.ground.blueprint
  counters : j'.counters = j.counters
  delivered : j'.delivered = j.delivered
  dropped : j'.dropped = j.dropped
  lost : j'.lost = j.lost
  offers : j'.offers = j.offers

/-- A move is a step of a party, or the owner sends some batches. -/
inductive Change (j : Journal) (p : Pipeline) : Journal → Pipeline → Prop where
  | step {role : Role} {p' : Pipeline} {gr : Ground}
      (hs : p.Step 0 j.feed.plant.ground role p' gr) : Change j p (j.note role ⟨gr, [p']⟩) p'
  | sent {j' : Journal} {q : Queue Batch} (l : List Batch) (hq : q.items = p.input.items ++ l)
      (hs : j'.sent = j.sent ++ l) (ha : j.Agrees j') : Change j p j' { p with input := q }

theorem Tells.step (h : j.Tells p) {gr : Ground} (hs : p.Step 0 j.feed.plant.ground role p' gr) :
    (j.note role ⟨gr, [p']⟩).Tells p' := by
  have hplant := h.plant.step (.pipeline (i := 0) (by rw [h.pipelines]; rfl) hs)
  rw [h.pipelines] at hplant
  exact ⟨hplant, rfl⟩

/-- Only the parties of the one pipeline do anything. -/
theorem Tells.note (h : j.Tells p) {x : Plant} {i : Nat}
    (hx : x = j.feed.plant ∨ ∃ q p' gr, j.feed.plant.pipelines[i]? = some q
      ∧ q.Step i j.feed.plant.ground role p' gr ∧ x = ⟨gr, j.feed.plant.pipelines.set i p'⟩) :
    ∃ p', (j.note role x).Tells p' ∧ Change j p (j.note role x) p' := by
  have hp := h.pipelines
  rcases hx with rfl | ⟨q, p', gr, hq, hs, rfl⟩
  · have hplant : j.feed.plant = ⟨j.feed.plant.ground, [p]⟩ := by rw [← hp]
    rw [hplant]
    exact ⟨p, h.step .rest, .step .rest⟩
  · rcases i with _ | i
    · obtain rfl : p = q := by simpa [hp] using hq
      simp only [hp, List.set_cons_zero]
      exact ⟨p', h.step hs, .step hs⟩
    · simp [hp] at hq

theorem Tells.act (h : j.Tells p) (a : Actor) :
    ∃ p', (j.note a.role (j.feed.plant.act a)).Tells p'
      ∧ Change j p (j.note a.role (j.feed.plant.act a)) p' := by
  refine h.note (i := a.pipeline) ?_
  unfold Plant.act
  split
  · exact .inl rfl
  · rename_i q hq
    have hmanned := (h.plant.pipelines q (List.mem_of_getElem? hq)).1.manned
    exact .inr ⟨q, _, _, hq, Pipeline.step_act hmanned a.role, rfl⟩

theorem Tells.tickEarly (h : j.Tells p) (a : Actor) :
    ∃ p', (j.note a.role (j.feed.plant.tickEarly a)).Tells p'
      ∧ Change j p (j.note a.role (j.feed.plant.tickEarly a)) p' := by
  refine h.note (i := a.pipeline) ?_
  unfold Plant.tickEarly
  split
  · exact .inl rfl
  · rename_i q hq
    exact .inr ⟨q, _, _, hq, Pipeline.step_tickEarly a.role, rfl⟩

/-- A batch that is sent comes last in the input. -/
theorem Tells.send (h : j.Tells p) {deadline : Instant} {b : Batch} {x : Plant}
    (hs : j.feed.plant.send deadline 0 b = .done x) :
    x.Sound ∧ x.ground = j.feed.plant.ground
      ∧ ∃ q : Queue Batch,
        x.pipelines = [{ p with input := q }] ∧ q.items = p.input.items ++ [b] := by
  obtain ⟨h1, -, h2, -⟩ := h.plant.send hs
  obtain ⟨p', q, hp', -, -, hitems, rfl⟩ := Plant.exists_of_send hs
  obtain rfl : p = p' := by simpa [h.pipelines] using hp'
  exact ⟨h1, h2, q, by simp [Plant.onInput, h.pipelines], hitems⟩

theorem change_of_move (h : j.Tells p) (hm : j.Move j') : ∃ p', j'.Tells p' ∧ Change j p j' p' := by
  have hkeep : ∀ {j'}, j'.Tells p → j'.sent = j.sent → j.Agrees j' →
      ∃ p', j'.Tells p' ∧ Change j p j' p' := fun ht hs ha =>
    ⟨p, ht, .sent [] (List.append_nil _).symm (hs.trans (List.append_nil _).symm) ha⟩
  cases hm with
  | send b timeout hs => exact hkeep ⟨h.plant, h.pipelines⟩ rfl ⟨rfl, rfl, rfl, rfl, rfl, rfl⟩
  | close =>
    refine ⟨{ p with input := p.input.close }, ⟨h.plant.close 0, ?_⟩,
      .sent [] (List.append_nil _).symm (List.append_nil _).symm ⟨rfl, rfl, rfl, rfl, rfl, rfl⟩⟩
    simp [Feed.close, Plant.onInput, h.pipelines]
  | goOn =>
    rcases hs : j.feed.sending with _ | ⟨b, deadline⟩
    · simp only [Feed.callAct, Feed.entering, hs, List.append_nil]
      exact hkeep h rfl ⟨rfl, rfl, rfl, rfl, rfl, rfl⟩
    · rcases hx : j.feed.plant.send deadline 0 b with x | reason | _
      · obtain ⟨h1, h2, q, h3, hq⟩ := h.send hx
        simp only [Feed.callAct, Feed.entering, hs, hx]
        refine ⟨_, ⟨h1, h3⟩, .sent [b] hq rfl ⟨?_, ?_, rfl, rfl, rfl, rfl⟩⟩
        · simp [h2]
        · simp [counters, h2]
      · simp only [Feed.callAct, Feed.entering, hs, hx, List.append_nil]
        exact hkeep ⟨h.plant, h.pipelines⟩ rfl ⟨rfl, rfl, rfl, rfl, rfl, rfl⟩
      · simp only [Feed.callAct, Feed.entering, hs, hx, List.append_nil]
        exact hkeep h rfl ⟨rfl, rfl, rfl, rfl, rfl, rfl⟩
  | act a => exact h.act a
  | tickEarly a => exact h.tickEarly a
  | setNow t =>
    exact hkeep ⟨⟨h.plant.checked, h.plant.processing, h.plant.pipelines⟩, h.pipelines⟩ rfl
      ⟨rfl, rfl, rfl, rfl, rfl, rfl⟩
  | receive d =>
    exact hkeep ⟨⟨h.plant.checked, h.plant.processing, h.plant.pipelines⟩, h.pipelines⟩ rfl
      ⟨rfl, rfl, rfl, rfl, rfl, rfl⟩

theorem tells_start {id : Nat} {tag : String} {capacity : Nat} {ground : Ground}
    (hcheck : ground.blueprint.settings.check = .ok ())
    (hcollects : ground.blueprint.collects = false) :
    (start id tag capacity ground).Tells { id, tag, keySet := [], input := { capacity } } := by
  have hplant : Plant.Sound ⟨ground, []⟩ := ⟨hcheck, hcollects, by simp⟩
  exact ⟨(hplant.launch id tag [] capacity).1, rfl⟩

end Journal

end LogPipeline
