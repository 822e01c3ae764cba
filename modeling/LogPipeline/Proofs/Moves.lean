import LogPipeline.Pipeline
import LogPipeline.Proofs.Seats
import LogPipeline.Proofs.Tasks

/-!
# What a party of a pipeline does

`Pipeline.Step` lists what one step of one party can change, with what was true at that moment, and
`step_act` shows that `Pipeline.act` does nothing else. A worker whose tick is due may take it
before what is queued for it, which `act` never does; `Pipeline.tickEarly` is that step, and it is
on the list as well.
-/

namespace LogPipeline

/-! ## Workers -/

namespace Worker

variable {α : Type}

/-- An idle worker begins a callback. A tick may come at any time. -/
inductive Calls (now : Instant) (ended : Bool) (q : Queue α) (w : Worker) :
    Callback α → Worker → Queue α → Prop where
  | input {a : α} {rest : List α} (hp : w.phase = .serving) (hq : q.items = a :: rest) :
    Calls now ended q w (.input a (now + w.settings.sendTimeout)) { w with busy := true }
      { q with items := rest }
  | tick {t : Instant} (hp : w.phase = .serving) :
    Calls now ended q w .tick { w with busy := true, nextTick := t } q
  | lastTick (hp : w.phase = .serving) (hq : q.items = []) (he : ended = true) :
    Calls now ended q w .tick { w with busy := true, phase := .lastTick } q
  | stop (hp : w.phase = .lastTick) :
    Calls now ended q w .stop { w with busy := true, phase := .stopping } q

theorem calls_of_next? {now : Instant} {ended : Bool} {q q' : Queue α} {w w' : Worker}
    {cb : Callback α} (h : w.next? now ended q = some (cb, w', q')) :
    w.Calls now ended q cb w' q' := by
  unfold next? at h
  split at h
  · rename_i hp
    unfold Queue.pop? at h
    rcases hq : q.items with _ | ⟨a, rest⟩ <;> simp only [hq] at h
    · split at h
      · obtain ⟨rfl, rfl, rfl⟩ := by simpa using h
        exact .lastTick hp hq ‹_›
      · split at h
        · obtain ⟨rfl, rfl, rfl⟩ := by simpa using h
          exact .tick hp
        · simp at h
    · obtain ⟨rfl, rfl, rfl⟩ := by simpa using h
      exact .input hp hq
  · obtain ⟨rfl, rfl, rfl⟩ := by simpa using h
    exact .stop ‹_›
  · simp at h

/-- An idle worker takes a tick that is due, whatever is queued. -/
def tickEarly? (now : Instant) (w : Worker) : Option Worker :=
  if w.busy = false ∧ w.phase = .serving ∧ w.nextTick ≤ now then
    some { w with busy := true, nextTick := w.tickAfter now }
  else none

theorem calls_of_tickEarly? {now : Instant} {ended : Bool} {q : Queue α} {w w' : Worker}
    (h : w.tickEarly? now = some w') : w.busy = false ∧ w.Calls now ended q .tick w' q := by
  unfold tickEarly? at h
  split at h
  · rename_i hw
    obtain rfl := Option.some.inj h
    exact ⟨hw.1, .tick hw.2.1⟩
  · simp at h

end Worker

/-! ## Members -/

namespace Member

/-- A member in a callback goes on. -/
inductive Acts (now : Instant) (x : Place) : Place → Prop where
  | finish (ha : x.member.processor.agenda = []) :
    Acts now x { x with member.worker := x.member.worker.finish }
  | crash {l : List Task} {message : String} (ha : x.member.processor.agenda = .crash :: l) :
    Acts now x { x with member.worker := x.member.worker.fail message }
  | ask {c : Chunk} {l : List Task} (ha : x.member.processor.agenda = .offer c :: l)
      (ho : x.output.queue.isOpen = true) :
    Acts now x { x with member.processor := x.member.processor.asking c }
  | refuse {c : Chunk} {l : List Task} (ha : x.member.processor.agenda = .offer c :: l) :
    Acts now x { x with
      member.processor := x.member.processor.handedOver
      books := x.books.count Counters.chunkLost }
  | give {c : Chunk} {l : List Task} (ha : x.member.processor.agenda = .sending c :: l)
      (hr : x.output.queue.isRead = true) :
    Acts now x { x with
      member.processor := x.member.processor.handedOver
      output := { x.output with queue := x.output.queue.push c }
      books := x.books.count (Counters.forwarded c.data.size) }
  | giveUp {c : Chunk} {l : List Task} {timedOut : Bool}
      (ha : x.member.processor.agenda = .sending c :: l) :
    Acts now x { x with
      member.processor := x.member.processor.handedOver
      books := x.books.loseChunk timedOut }
  | task {p : Processor} {s : Sequencer} {b : Books}
      (hs : x.member.processor.Step now x.sequencer x.books p s b) :
    Acts now x { x with member.processor := p, sequencer := s, books := b }

theorem acts_busyAct (now : Instant) (x : Place) : Acts now x (busyAct now x) := by
  have hrest (hl : x.member.processor.line? = none) : Acts now x x := .task (.rest hl)
  have htask := Acts.task (Processor.step_act now x.member.processor x.sequencer x.books)
  rcases ha : x.member.processor.agenda with _ | ⟨t, l⟩
  · simp only [busyAct, ha]
    exact .finish ha
  · cases t
    case crash =>
      simp only [busyAct, ha]
      exact .crash ha
    case offer c =>
      simp only [busyAct, ha]
      split
      · exact .ask ha ‹_›
      · exact .refuse ha
    case sending c =>
      simp only [busyAct, ha, Output.trySend, Queue.trySend]
      by_cases hr : x.output.queue.isRead = true
      · by_cases hroom : x.output.queue.hasRoom = true
        · simp only [hr, hroom, Bool.not_true, Bool.false_eq_true, ↓reduceIte]
          exact .give ha hr
        · by_cases hd : x.member.processor.deadline ≤ now
          · simp only [hr, hroom, hd, Bool.not_true, Bool.false_eq_true, ↓reduceIte]
            exact .giveUp ha
          · simp only [hr, hroom, hd, Bool.not_true, Bool.false_eq_true, ↓reduceIte]
            exact hrest (by simp [Processor.line?, ha])
      · simp only [hr, Bool.not_false, ↓reduceIte]
        exact .giveUp ha
    all_goals
      simp only [busyAct, ha]
      exact htask

end Member

/-! ## Pipelines -/

namespace Destination

/-- An offer is taken, refused, or leads to a claim. -/
theorem offer_cases (now deadline : Instant) (i : Nat) (t : TaggedChunk) (d : Destination) :
    d.offer now deadline i t = (.taken, { d.withdraw i with queue := d.queue.push t })
      ∨ (∃ reason, d.offer now deadline i t = (.refused reason, d.withdraw i))
      ∨ d.offer now deadline i t = (.waiting, d.claim i) := by
  unfold offer
  split
  · exact .inr (.inl ⟨_, rfl⟩)
  · split
    · exact .inl rfl
    · split
      · exact .inr (.inl ⟨_, rfl⟩)
      · exact .inr (.inr rfl)

theorem queue_claim (i : Nat) (d : Destination) : (d.claim i).queue = d.queue := by
  unfold claim
  split <;> rfl

end Destination

/-- Whether a batch was taken or lost, the agenda goes on behind it. -/
theorem Distributor.next_of_offer {now : Instant} {d : Distributor} {s : Sequencer}
    {q : Option (Queue OrderedBatch)} {b : OrderedBatch} {books : Books} {y : Distributor.Offered}
    (hy : d.offer now q b s books = some y) : y.distributor = d.next := by
  unfold Distributor.offer at hy
  split at hy
  · cases hy
    rfl
  · split at hy <;> cases hy <;> rfl

/-- A batch from the input is under no ordering constraint. -/
def Callback.unordered : Callback Batch → Callback OrderedBatch
  | .input b deadline => .input (.unordered b) deadline
  | .tick => .tick
  | .stop => .stop

namespace Pipeline

/-- The pipeline behind a distributor in this state. -/
def withTeam (w : Worker) (d : Distributor) (cs : List Child) (p : Pipeline) : Pipeline :=
  { p with crew := some (.team w d cs) }

/-- One step of one party of the pipeline with number `i`. -/
inductive Step (i : Nat) (p : Pipeline) (g : Ground) : Role → Pipeline → Ground → Prop where
  -- the supervisor
  | collect (hs : p.status = .starting) (hb : g.blueprint.collects = true) :
    Step i p g .supervisor { p with status := .collecting } g
  | noOutput (hs : p.status = .starting) : Step i p g .supervisor { p with status := .draining } g
  | noStages {o : Output} {capacity : Nat} (hs : p.status = .starting)
      (ho : Output.start p.tag p.id capacity g.blueprint.worker g.now g.destination = .ok o) :
    Step i p g .supervisor { p with status := .draining, output := some o } g
  | launch {o : Output} {capacity : Nat} {stages : Stages} (hs : p.status = .starting)
      (ho : Output.start p.tag p.id capacity g.blueprint.worker g.now g.destination = .ok o)
      (hst : g.blueprint.stages = some stages) :
    Step i p g .supervisor { p with
      status := .running
      output := some o
      crew := some (.start g.blueprint stages p.tag g.now) } g
  | report {b : Batch} {rest : List Batch} (hs : p.status = .collecting)
      (hq : p.input.items = b :: rest) :
    Step i p g .supervisor { p with input.items := rest }
      { g with collected := g.collected ++ [⟨p.tag, p.id, p.keySet, b⟩] }
  | reported (hs : p.status = .collecting) (hq : p.input.items = [] ∧ p.input.isOpen = false) :
    Step i p g .supervisor { p with status := .stopped } g
  | drain {b : Batch} {rest : List Batch} (hs : p.status = .draining)
      (hq : p.input.items = b :: rest) :
    Step i p g .supervisor { p with input.items := rest } { g with books := g.books.lose b }
  | drained (hs : p.status = .draining) (hq : p.input.items = [] ∧ p.input.isOpen = false) :
    Step i p g .supervisor p.windDown g
  | crewGone (hs : p.status = .running) (hc : p.crew.all (·.root.isStopped) = true) :
    Step i p g .supervisor p.windDown g
  | outputGone (hs : p.status = .stopping) (ho : p.output.all Output.isDrained = true) :
    Step i p g .supervisor { p with status := .stopped } g
  -- the consumer of the output
  | deliver {o : Output} {c : Chunk} {deadline : Instant} (ho : p.output = some o)
      (hh : o.held = some (c, deadline)) :
    Step i p g .consumer { p with output := some o.finish }
      { g with destination := { g.destination.withdraw i with
          queue := g.destination.queue.push ⟨o.tag, o.id, c⟩ } }
  | giveUp {o : Output} {c : Chunk} {deadline : Instant} {timedOut : Bool}
      (ho : p.output = some o) (hh : o.held = some (c, deadline)) :
    Step i p g .consumer { p with output := some o.finish }
      { g with destination := g.destination.withdraw i, books := g.books.loseChunk timedOut }
  | claim : Step i p g .consumer p { g with destination := g.destination.claim i }
  | consumed {o : Output} (ho : p.output = some o) (hh : o.held = none)
      (hb : o.consumer.busy = true) : Step i p g .consumer { p with output := some o.finish } g
  | consume {o : Output} {w : Worker} {c : Chunk} {deadline : Instant} {q : Queue Chunk}
      (ho : p.output = some o) (hh : o.held = none) (hb : o.consumer.busy = false)
      (hc : o.consumer.Calls g.now (o.isEnded p.isSending) o.queue (.input c deadline) w q) :
    Step i p g .consumer
      { p with output := some { o with consumer := w, queue := q, held := some (c, deadline) } } g
  | consumerCall {o : Output} {w : Worker} {cb : Callback Chunk} {q : Queue Chunk}
      (ho : p.output = some o) (hh : o.held = none) (hb : o.consumer.busy = false)
      (hc : o.consumer.Calls g.now (o.isEnded p.isSending) o.queue cb w q)
      (hcb : ∀ c deadline, cb ≠ .input c deadline) :
    Step i p g .consumer { p with output := some { o with consumer := w, queue := q } } g
  -- a single member
  | member {m : Member} {o : Output} {x : Member.Place} (hc : p.crew = some (.alone m))
      (ho : p.output = some o) (hb : m.worker.busy = true)
      (hx : Member.Acts g.now ⟨m, p.sequencer, o, g.books⟩ x) :
    Step i p g .root
      { p with
        crew := some (.alone x.member)
        input := x.member.worker.leave p.input
        sequencer := x.sequencer
        output := some x.output }
      { g with books := x.books }
  | memberCall {m : Member} {cb : Callback Batch} {w : Worker} {q : Queue Batch}
      (hc : p.crew = some (.alone m)) (hb : m.worker.busy = false)
      (hcb : m.worker.Calls g.now (!p.input.isOpen) p.input cb w q) :
    Step i p g .root { p with input := q, crew := some (.alone (m.begin g.now cb.unordered w)) } g
  -- a distributor
  | distributed {w : Worker} {d : Distributor} {cs : List Child}
      (hc : p.crew = some (.team w d cs)) (hb : w.busy = true) (ha : d.agenda = []) :
    Step i p g .root { p.withTeam w.finish d cs with input := w.finish.leave p.input } g
  | sent {w : Worker} {d : Distributor} {cs : List Child} {b : OrderedBatch}
      {l : List Delivery} {c : Child} (hc : p.crew = some (.team w d cs)) (hb : w.busy = true)
      (ha : d.agenda = .offer b :: l) (hd : d.children ≠ 0) (hq : cs[d.current]? = some c)
      (hr : c.queue.isRead = true) (hroom : c.queue.hasRoom = true) :
    Step i p g .root (p.withTeam w d.next (cs.set d.current { c with queue := c.queue.push b })) g
  | unsent {w : Worker} {d : Distributor} {cs : List Child} {b : OrderedBatch}
      {l : List Delivery} {timedOut : Bool} (hc : p.crew = some (.team w d cs))
      (hb : w.busy = true) (ha : d.agenda = .offer b :: l) :
    Step i p g .root
      { p.withTeam w d.next cs with sequencer := b.run.elim p.sequencer p.sequencer.release }
      { g with books := g.books.loseSend timedOut b.records }
  | rotate {w : Worker} {d : Distributor} {cs : List Child} {l : List Delivery}
      (hc : p.crew = some (.team w d cs)) (hb : w.busy = true) (ha : d.agenda = .rotate :: l) :
    Step i p g .root (p.withTeam w d.rotate cs) g
  | letGo {w : Worker} {d : Distributor} {cs : List Child} {l : List Delivery}
      (hc : p.crew = some (.team w d cs)) (hb : w.busy = true)
      (ha : d.agenda = .closeChildren :: l) :
    Step i p g .root (p.withTeam w d.letGo (cs.map fun c => { c with queue := c.queue.close })) g
  | awaited {w : Worker} {d : Distributor} {cs : List Child} {l : List Delivery}
      (hc : p.crew = some (.team w d cs)) (hb : w.busy = true)
      (ha : d.agenda = .awaitChildren :: l) (hs : cs.all (·.member.worker.isStopped) = true) :
    Step i p g .root (p.withTeam w d.next cs) g
  | receive {w w' : Worker} {d : Distributor} {cs : List Child} {b : Batch} {deadline : Instant}
      {q : Queue Batch} (hc : p.crew = some (.team w d cs)) (hb : w.busy = false)
      (hcb : w.Calls g.now (!p.input.isOpen) p.input (.input b deadline) w' q) :
    Step i p g .root
      { p.withTeam w' (d.receive g.now deadline b p.sequencer).1 cs with
        input := q
        sequencer := (d.receive g.now deadline b p.sequencer).2 } g
  | tick {w w' : Worker} {d : Distributor} {cs : List Child} {q : Queue Batch}
      (hc : p.crew = some (.team w d cs)) (hb : w.busy = false)
      (hcb : w.Calls g.now (!p.input.isOpen) p.input .tick w' q) :
    Step i p g .root { p.withTeam w' (d.tick g.now) cs with input := q } g
  | stop {w w' : Worker} {d : Distributor} {cs : List Child} {q : Queue Batch}
      (hc : p.crew = some (.team w d cs)) (hb : w.busy = false)
      (hcb : w.Calls g.now (!p.input.isOpen) p.input .stop w' q) :
    Step i p g .root { p.withTeam w' (d.stop g.now) cs with input := q } g
  -- a member behind the distributor
  | child {w : Worker} {d : Distributor} {cs : List Child} {k : Nat} {c : Child} {o : Output}
      {x : Member.Place} (hc : p.crew = some (.team w d cs)) (hk : cs[k]? = some c)
      (ho : p.output = some o) (hb : c.member.worker.busy = true)
      (hx : Member.Acts g.now ⟨c.member, p.sequencer, o, g.books⟩ x) :
    Step i p g (.child k)
      { p.withTeam w d (cs.set k ⟨x.member.worker.leave c.queue, x.member⟩) with
        sequencer := x.sequencer
        output := some x.output }
      { g with books := x.books }
  | childCall {w w' : Worker} {d : Distributor} {cs : List Child} {k : Nat} {c : Child}
      {cb : Callback OrderedBatch} {q : Queue OrderedBatch} (hc : p.crew = some (.team w d cs))
      (hk : cs[k]? = some c) (hb : c.member.worker.busy = false)
      (hcb : c.member.worker.Calls g.now (!c.queue.isOpen) c.queue cb w' q) :
    Step i p g (.child k) (p.withTeam w d (cs.set k ⟨q, c.member.begin g.now cb w'⟩)) g
  | rest {role : Role} : Step i p g role p g

variable {i : Nat} {p : Pipeline} {g : Ground}

theorem step_start (hs : p.status = .starting) : Step i p g .supervisor (p.start g) g := by
  unfold Pipeline.start
  split
  · exact .collect hs ‹_›
  · split
    · exact .noOutput hs
    · split
      · exact .noOutput hs
      · split
        · exact .noStages hs ‹_›
        · exact .launch hs ‹_› ‹_›

theorem isFinished_iff {α : Type} {q : Queue α} :
    q.isFinished = true ↔ q.items = [] ∧ q.isOpen = false := by
  simp [Queue.isFinished]

theorem step_supervise (i : Nat) (p : Pipeline) (g : Ground) :
    Step i p g .supervisor (p.supervise g).1 (p.supervise g).2 := by
  unfold supervise
  split
  · exact step_start ‹_›
  · rename_i hs
    unfold Queue.pop?
    split
    · rename_i b q hq
      split at hq
      · simp at hq
      · obtain ⟨rfl, rfl⟩ := by simpa using hq
        exact .report hs ‹_›
    · split
      · exact .reported hs (isFinished_iff.1 ‹_›)
      · exact .rest
  · rename_i hs
    unfold Queue.pop?
    split
    · rename_i b q hq
      split at hq
      · simp at hq
      · obtain ⟨rfl, rfl⟩ := by simpa using hq
        exact .drain hs ‹_›
    · split
      · exact .drained hs (isFinished_iff.1 ‹_›)
      · exact .rest
  · split
    · exact .crewGone ‹_› ‹_›
    · exact .rest
  · split
    · exact .outputGone ‹_› ‹_›
    · exact .rest
  · exact .rest

theorem step_consume {o : Output} (ho : p.output = some o) :
    Step i p g .consumer (p.act i .consumer g).1 (p.act i .consumer g).2 := by
  obtain ⟨tag, id, queue, consumer, held⟩ := o
  simp only [act, ho, Output.consume]
  rcases held with _ | ⟨c, deadline⟩
  · simp only
    split
    · exact .consumed ho rfl ‹_›
    · rename_i hb
      have hb := Bool.eq_false_iff.2 hb
      split
      · exact .consume ho rfl hb (Worker.calls_of_next? ‹_›)
      · rename_i cb w q hne hcall
        refine .consumerCall ho rfl hb (Worker.calls_of_next? hcall) fun c deadline hcb => ?_
        subst hcb
        exact hne c deadline rfl
      · have hp : { p with output := some ⟨tag, id, queue, consumer, none⟩ } = p := by
          rw [← ho]
        simp only [hp]
        exact .rest
  · rcases g.destination.offer_cases g.now deadline i ⟨tag, id, c⟩ with h | ⟨reason, h⟩ | h
    · simp only [h]
      exact .deliver ho rfl
    · simp only [h]
      exact .giveUp ho rfl
    · have hp : { p with output := some ⟨tag, id, queue, consumer, some (c, deadline)⟩ } = p := by
        rw [← ho]
      simp only [h, hp]
      exact .claim

theorem step_memberAct {m : Member} {o : Output} (ho : p.output = some o) :
    ∃ x, Member.Acts g.now ⟨m, p.sequencer, o, g.books⟩ x
      ∧ p.memberAct m g = (x.member, { p with sequencer := x.sequencer, output := some x.output },
        { g with books := x.books }) := by
  refine ⟨_, Member.acts_busyAct _ _, ?_⟩
  simp only [memberAct, ho]

theorem step_processInput {m : Member} (hc : p.crew = some (.alone m)) (ho : p.output ≠ none) :
    Step i p g .root (p.processInput m g).1 (p.processInput m g).2 := by
  obtain ⟨o, ho⟩ := Option.ne_none_iff_exists'.1 ho
  unfold processInput
  split
  · obtain ⟨x, hx, h⟩ := step_memberAct (m := m) (g := g) ho
    simp only [h]
    exact .member hc ho ‹_› hx
  · have hb := Bool.eq_false_iff.2 ‹¬m.worker.busy = true›
    split
    · exact .memberCall hc hb (Worker.calls_of_next? ‹_›)
    · exact .memberCall hc hb (Worker.calls_of_next? ‹_›)
    · exact .memberCall hc hb (Worker.calls_of_next? ‹_›)
    · exact .rest

theorem step_processQueue {w : Worker} {d : Distributor} {cs : List Child} {k : Nat} {c : Child}
    (hc : p.crew = some (.team w d cs)) (hk : cs[k]? = some c) (ho : p.output ≠ none) :
    Step i p g (.child k) (p.act i (.child k) g).1 (p.act i (.child k) g).2 := by
  obtain ⟨o, ho⟩ := Option.ne_none_iff_exists'.1 ho
  simp only [act, hc, hk, processQueue]
  split
  · obtain ⟨x, hx, h⟩ := step_memberAct (m := c.member) (g := g) ho
    simp only [h]
    exact .child hc hk ho ‹_› hx
  · have hb := Bool.eq_false_iff.2 ‹¬c.member.worker.busy = true›
    split
    · exact .childCall hc hk hb (Worker.calls_of_next? ‹_›)
    · have hp : { p with crew := some (.team w d (cs.set k c)) } = p := by
        obtain ⟨hlt, rfl⟩ := List.getElem?_eq_some_iff.1 hk
        rw [List.set_getElem_self, ← hc]
      simp only [hp]
      exact .rest

theorem step_offer {w : Worker} {d : Distributor} {cs : List Child} {b : OrderedBatch}
    {l : List Delivery} (hc : p.crew = some (.team w d cs)) (hb : w.busy = true)
    (ha : d.agenda = .offer b :: l) :
    Step i p g .root (p.distribute w d cs g).1 (p.distribute w d cs g).2 := by
  simp only [distribute, hb, ha, ↓reduceIte]
  rcases hq : currentQueue d cs with _ | q
  · simp only [Distributor.offer]
    exact .unsent hc hb ha
  · have hd : d.children ≠ 0 := by
      intro h0
      simp [currentQueue, h0] at hq
    obtain ⟨c, hk, rfl⟩ : ∃ c, cs[d.current]? = some c ∧ c.queue = q := by
      simpa [currentQueue, hd] using hq
    obtain ⟨pre, post, rfl, hpre⟩ := exists_seat hk
    have hmod : ∀ f, (pre ++ c :: post).modify d.current f = pre ++ f c :: post := fun f =>
      hpre ▸ modify_seat pre post c f
    simp only [Distributor.offer, Queue.trySend]
    by_cases hr : c.queue.isRead = true
    · by_cases hroom : c.queue.hasRoom = true
      · simp only [hr, hroom, Bool.not_true, Bool.false_eq_true, ↓reduceIte, hmod]
        have hset := hpre ▸ set_seat pre post c { c with queue := c.queue.push b }
        rw [← hset]
        exact .sent hc hb ha hd hk hr hroom
      · by_cases hdl : d.deadline ≤ g.now
        · simp only [hr, hroom, hdl, Bool.not_true, Bool.false_eq_true, ↓reduceIte, hmod]
          exact .unsent hc hb ha
        · simp only [hr, hroom, hdl, Bool.not_true, Bool.false_eq_true, ↓reduceIte]
          exact .rest
    · simp only [hr, Bool.not_false, ↓reduceIte, hmod]
      exact .unsent hc hb ha

theorem step_distribute {w : Worker} {d : Distributor} {cs : List Child}
    (hc : p.crew = some (.team w d cs)) :
    Step i p g .root (p.distribute w d cs g).1 (p.distribute w d cs g).2 := by
  by_cases hb : w.busy = true
  · rcases ha : d.agenda with _ | ⟨b | _ | _ | _, l⟩
    · simp only [distribute, hb, ha, ↓reduceIte]
      exact .distributed hc hb ha
    · exact step_offer hc hb ha
    · simp only [distribute, hb, ha, ↓reduceIte]
      exact .rotate hc hb ha
    · simp only [distribute, hb, ha, ↓reduceIte]
      exact .letGo hc hb ha
    · simp only [distribute, hb, ha, ↓reduceIte]
      split
      · exact .awaited hc hb ha ‹_›
      · exact .rest
  · simp only [distribute, hb, Bool.false_eq_true, ↓reduceIte]
    have hb := Bool.eq_false_iff.2 ‹¬w.busy = true›
    split
    · exact .receive hc hb (Worker.calls_of_next? ‹_›)
    · exact .tick hc hb (Worker.calls_of_next? ‹_›)
    · exact .stop hc hb (Worker.calls_of_next? ‹_›)
    · exact .rest

/-- Whoever acts, it is one of the steps listed. -/
theorem step_act (h : p.crew ≠ none → p.output ≠ none) (role : Role) :
    Step i p g role (p.act i role g).1 (p.act i role g).2 := by
  rcases hc : p.crew with _ | (m | ⟨w, d, cs⟩)
  · cases role with
    | supervisor => exact step_supervise i p g
    | consumer =>
      rcases ho : p.output with _ | o
      · simp only [act, ho]
        exact .rest
      · exact step_consume ho
    | child k => simpa only [act, hc] using .rest
    | root => simpa only [act, hc] using .rest
  all_goals have ho := h (by simp [hc])
  · cases role with
    | supervisor => exact step_supervise i p g
    | consumer => exact step_consume (Option.ne_none_iff_exists'.1 ho).choose_spec
    | child k => simpa only [act, hc] using .rest
    | root =>
      simp only [act, hc]
      exact step_processInput hc ho
  · cases role with
    | supervisor => exact step_supervise i p g
    | consumer => exact step_consume (Option.ne_none_iff_exists'.1 ho).choose_spec
    | child k =>
      rcases hk : cs[k]? with _ | c
      · simpa only [act, hc, hk] using .rest
      · exact step_processQueue hc hk ho
    | root =>
      simp only [act, hc]
      exact step_distribute hc

/-- A party whose tick is due takes it before what is queued for it. -/
def tickEarly (role : Role) (p : Pipeline) (g : Ground) : Pipeline :=
  match role, p.crew with
  | .supervisor, _ => p
  | .consumer, _ =>
    match p.output with
    | none => p
    | some o =>
      if o.held.isSome then p
      else
        match o.consumer.tickEarly? g.now with
        | none => p
        | some w => { p with output := some { o with consumer := w } }
  | .root, some (.alone m) =>
    match m.worker.tickEarly? g.now with
    | none => p
    | some w => { p with crew := some (.alone (m.begin g.now .tick w)) }
  | .root, some (.team w d cs) =>
    match w.tickEarly? g.now with
    | none => p
    | some w => p.withTeam w (d.tick g.now) cs
  | .child k, some (.team w d cs) =>
    match cs[k]? with
    | none => p
    | some c =>
      match c.member.worker.tickEarly? g.now with
      | none => p
      | some w' => p.withTeam w d (cs.set k { c with member := c.member.begin g.now .tick w' })
  | _, _ => p

theorem step_tickEarly (role : Role) : Step i p g role (p.tickEarly role g) g := by
  unfold tickEarly
  split
  · exact .rest
  · split
    · exact .rest
    · rename_i o ho
      split
      · exact .rest
      · rename_i hh
        split
        · exact .rest
        · obtain ⟨hb, hcall⟩ := Worker.calls_of_tickEarly? ‹_›
          exact .consumerCall ho (by simpa using hh) hb hcall (by simp)
  · rename_i m hc
    split
    · exact .rest
    · obtain ⟨hb, hcall⟩ := Worker.calls_of_tickEarly? ‹_›
      exact .memberCall hc hb hcall
  · rename_i w d cs hc
    split
    · exact .rest
    · obtain ⟨hb, hcall⟩ := Worker.calls_of_tickEarly? ‹_›
      exact .tick hc hb hcall
  · rename_i w d cs hc
    split
    · exact .rest
    · rename_i c hk
      split
      · exact .rest
      · obtain ⟨hb, hcall⟩ := Worker.calls_of_tickEarly? ‹_›
        exact .childCall hc hk hb hcall
  · exact .rest

end Pipeline

end LogPipeline
