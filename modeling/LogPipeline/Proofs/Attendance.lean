import LogPipeline.Proofs.Fittings

/-!
# Queues that are received from, and sends that have time

As long as a worker has not stopped it receives from its queue, and while the clock stands still the
callback that it is in has time left for its sends. Every step keeps both
(`Pipeline.Sound.attended_step`), as all deadlines lie ahead when they are set.
-/

namespace LogPipeline

namespace Worker

variable {α : Type} {now t : Instant} {ended : Bool} {q q' : Queue α} {w w' : Worker}
  {cb : Callback α}

/-- The worker receives from its queue until it has stopped. -/
def Reads (q : Queue α) (w : Worker) : Prop := w.isStopped = false → q.isRead = true

theorem Reads.leave (h : w.Reads q) : w.Reads (w.leave q) := by
  intro hs
  simp only [Worker.leave, hs, Bool.false_eq_true, ↓reduceIte]
  exact h hs

theorem Reads.finish (h : w.Reads q) : w.finish.Reads (w.finish.leave q) := by
  refine Reads.leave fun hs => h ?_
  unfold Worker.finish Worker.isStopped at hs
  unfold Worker.isStopped
  cases hp : w.phase <;> simp_all

theorem Reads.fail (message : String) : (w.fail message).Reads q := fun hs => by
  simp [Worker.fail, Worker.isStopped] at hs

theorem Reads.call (h : w.Reads q) (hc : w.Calls now ended q cb w' q') : w'.Reads q' := by
  cases hc with
  | input hp hq => exact fun _ => h (by simp [isStopped, hp])
  | tick hp => exact fun _ => h (by simp [isStopped, hp])
  | lastTick hp hq he => exact fun _ => h (by simp [isStopped, hp])
  | stop hp => exact fun _ => h (by simp [isStopped, hp])

/-- A queue that is open is received from. -/
theorem Reads.isRead (h : w.Reads q) (ht : w.Tends q) (ho : q.isOpen = true) : q.isRead = true := by
  refine h (Bool.eq_false_iff.2 fun hs => ?_)
  have hclosed := (ht.emptied (by simp [ht.stopped hs])).1
  simp [ho] at hclosed

/-- An item comes with the deadline that the settings ask for. -/
theorem Calls.deadline {a : α} (hc : w.Calls now ended q (.input a t) w' q') :
    t = now + w.settings.sendTimeout := by
  cases hc
  rfl

theorem busy_spawn (settings : WorkerSettings) (now : Instant) :
    (spawn settings now).busy = false := by
  unfold spawn
  split <;> rfl

end Worker

theorem Processor.deadline_step {now : Instant} {p p' : Processor} {s s' : Sequencer}
    {b b' : Books} (hs : p.Step now s b p' s' b') : p'.deadline = p.deadline := by
  cases hs <;> rfl

theorem Callback.exists_of_unordered {cb : Callback Batch} {b : OrderedBatch} {t : Instant}
    (h : cb.unordered = .input b t) : ∃ a, cb = .input a t := by
  cases cb with
  | input a t' =>
    obtain ⟨-, rfl⟩ := Callback.input.inj h
    exact ⟨a, rfl⟩
  | tick => simp [unordered] at h
  | stop => simp [unordered] at h

namespace Member

variable {α : Type} {now : Instant} {q q' : Queue α} {m : Member} {bp : Blueprint}

/-- The member receives from its queue, and its callback has time left. -/
structure Attended (now : Instant) (q : Queue α) (m : Member) : Prop where
  reads : m.worker.Reads q
  prompt : m.worker.busy = true → now < m.processor.deadline

theorem Attended.acts {x x' : Place} (h : x.member.Attended now q)
    (hb : x.member.worker.busy = true) (hx : Acts now x x') :
    x'.member.Attended now (x'.member.worker.leave q) := by
  have hp := h.prompt hb
  cases hx with
  | finish ha => exact ⟨h.reads.finish, fun hf => by simp [Worker.finish] at hf⟩
  | crash ha => exact ⟨.fail _, fun hf => by simp [Worker.fail] at hf⟩
  | task hs => exact ⟨h.reads.leave, fun _ => (Processor.deadline_step hs).symm ▸ hp⟩
  | _ => exact ⟨h.reads.leave, fun _ => hp⟩

/-- A callback begins with time for its sends. -/
theorem Fitted.lt_deadline (h : m.Fitted bp) (hs : 0 < bp.settings.sendTimeout)
    {cb : Callback OrderedBatch} (hcb : ∀ b t, cb = .input b t → now < t) (w : Worker) :
    now < (m.begin now cb w).processor.deadline := by
  have ht : now < now + m.processor.sendTimeout :=
    Nat.lt_add_of_pos_right (h.timeout.symm ▸ hs)
  cases cb with
  | input b t => exact hcb b t rfl
  | tick => exact ht
  | stop =>
    show now < (m.processor.stop now).deadline
    rw [Processor.deadline_stop]
    exact ht

theorem Attended.begin (h : m.Attended now q) (hf : m.Fitted bp) (hs : 0 < bp.settings.sendTimeout)
    {ended : Bool} {cb₀ : Callback α} {cb : Callback OrderedBatch} {w : Worker}
    (hc : m.worker.Calls now ended q cb₀ w q')
    (hcb : ∀ b t, cb = .input b t → ∃ a, cb₀ = .input a t) :
    (m.begin now cb w).Attended now q' := by
  refine ⟨?_, fun _ => hf.lt_deadline hs (fun b t hb => ?_) w⟩
  · have hw : (m.begin now cb w).worker = w := by cases cb <;> rfl
    exact hw.symm ▸ h.reads.call hc
  · obtain ⟨a, rfl⟩ := hcb b t hb
    rw [hc.deadline, hf.worker]
    exact Nat.lt_add_of_pos_right hs

end Member

/-- The workers receive from their queues, and their callbacks have time left. -/
def Crew.Attended (now : Instant) (input : Queue Batch) : Crew → Prop
  | .alone m => m.Attended now input
  | .team w d cs =>
    w.Reads input ∧ (w.busy = true → now < d.deadline)
      ∧ ∀ c ∈ cs, c.member.Attended now c.queue

theorem Crew.Attended.congr {now : Instant} {q q' : Queue Batch} {c : Crew} (h : c.Attended now q)
    (hq : q'.isRead = q.isRead) : c.Attended now q' := by
  cases c with
  | alone m =>
    have hm : m.Attended now q := h
    exact ⟨fun hs => hq ▸ hm.reads hs, hm.prompt⟩
  | team w d cs =>
    obtain ⟨h1, h2, h3⟩ := h
    exact ⟨fun hs => hq ▸ h1 hs, h2, h3⟩

/-- Every queue of the pipeline is received from, and every callback has time left. -/
structure Pipeline.Attended (now : Instant) (p : Pipeline) : Prop where
  input : p.crew = none → p.input.isRead = true
  crew : ∀ c, p.crew = some c → c.Attended now p.input
  output : ∀ o, p.output = some o → o.consumer.Reads o.queue
  room : 0 < p.input.capacity

theorem Crew.attended_start {bp : Blueprint} {stages : Stages} {tag : String} {now : Instant}
    {input : Queue Batch} (hi : input.isRead = true) :
    (Crew.start bp stages tag now).Attended now input := by
  have hidle : ∀ {P : Prop}, (Worker.spawn bp.worker now).busy = true → P := by
    intro P hb
    simp [Worker.busy_spawn] at hb
  unfold Crew.start
  split
  · exact ⟨fun _ => hi, hidle⟩
  · refine ⟨fun _ => hi, hidle, fun c hc => ?_⟩
    obtain ⟨i, -, rfl⟩ := List.mem_map.1 hc
    exact ⟨fun _ => rfl, hidle⟩

theorem Output.reads_start {tag : String} {id capacity : Nat} {settings : WorkerSettings}
    {now : Instant} {destination : Destination} {o : Output}
    (h : Output.start tag id capacity settings now destination = .ok o) :
    o.consumer.Reads o.queue := by
  unfold Output.start at h
  split at h
  · simp at h
  · obtain rfl := Except.ok.inj h
    exact Worker.Reads.leave fun _ => rfl

theorem Distributor.deadline_receive (now deadline : Instant) (b : Batch) (d : Distributor)
    (s : Sequencer) : (d.receive now deadline b s).1.deadline = deadline := by
  unfold Distributor.receive
  split
  · rfl
  · dsimp only
    split <;> rfl

theorem Distributor.deadline_tick (now : Instant) (d : Distributor) :
    (d.tick now).deadline = now + d.sendTimeout := by
  unfold Distributor.tick
  dsimp only
  split <;> rfl

namespace Pipeline

variable {i : Nat} {role : Role} {p p' : Pipeline} {g g' : Ground} {now : Instant}

theorem Attended.windDown (h : p.Attended now) : p.windDown.Attended now := by
  unfold Pipeline.windDown
  split
  · exact ⟨h.input, h.crew, h.output, h.room⟩
  · rename_i o ho
    refine ⟨h.input, h.crew, fun x hx => ?_, h.room⟩
    obtain rfl := Option.some.inj hx
    exact h.output o ho

theorem Attended.of_output (h : p.Attended now) {o : Output} (hp : p'.output = some o)
    (hc : p'.crew = p.crew) (hi : p'.input = p.input) (ho : o.consumer.Reads o.queue) :
    p'.Attended now :=
  ⟨fun hn => hi ▸ h.input (hc ▸ hn), fun c hx => hi ▸ h.crew c (hc ▸ hx),
    fun _ hx => Option.some.inj (hp.symm.trans hx) ▸ ho, hi ▸ h.room⟩

theorem Attended.of_crew (h : p.Attended now) {c : Crew} (hc : p'.crew = some c)
    (hcrew : c.Attended now p'.input) (ho : ∀ o, p'.output = some o → o.consumer.Reads o.queue)
    (hi : p'.input.capacity = p.input.capacity) : p'.Attended now :=
  ⟨fun hn => by simp [hc] at hn, fun _ hx => Option.some.inj (hc.symm.trans hx) ▸ hcrew, ho,
    hi ▸ h.room⟩

theorem reads_acts {m : Member} {o : Output} {s : Sequencer} {b : Books} {x : Member.Place}
    (ho : o.consumer.Reads o.queue) (hx : Member.Acts now ⟨m, s, o, b⟩ x) :
    x.output.consumer.Reads x.output.queue := by
  cases hx <;> exact ho

/-- Every step leaves the queues with a receiver and the callbacks with time. -/
theorem Sound.attended_step (hp : p.Sound) (h : p.Attended g.now) (hf : p.Fitted g.blueprint)
    (hsend : 0 < g.blueprint.settings.sendTimeout) (hs : Step i p g role p' g') :
    p'.Attended g.now := by
  have hdeadline : ∀ n, n = g.blueprint.settings.sendTimeout → g.now < g.now + n := by
    intro n hn
    exact Nat.lt_add_of_pos_right (hn ▸ hsend)
  have hset : ∀ {cs : List Child} {k : Nat} {e : Child},
      (∀ c ∈ cs, c.member.Attended g.now c.queue) → e.member.Attended g.now e.queue →
      ∀ c ∈ cs.set k e, c.member.Attended g.now c.queue := by
    intro cs k e hcs he c hc
    rcases List.mem_or_eq_of_mem_set hc with hc | rfl
    · exact hcs c hc
    · exact he
  cases hs with
  | collect | noOutput | reported | outputGone => exact ⟨h.input, h.crew, h.output, h.room⟩
  | report | drain => exact ⟨h.input, fun c hc => (h.crew c hc).congr rfl, h.output, h.room⟩
  | noStages hst ho => exact h.of_output rfl rfl rfl (Output.reads_start ho)
  | launch hst ho hstages =>
    have hi := h.input (hp.crewless (.inl hst))
    refine ⟨by simp, fun c hc => ?_, fun o hx => ?_, h.room⟩
    · exact Option.some.inj hc ▸ Crew.attended_start hi
    · exact Option.some.inj hx ▸ Output.reads_start ho
  | drained | crewGone => exact h.windDown
  | deliver ho hh | giveUp ho hh | consumed ho hh =>
    exact h.of_output rfl rfl rfl (h.output _ ho).finish
  | claim | rest => exact h
  | consume ho hh hb hc | consumerCall ho hh hb hc =>
    exact h.of_output rfl rfl rfl ((h.output _ ho).call hc)
  | member hc ho hb hx =>
    have hm := Member.Attended.acts (x := ⟨_, p.sequencer, _, g.books⟩) (h.crew _ hc) hb hx
    exact h.of_crew rfl hm (fun _ hy => Option.some.inj hy ▸ reads_acts (h.output _ ho) hx)
      (Worker.capacity_leave _ _)
  | memberCall hc hb hcb =>
    have hm : Member.Attended _ _ _ := h.crew _ hc
    refine h.of_crew rfl (hm.begin (hf.crew _ hc) hsend hcb fun b t hbt => ?_) h.output hcb.fitted.2
    exact Callback.exists_of_unordered hbt
  | distributed hc hb ha =>
    obtain ⟨h1, h2, h3⟩ := h.crew _ hc
    exact h.of_crew rfl ⟨h1.finish, fun hf => by simp [Worker.finish] at hf, h3⟩ h.output
      (Worker.capacity_leave _ _)
  | sent hc hb ha hd hq hr hroom =>
    obtain ⟨h1, h2, h3⟩ := h.crew _ hc
    have hm := h3 _ (List.mem_of_getElem? hq)
    exact h.of_crew rfl ⟨h1, h2, hset h3 ⟨hm.reads, hm.prompt⟩⟩ h.output rfl
  | rotate hc | awaited hc | unsent hc =>
    obtain ⟨h1, h2, h3⟩ := h.crew _ hc
    exact h.of_crew rfl ⟨h1, h2, h3⟩ h.output rfl
  | letGo hc =>
    obtain ⟨h1, h2, h3⟩ := h.crew _ hc
    refine h.of_crew rfl ⟨h1, h2, fun c hmem => ?_⟩ h.output rfl
    obtain ⟨e, he, rfl⟩ := List.mem_map.1 hmem
    exact ⟨(h3 e he).reads, (h3 e he).prompt⟩
  | @receive w w' d cs b deadline q hc hb hcb =>
    obtain ⟨h1, h2, h3⟩ := h.crew _ hc
    refine h.of_crew rfl ⟨h1.call hcb, fun _ => ?_, h3⟩ h.output hcb.fitted.2
    rw [Distributor.deadline_receive, hcb.deadline, (hf.crew _ hc).1]
    exact hdeadline _ rfl
  | @tick w w' d cs q hc hb hcb =>
    obtain ⟨h1, h2, h3⟩ := h.crew _ hc
    refine h.of_crew rfl ⟨h1.call hcb, fun _ => ?_, h3⟩ h.output hcb.fitted.2
    rw [Distributor.deadline_tick]
    exact hdeadline _ (hf.crew _ hc).2.1
  | @stop w w' d cs q hc hb hcb =>
    obtain ⟨h1, h2, h3⟩ := h.crew _ hc
    exact h.of_crew rfl ⟨h1.call hcb, fun _ => hdeadline _ (hf.crew _ hc).2.1, h3⟩ h.output
      hcb.fitted.2
  | child hc hk ho hb hx =>
    obtain ⟨h1, h2, h3⟩ := h.crew _ hc
    have hm := h3 _ (List.mem_of_getElem? hk)
    refine h.of_crew rfl ⟨h1, h2, hset h3 ?_⟩
      (fun _ hy => Option.some.inj hy ▸ reads_acts (h.output _ ho) hx) rfl
    exact Member.Attended.acts (x := ⟨_, p.sequencer, _, g.books⟩) hm hb hx
  | childCall hc hk hb hcb =>
    obtain ⟨h1, h2, h3⟩ := h.crew _ hc
    have hmem := List.mem_of_getElem? hk
    refine h.of_crew rfl ⟨h1, h2, hset h3 ?_⟩ h.output rfl
    exact (h3 _ hmem).begin ((hf.crew _ hc).2.2 _ hmem).member hsend hcb fun b t hbt => ⟨b, hbt⟩

end Pipeline

end LogPipeline
