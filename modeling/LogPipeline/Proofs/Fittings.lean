import LogPipeline.Proofs.Lifetimes

/-!
# What a pipeline is fitted with

The settings of its workers, the room of its queues and the time that its sends have come from the
blueprint when a pipeline is started. Nothing changes them after that (`Pipeline.Fitted.step`).
-/

namespace LogPipeline

variable {bp : Blueprint}

/-- The member was made from the blueprint. -/
structure Member.Fitted (bp : Blueprint) (m : Member) : Prop where
  worker : m.worker.settings = bp.worker
  timeout : m.processor.sendTimeout = bp.settings.sendTimeout

/-- The output was made from the blueprint. It has room for a chunk. -/
structure Output.Fitted (bp : Blueprint) (o : Output) : Prop where
  consumer : o.consumer.settings = bp.worker
  capacity : 0 < o.queue.capacity

structure Child.Fitted (bp : Blueprint) (c : Child) : Prop where
  member : c.member.Fitted bp
  capacity : c.queue.capacity = bp.settings.queueCapacity

def Crew.Fitted (bp : Blueprint) : Crew → Prop
  | .alone m => m.Fitted bp
  | .team w d cs =>
    w.settings = bp.worker ∧ d.sendTimeout = bp.settings.sendTimeout ∧ ∀ c ∈ cs, c.Fitted bp

/-- The pipeline was made from the blueprint. -/
structure Pipeline.Fitted (bp : Blueprint) (p : Pipeline) : Prop where
  crew : ∀ c, p.crew = some c → c.Fitted bp
  output : ∀ o, p.output = some o → o.Fitted bp

@[simp] theorem Worker.settings_finish (w : Worker) : w.finish.settings = w.settings := rfl

@[simp] theorem Worker.settings_fail (message : String) (w : Worker) :
    (w.fail message).settings = w.settings := rfl

theorem Worker.settings_spawn (settings : WorkerSettings) (now : Instant) :
    (Worker.spawn settings now).settings = settings := by
  unfold Worker.spawn
  split <;> rfl

@[simp] theorem Worker.capacity_leave {α : Type} (w : Worker) (q : Queue α) :
    (w.leave q).capacity = q.capacity := by
  unfold Worker.leave
  split <;> rfl

theorem Worker.Calls.fitted {α : Type} {now : Instant} {ended : Bool} {q q' : Queue α}
    {w w' : Worker} {cb : Callback α} (hc : w.Calls now ended q cb w' q') :
    w'.settings = w.settings ∧ q'.capacity = q.capacity := by
  cases hc <;> exact ⟨rfl, rfl⟩

theorem Processor.sendTimeout_step {now : Instant} {p p' : Processor} {s s' : Sequencer}
    {b b' : Books} (hs : p.Step now s b p' s' b') : p'.sendTimeout = p.sendTimeout := by
  cases hs <;> rfl

theorem Processor.sendTimeout_stop (now : Instant) (p : Processor) :
    (p.stop now).sendTimeout = p.sendTimeout := by
  unfold Processor.stop
  dsimp only
  repeat' split
  all_goals rfl

theorem Processor.deadline_stop (now : Instant) (p : Processor) :
    (p.stop now).deadline = now + p.sendTimeout := by
  unfold Processor.stop
  dsimp only
  repeat' split
  all_goals rfl

namespace Member

theorem Fitted.begin {m : Member} {w : Worker} (h : m.Fitted bp)
    (hw : w.settings = m.worker.settings)
    (now : Instant) (cb : Callback OrderedBatch) : (m.begin now cb w).Fitted bp := by
  cases cb with
  | input b deadline => exact ⟨hw.trans h.worker, h.timeout⟩
  | tick => exact ⟨hw.trans h.worker, h.timeout⟩
  | stop => exact ⟨hw.trans h.worker, (Processor.sendTimeout_stop now _).trans h.timeout⟩

theorem Fitted.acts {x x' : Place} {now : Instant} (h : x.member.Fitted bp)
    (ho : x.output.Fitted bp) (hx : Acts now x x') : x'.member.Fitted bp ∧ x'.output.Fitted bp := by
  cases hx with
  | task hs => exact ⟨⟨h.worker, (Processor.sendTimeout_step hs).trans h.timeout⟩, ho⟩
  | _ => exact ⟨⟨h.worker, h.timeout⟩, ⟨ho.consumer, ho.capacity⟩⟩

theorem fitted_start (bp : Blueprint) (stages : Stages) (name : String) (now : Instant) :
    (Member.start bp stages name now).Fitted bp :=
  ⟨Worker.settings_spawn _ _, rfl⟩

end Member

theorem Output.fitted_start {tag : String} {id capacity : Nat} {now : Instant}
    {destination : Destination} {o : Output}
    (h : Output.start tag id capacity bp.worker now destination = .ok o) : o.Fitted bp := by
  unfold Output.start at h
  split at h
  · simp at h
  · obtain rfl := Except.ok.inj h
    refine ⟨Worker.settings_spawn _ _, ?_⟩
    simp only [Worker.capacity_leave]
    omega

theorem Crew.fitted_start (bp : Blueprint) (stages : Stages) (tag : String) (now : Instant) :
    (Crew.start bp stages tag now).Fitted bp := by
  unfold Crew.start
  split
  · exact Member.fitted_start ..
  · refine ⟨Worker.settings_spawn _ _, rfl, fun c hc => ?_⟩
    obtain ⟨i, -, rfl⟩ := List.mem_map.1 hc
    exact ⟨Member.fitted_start .., rfl⟩

theorem Output.Fitted.finish {o : Output} (h : o.Fitted bp) : o.finish.Fitted bp := by
  refine ⟨h.consumer, ?_⟩
  show 0 < (o.consumer.finish.leave o.queue).capacity
  rw [Worker.capacity_leave]
  exact h.capacity

theorem Distributor.sendTimeout_receive (now deadline : Instant) (b : Batch) (d : Distributor)
    (s : Sequencer) : (d.receive now deadline b s).1.sendTimeout = d.sendTimeout := by
  unfold Distributor.receive
  split
  · rfl
  · dsimp only
    split <;> rfl

theorem Distributor.sendTimeout_tick (now : Instant) (d : Distributor) :
    (d.tick now).sendTimeout = d.sendTimeout := by
  unfold Distributor.tick
  dsimp only
  split <;> rfl

namespace Pipeline

variable {i : Nat} {role : Role} {p p' : Pipeline} {g g' : Ground} {o : Output} {m : Member}
  {w : Worker} {d : Distributor} {cs : List Child}

theorem Fitted.of_output (h : p.Fitted bp) (hp : p'.output = some o) (hc : p'.crew = p.crew)
    (ho : o.Fitted bp) : p'.Fitted bp :=
  ⟨hc ▸ h.crew, fun _ hx => Option.some.inj (hp.symm.trans hx) ▸ ho⟩

theorem Fitted.of_alone (hp : p.crew = some (.alone m)) (ho : ∀ o, p.output = some o → o.Fitted bp)
    (hm : m.Fitted bp) : p.Fitted bp :=
  ⟨fun _ hx => Option.some.inj (hp.symm.trans hx) ▸ hm, ho⟩

theorem Fitted.of_team (hp : p.crew = some (.team w d cs))
    (ho : ∀ o, p.output = some o → o.Fitted bp) (hw : w.settings = bp.worker)
    (hd : d.sendTimeout = bp.settings.sendTimeout) (hcs : ∀ c ∈ cs, c.Fitted bp) : p.Fitted bp :=
  ⟨fun _ hx => Option.some.inj (hp.symm.trans hx) ▸ ⟨hw, hd, hcs⟩, ho⟩

theorem Fitted.windDown (h : p.Fitted bp) : p.windDown.Fitted bp := by
  unfold Pipeline.windDown
  split
  · exact ⟨h.crew, h.output⟩
  · rename_i o ho
    exact h.of_output rfl rfl ⟨(h.output o ho).consumer, (h.output o ho).capacity⟩

theorem Fitted.step (h : p.Fitted g.blueprint) (hs : Step i p g role p' g') :
    p'.Fitted g.blueprint := by
  have hset : ∀ {cs : List Child} {k : Nat} {c' : Child}, (∀ c ∈ cs, c.Fitted g.blueprint) →
      c'.Fitted g.blueprint → ∀ c ∈ cs.set k c', c.Fitted g.blueprint := by
    intro cs k c' hcs hc' c hc
    rcases List.mem_or_eq_of_mem_set hc with hc | rfl
    · exact hcs c hc
    · exact hc'
  cases hs with
  | collect | noOutput | report | reported | drain | outputGone => exact ⟨h.crew, h.output⟩
  | noStages hst ho => exact h.of_output rfl rfl (Output.fitted_start ho)
  | launch hst ho hstages =>
    exact ⟨fun _ hx => Option.some.inj hx ▸ Crew.fitted_start .., fun _ hx =>
      Option.some.inj hx ▸ Output.fitted_start ho⟩
  | drained | crewGone => exact h.windDown
  | deliver ho hh | giveUp ho hh | consumed ho hh =>
    exact h.of_output rfl rfl (h.output _ ho).finish
  | claim | rest => exact h
  | consume ho hh hb hc | consumerCall ho hh hb hc =>
    obtain ⟨h1, h2⟩ := hc.fitted
    exact h.of_output rfl rfl ⟨h1.trans (h.output _ ho).consumer,
      h2.symm ▸ (h.output _ ho).capacity⟩
  | member hc ho hb hx =>
    have hm := Member.Fitted.acts (x := ⟨_, p.sequencer, _, g.books⟩) (h.crew _ hc)
      (h.output _ ho) hx
    exact .of_alone rfl (fun _ hy => Option.some.inj hy ▸ hm.2) hm.1
  | memberCall hc hb hcb =>
    have hm : Member.Fitted _ _ := h.crew _ hc
    exact .of_alone rfl h.output (hm.begin hcb.fitted.1 _ _)
  | distributed hc | rotate hc | awaited hc | unsent hc =>
    obtain ⟨h1, h2, h3⟩ := h.crew _ hc
    exact .of_team rfl h.output h1 h2 h3
  | sent hc hb ha hd hq hr hroom =>
    obtain ⟨h1, h2, h3⟩ := h.crew _ hc
    have hf := h3 _ (List.mem_of_getElem? hq)
    exact .of_team rfl h.output h1 h2 (hset h3 ⟨hf.member, hf.capacity⟩)
  | letGo hc =>
    obtain ⟨h1, h2, h3⟩ := h.crew _ hc
    refine .of_team rfl h.output h1 h2 fun c hmem => ?_
    obtain ⟨e, he, rfl⟩ := List.mem_map.1 hmem
    exact ⟨(h3 e he).member, (h3 e he).capacity⟩
  | receive hc hb hcb =>
    obtain ⟨h1, h2, h3⟩ := h.crew _ hc
    exact .of_team rfl h.output (hcb.fitted.1.trans h1)
      ((Distributor.sendTimeout_receive ..).trans h2) h3
  | tick hc hb hcb =>
    obtain ⟨h1, h2, h3⟩ := h.crew _ hc
    exact .of_team rfl h.output (hcb.fitted.1.trans h1)
      ((Distributor.sendTimeout_tick ..).trans h2) h3
  | stop hc hb hcb =>
    obtain ⟨h1, h2, h3⟩ := h.crew _ hc
    exact .of_team rfl h.output (hcb.fitted.1.trans h1) h2 h3
  | child hc hk ho hb hx =>
    obtain ⟨h1, h2, h3⟩ := h.crew _ hc
    have hf := h3 _ (List.mem_of_getElem? hk)
    have hm := Member.Fitted.acts (x := ⟨_, p.sequencer, _, g.books⟩) hf.member (h.output _ ho) hx
    refine .of_team rfl (fun _ hy => Option.some.inj hy ▸ hm.2) h1 h2 (hset h3 ⟨hm.1, ?_⟩)
    exact (Worker.capacity_leave _ _).trans hf.capacity
  | childCall hc hk hb hcb =>
    obtain ⟨h1, h2, h3⟩ := h.crew _ hc
    have hf := h3 _ (List.mem_of_getElem? hk)
    exact .of_team rfl h.output h1 h2 (hset h3 ⟨hf.member.begin hcb.fitted.1 _ _,
      hcb.fitted.2.trans hf.capacity⟩)

end Pipeline

end LogPipeline
