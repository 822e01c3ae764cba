import LogPipeline.Proofs.Crews

/-!
# The life of a pipeline

A pipeline starts without workers, runs with an open output, and stops once its workers have stopped
and its output has drained. `Pipeline.Sound` says what is so in between, whatever the status, and
every step keeps it (`Pipeline.Sound.step`). So nothing is left in a pipeline that has stopped.
-/

namespace LogPipeline

/-- What is always so of a pipeline. -/
structure Pipeline.Sound (p : Pipeline) : Prop where
  crewless : p.status = .starting ∨ p.status = .collecting ∨ p.status = .draining → p.crew = none
  outputless : p.status = .starting ∨ p.status = .collecting → p.output = none
  fresh : p.status = .starting → p.sequencer = {}
  manned : p.crew ≠ none → p.output ≠ none
  crewed : p.status = .running → p.crew ≠ none
  opened : p.status = .running ∨ p.status = .draining →
    ∀ o, p.output = some o → o.queue.isOpen = true
  finished : p.status = .stopping ∨ p.status = .stopped →
    p.input.items = [] ∧ p.input.isOpen = false
      ∧ (∀ c, p.crew = some c → c.root.phase = .stopped)
      ∧ ∀ o, p.output = some o → o.queue.isOpen = false
  drained : p.status = .stopped → ∀ o, p.output = some o → o.consumer.phase = .stopped
  crew : ∀ c, p.crew = some c → c.Sound p.sequencer p.input
  output : ∀ o, p.output = some o → o.Sound

/-! ## Starting -/

/-- What is counted or waited for is not zero. -/
theorem PipelineSettings.of_check {s : PipelineSettings} (h : s.check = .ok ()) :
    s.workers ≠ 0 ∧ s.queueCapacity ≠ 0 ∧ s.sendTimeout ≠ 0 ∧ s.tickInterval ≠ 0 := by
  have hpositive : ∀ {n : Nat} {field : String} {rest : Except SettingsError Unit},
      (positive n field >>= fun _ => rest) = .ok () → n ≠ 0 ∧ rest = .ok () := by
    intro n field rest hn
    unfold positive at hn
    split at hn
    · simp [bind, Except.bind] at hn
    · exact ⟨‹_›, hn⟩
  unfold check at h
  obtain ⟨hworkers, h⟩ := hpositive h
  obtain ⟨hcapacity, h⟩ := hpositive h
  obtain ⟨htimeout, h⟩ := hpositive h
  exact ⟨hworkers, hcapacity, htimeout, (hpositive h).1⟩

theorem Output.sound_start {tag : String} {id capacity : Nat} {settings : WorkerSettings}
    {now : Instant} {destination : Destination} {o : Output} (hs : settings.tickInterval ≠ 0)
    (h : Output.start tag id capacity settings now destination = .ok o) :
    o.Sound ∧ o.queue.isOpen = true ∧ o.queue.items = [] ∧ o.held = none := by
  unfold Output.start at h
  split at h
  · simp at h
  · obtain rfl := Except.ok.inj h
    have hl : (Worker.spawn settings now).leave ({ capacity := max capacity 1 } : Queue Chunk)
        = { capacity := max capacity 1 } := by
      simp [Worker.leave, Worker.spawn, hs, Worker.isStopped]
    refine ⟨⟨?_, fun _ => rfl⟩, by rw [hl], by rw [hl], rfl⟩
    rw [hl]
    exact Worker.tends_spawn hs

theorem Member.sound_start {α : Type} {ticketed : Bool} {s : Sequencer} {q : Queue α}
    {bp : Blueprint} {stages : Stages} {name : String} {now : Instant}
    (hs : bp.settings.tickInterval ≠ 0) : (Member.start bp stages name now).Sound ticketed s q := by
  refine ⟨Worker.tends_spawn hs, fun _ => rfl, ?_⟩
  have he : (Member.start bp stages name now).worker.ended = false := by
    simp [Member.start, Worker.spawn, Blueprint.worker, hs, Worker.ended]
  rw [he]
  exact Processor.sound_new ..

theorem Crew.sound_start {bp : Blueprint} {stages : Stages} {tag : String} {now : Instant}
    {input : Queue Batch} (hs : bp.settings.check = .ok ()) :
    (Crew.start bp stages tag now).Sound {} input := by
  obtain ⟨hw, -, -, ht⟩ := PipelineSettings.of_check hs
  unfold Crew.start
  split
  · exact ⟨rfl, ⟨rfl, rfl, by simp [Member.start, Blueprint.processor, Processor.new]⟩,
      Member.sound_start ht⟩
  · have hlen : ((List.range bp.settings.workers).map fun i =>
        Child.mk { capacity := bp.settings.queueCapacity }
          (.start bp stages (tag ++ "-processor-" ++ toString i) now)).length
        = bp.settings.workers := by simp
    have hend : (Worker.spawn bp.worker now).ended = false := by
      simp [Worker.spawn, Blueprint.worker, ht, Worker.ended]
    refine ⟨Worker.tends_spawn ht, fun _ => rfl, ?_, fun _ => hlen.symm, ?_,
      fun h0 => absurd h0 hw, fun c hc => ?_, Sequencer.valid_empty, ?_, fun k c hk => ?_⟩
    · rw [hlen]
      omega
    · rw [hend]
      exact ⟨by simp, fun _ _ => by simp, by simpa using hw, by simp⟩
    · obtain ⟨i, -, rfl⟩ := List.mem_map.1 hc
      simpa using hw
    · refine .of_eq (Eq.symm ?_)
      refine List.append_eq_nil_iff.2 ⟨rfl, List.flatMap_eq_nil_iff.2 fun c hc => ?_⟩
      obtain ⟨i, -, rfl⟩ := List.mem_map.1 hc
      rfl
    · obtain ⟨i, -, rfl⟩ := List.mem_map.1 (List.mem_of_getElem? hk)
      have hnil : Child.tickets ⟨{ capacity := bp.settings.queueCapacity },
          .start bp stages (tag ++ "-processor-" ++ toString i) now⟩ = [] := by
        simp [Child.tickets, Member.start, Blueprint.processor, Processor.new, Processor.tickets]
      refine ⟨Member.sound_start ht, by simp, fun r hr => ?_, hnil ▸ List.Pairwise.nil⟩
      rw [hnil] at hr
      simp at hr

theorem Crew.Sound.tends {s : Sequencer} {input : Queue Batch} {c : Crew} (h : c.Sound s input) :
    c.root.Tends input := by
  cases c with
  | alone m => exact h.2.2.tends
  | team w d cs => exact TeamSound.tends h

/-- Once the distributor has stopped, so have its members. -/
theorem TeamSound.stopped {s : Sequencer} {input : Queue Batch} {w : Worker} {d : Distributor}
    {cs : List Child} (h : TeamSound s input w d cs) (hw : w.phase = .stopped) :
    ∀ c ∈ cs, c.member.worker.phase = .stopped := by
  have ha := h.idle (h.tends.idle hw)
  have hdel := h.delivers
  have hend : w.ended = true := by simp [Worker.ended, hw]
  rw [ha, hend] at hdel
  obtain ⟨-, -, ht, -⟩ := hdel
  exact h.awaited (by simpa using ht) (by simp [ha])

/-! ## Steps -/

namespace Pipeline

variable {i : Nat} {role : Role} {p p' : Pipeline} {g g' : Ground} {o o' : Output} {c c' : Crew}

theorem Sound.of_input (h : p.Sound) {q : Queue Batch}
    (ho : p.input.isOpen = false → q.isOpen = false)
    (hi : p.input.items = [] → p.input.isOpen = false → q.items = []) :
    Sound { p with input := q } := by
  have htends : ∀ w : Worker, w.Tends p.input → w.Tends q := fun w hw =>
    ⟨fun hp => ⟨ho (hw.emptied hp).1, hi (hw.emptied hp).2 (hw.emptied hp).1⟩, hw.idle, hw.busy,
      hw.sane⟩
  refine ⟨h.crewless, h.outputless, h.fresh, h.manned, h.crewed, h.opened, fun hor => ?_, h.drained,
    fun c hc => ?_, h.output⟩
  · obtain ⟨h1, h2, h3, h4⟩ := h.finished hor
    exact ⟨hi h1 h2, ho h2, h3, h4⟩
  · have := h.crew c hc
    cases c with
    | alone m =>
      obtain ⟨h1, h2, h3, h4, h5⟩ := this
      exact ⟨h1, h2, htends _ h3, h4, h5⟩
    | team w d cs => exact { this with tends := htends _ (TeamSound.tends this) }

/-- A batch is taken from the input. -/
theorem Sound.of_taken (h : p.Sound) {b : Batch} {rest : List Batch}
    (hq : p.input.items = b :: rest) : Sound { p with input.items := rest } :=
  h.of_input (fun ho => ho) fun hnil => by simp [hq] at hnil

theorem Sound.of_output (h : p.Sound) (ho : p.output = some o) (hs : o'.Sound)
    (hopen : o'.queue.isOpen = o.queue.isOpen)
    (hd : o.consumer.phase = .stopped → o'.consumer.phase = .stopped) :
    Sound { p with output := some o' } := by
  refine ⟨h.crewless, fun hst => ?_, h.fresh, fun _ => by simp, h.crewed, fun hst x hx => ?_,
    fun hst => ?_, fun hst x hx => ?_, h.crew, fun x hx => ?_⟩
  · have := h.outputless hst
    simp [ho] at this
  · obtain rfl := Option.some.inj hx
    rw [hopen]
    exact h.opened hst o ho
  · obtain ⟨h1, h2, h3, h4⟩ := h.finished hst
    refine ⟨h1, h2, h3, fun x hx => ?_⟩
    obtain rfl := Option.some.inj hx
    rw [hopen]
    exact h4 o ho
  · obtain rfl := Option.some.inj hx
    exact hd (h.drained hst o ho)
  · obtain rfl := Option.some.inj hx
    exact hs

theorem Sound.of_finish (h : p.Sound) (ho : p.output = some o) (hb : o.consumer.busy = true) :
    Sound { p with output := some o.finish } :=
  h.of_output ho ((h.output o ho).finish hb) (Worker.isOpen_leave _ _)
    fun hp => absurd hp ((h.output o ho).tends.running hb)

theorem Sound.of_crew (h : p.Sound) (hc : p.crew = some c) {s : Sequencer} {q : Queue Batch}
    (hs : c'.Sound s q) (hroot : c.root.phase = .stopped → c'.root.phase = .stopped)
    (hopen : q.isOpen = p.input.isOpen) (hitems : p.input.items = [] → q.items = []) :
    Sound { p with crew := some c', sequencer := s, input := q } := by
  have hst : p.status ≠ .starting ∧ p.status ≠ .collecting ∧ p.status ≠ .draining := by
    refine ⟨fun hst => ?_, fun hst => ?_, fun hst => ?_⟩
    · simpa [hc] using h.crewless (.inl hst)
    · simpa [hc] using h.crewless (.inr (.inl hst))
    · simpa [hc] using h.crewless (.inr (.inr hst))
  refine ⟨fun hor => ?_, h.outputless, fun hs => absurd hs hst.1, fun _ => h.manned (by simp [hc]),
    fun _ => by simp, h.opened, fun hor => ?_, h.drained, fun x hx => ?_, h.output⟩
  · rcases hor with hs | hs | hs
    · exact absurd hs hst.1
    · exact absurd hs hst.2.1
    · exact absurd hs hst.2.2
  · obtain ⟨h1, h2, h3, h4⟩ := h.finished hor
    refine ⟨hitems h1, hopen.trans h2, fun x hx => ?_, h4⟩
    obtain rfl := Option.some.inj hx
    exact hroot (h3 c hc)
  · obtain rfl := Option.some.inj hx
    exact hs

/-- The root of the crew is called. -/
theorem Sound.of_call (h : p.Sound) (hc : p.crew = some c) {now : Instant} {ended : Bool}
    {cb : Callback Batch} {w : Worker} {s : Sequencer} {q : Queue Batch}
    (hcb : c.root.Calls now ended p.input cb w q) (hs : c'.Sound s q) :
    Sound { p with crew := some c', sequencer := s, input := q } :=
  h.of_crew hc hs (fun hp => absurd hp hcb.phase) hcb.isOpen hcb.items_nil

theorem Sound.of_team (h : p.Sound) {w : Worker} {d d' : Distributor} {cs cs' : List Child}
    (hc : p.crew = some (.team w d cs)) {s : Sequencer} (hs : TeamSound s p.input w d' cs') :
    Sound { p with crew := some (.team w d' cs'), sequencer := s } := by
  have hcrew : (Crew.team w d' cs').Sound s p.input := hs
  exact h.of_crew hc hcrew (fun hp => hp) rfl fun hi => hi

/-- Only a running pipeline has workers that are not at their end. -/
theorem Sound.running (h : p.Sound) (hc : p.crew = some c) (hr : c.root.phase ≠ .stopped) :
    p.status = .running := by
  cases hs : p.status with
  | starting => simpa [hc] using h.crewless (.inl hs)
  | collecting => simpa [hc] using h.crewless (.inr (.inl hs))
  | draining => simpa [hc] using h.crewless (.inr (.inr hs))
  | running => rfl
  | stopping => exact absurd ((h.finished (.inl hs)).2.2.1 c hc) hr
  | stopped => exact absurd ((h.finished (.inr hs)).2.2.1 c hc) hr

theorem Sound.windDown (h : p.Sound) (hi : p.input.items = [] ∧ p.input.isOpen = false)
    (hc : ∀ c, p.crew = some c → c.root.phase = .stopped) : p.windDown.Sound := by
  unfold Pipeline.windDown
  rcases ho : p.output with _ | o
  · exact ⟨by simp, by simp, by simp, fun hne => absurd ho (h.manned hne), by simp, by simp,
      fun _ => ⟨hi.1, hi.2, hc, by simp⟩, fun _ => by simp, h.crew, by simp⟩
  · refine ⟨by simp, by simp, by simp, fun _ => by simp, by simp, by simp,
      fun _ => ⟨hi.1, hi.2, hc, fun x hx => ?_⟩, by simp, h.crew, fun x hx => ?_⟩
    · obtain rfl := Option.some.inj hx
      rfl
    · obtain rfl := Option.some.inj hx
      exact (h.output o ho).shutDown

/-- A step of a member changes the output at most by a chunk, which it accepts. -/
theorem Sound.of_acts (h : p.Sound) (ho : p.output = some o) (hrun : p.status = .running)
    {m : Member} {s : Sequencer} {books : Books} {x : Member.Place} {now : Instant}
    (hx : Member.Acts now ⟨m, s, o, books⟩ x) :
    x.output.Sound ∧ x.output.queue.isOpen = o.queue.isOpen ∧ x.output.consumer = o.consumer := by
  have hs := h.output o ho
  have hopen := h.opened (.inl hrun) o ho
  cases hx with
  | give ha hr => exact ⟨hs.push hopen _, rfl, rfl⟩
  | _ => exact ⟨hs, rfl, rfl⟩

theorem Sound.step (h : p.Sound) (hcheck : g.blueprint.settings.check = .ok ())
    (hs : Step i p g role p' g') : p'.Sound := by
  have htick := (PipelineSettings.of_check hcheck).2.2.2
  cases hs with
  | collect hst hb =>
    have hc := h.crewless (.inl hst)
    have ho := h.outputless (.inl hst)
    exact ⟨fun _ => hc, fun _ => ho, by simp, h.manned, by simp, by simp, by simp, by simp,
      h.crew, h.output⟩
  | noOutput hst =>
    have hc := h.crewless (.inl hst)
    have ho := h.outputless (.inl hst)
    exact ⟨fun _ => hc, by simp, by simp, h.manned, by simp, fun _ => by simp [ho], by simp,
      by simp, h.crew, h.output⟩
  | noStages hst hout =>
    have hc := h.crewless (.inl hst)
    obtain ⟨h1, h2, -, -⟩ := Output.sound_start htick hout
    refine ⟨fun _ => hc, by simp, by simp, fun _ => by simp, by simp, fun _ x hx => ?_, by simp,
      by simp, h.crew, fun x hx => ?_⟩
    · obtain rfl := Option.some.inj hx
      exact h2
    · obtain rfl := Option.some.inj hx
      exact h1
  | launch hst hout hstages =>
    obtain ⟨h1, h2, -, -⟩ := Output.sound_start htick hout
    refine ⟨by simp, by simp, by simp, fun _ => by simp, fun _ => by simp, fun _ x hx => ?_,
      by simp, by simp, fun x hx => ?_, fun x hx => ?_⟩
    · obtain rfl := Option.some.inj hx
      exact h2
    · obtain rfl := Option.some.inj hx
      simp only [h.fresh hst]
      exact Crew.sound_start hcheck
    · obtain rfl := Option.some.inj hx
      exact h1
  | report hst hq => exact h.of_taken hq
  | reported hst hq =>
    have hc := h.crewless (.inr (.inl hst))
    have ho := h.outputless (.inr hst)
    exact ⟨by simp, by simp, by simp, h.manned, by simp, by simp,
      fun _ => ⟨hq.1, hq.2, by simp [hc], by simp [ho]⟩, by simp [ho], h.crew, h.output⟩
  | drain hst hq => exact h.of_taken hq
  | drained hst hq => exact h.windDown hq (by simp [h.crewless (.inr (.inr hst))])
  | crewGone hst hc =>
    obtain ⟨c, hcrew⟩ := Option.ne_none_iff_exists'.1 (h.crewed hst)
    have hstop : c.root.isStopped = true := by simpa [hcrew] using hc
    have htends := (h.crew c hcrew).tends
    have hphase := htends.stopped hstop
    have hempty := htends.emptied (by simp [hphase])
    refine h.windDown ⟨hempty.2, hempty.1⟩ fun x hx => ?_
    obtain rfl := Option.some.inj (hcrew.symm.trans hx)
    exact hphase
  | outputGone hst ho =>
    obtain ⟨h1, h2, h3, h4⟩ := h.finished (.inl hst)
    refine ⟨by simp, by simp, by simp, h.manned, by simp, by simp, fun _ => ⟨h1, h2, h3, h4⟩,
      fun _ o hout => ?_, h.crew, h.output⟩
    have hout : p.output = some o := hout
    exact (h.output o hout).tends.stopped (by simpa [hout, Output.isDrained] using ho)
  | deliver ho hh => exact h.of_finish ho ((h.output _ ho).busy hh)
  | giveUp ho hh => exact h.of_finish ho ((h.output _ ho).busy hh)
  | claim => exact h
  | consumed ho hh hb => exact h.of_finish ho hb
  | consume ho hh hb hc =>
    exact h.of_output ho ((h.output _ ho).call hc) hc.isOpen fun hp => absurd hp hc.phase
  | consumerCall ho hh hb hc hcb =>
    exact h.of_output ho ((h.output _ ho).call hc) hc.isOpen fun hp => absurd hp hc.phase
  | @member m o x hc ho hb hx =>
    have hcrew := h.crew _ hc
    have hph : m.worker.phase ≠ .stopped := hcrew.2.2.tends.running hb
    obtain ⟨h1, h2, h3⟩ := h.of_acts ho (h.running hc hph) hx
    obtain ⟨h4, h5⟩ := hcrew.acts hb hx
    exact (h.of_output ho h1 h2 (h3 ▸ fun hp => hp)).of_crew hc h4 (fun hp => absurd hp hph)
      (Worker.isOpen_leave _ _) fun hi => h5.trans hi
  | memberCall hc hb hcb => exact h.of_call hc hcb ((h.crew _ hc).call hcb)
  | distributed hc hb ha =>
    have hcrew := h.crew _ hc
    exact h.of_crew hc (TeamSound.distributed hcrew hb ha)
      (fun hp => absurd hp ((TeamSound.tends hcrew).running hb)) (Worker.isOpen_leave _ _)
      (Worker.items_leave_nil _)
  | sent hc hb ha hd hq hr hroom =>
    exact h.of_team hc (TeamSound.sent (h.crew _ hc) hb ha hd hq)
  | unsent hc hb ha => exact h.of_team hc (TeamSound.unsent (h.crew _ hc) hb ha)
  | rotate hc hb ha => exact h.of_team hc (TeamSound.rotate (h.crew _ hc) hb ha)
  | letGo hc hb ha => exact h.of_team hc (TeamSound.letGo (h.crew _ hc) hb ha)
  | awaited hc hb ha hs => exact h.of_team hc (TeamSound.awaitedAll (h.crew _ hc) hb ha hs)
  | receive hc hb hcb => exact h.of_call hc hcb (TeamSound.receive (h.crew _ hc) hb hcb)
  | tick hc hb hcb => exact h.of_call hc hcb (TeamSound.tick (h.crew _ hc) hb hcb)
  | stop hc hb hcb => exact h.of_call hc hcb (TeamSound.stop (h.crew _ hc) hb hcb)
  | @child w d cs k c o x hc hk ho hb hx =>
    have hcrew := h.crew _ hc
    have hph : w.phase ≠ .stopped := fun hp => by
      have := TeamSound.stopped hcrew hp c (List.mem_of_getElem? hk)
      simp [(TeamSound.child hcrew _ _ hk).member.tends.idle this] at hb
    obtain ⟨h1, h2, h3⟩ := h.of_acts ho (h.running hc hph) hx
    exact (h.of_output ho h1 h2 (h3 ▸ fun hp => hp)).of_team hc
      (TeamSound.childActs hcrew hk hb hx)
  | childCall hc hk hb hcb =>
    exact h.of_team hc (TeamSound.childCall (h.crew _ hc) hk hb hcb)
  | rest => exact h

/-! ## A new pipeline -/

theorem sound_launched (id : Nat) (tag : String) (keySet : List String) (input : Queue Batch) :
    Sound { id, tag, keySet, input } :=
  ⟨fun _ => rfl, fun _ => rfl, fun _ => rfl, fun hne => absurd rfl hne, by simp, by simp, by simp,
    by simp, by simp, by simp⟩

end Pipeline

end LogPipeline
