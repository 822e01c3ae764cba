import LogPipeline.Proofs.Backpressure
import LogPipeline.Proofs.Passage

/-!
# Nothing is lost on the way

Where the destination is ready and the stages write every record, no party of a well kept pipeline
loses anything (`Pipeline.Kept.act`): what is offered is taken, or waits under a deadline that lies
ahead. So the lines that a pipeline holds, or is yet to write, leave it through the destination
only.
-/

namespace LogPipeline

/-- Nothing is counted as lost, and no send as late. -/
structure Books.Spared (b b' : Books) : Prop where
  loss : Books.Loss 0 0 b b'
  timeouts : b'.counters.sendTimeouts = b.counters.sendTimeouts

theorem Books.Spared.refl (b : Books) : Books.Spared b b := ⟨⟨rfl, rfl⟩, rfl⟩

/-- What pipelines need to get on without losses. -/
structure Ground.Healthy (g : Stages) (gr : Ground) : Prop where
  checked : gr.blueprint.settings.check = .ok ()
  processing : gr.blueprint.collects = false
  stages : gr.blueprint.stages = some g
  output : gr.blueprint.output ≠ none
  ready : gr.destination.Ready

/-- A chunk has come to the destination, or nothing has. -/
def Destination.Gains (d d' : Destination) : Prop :=
  d' = d ∨ ∃ t, d' = { d with queue := d.queue.push t }

theorem Ground.Healthy.gains {g : Stages} {gr gr' : Ground} (h : gr.Healthy g)
    (hb : gr'.blueprint = gr.blueprint) (hd : gr.destination.Gains gr'.destination)
    (hroom : gr'.destination.queue.hasRoom = true) : gr'.Healthy g := by
  obtain ⟨h1, h2, h3, h4, hread, -, hclaims⟩ := h
  refine ⟨hb ▸ h1, hb ▸ h2, hb ▸ h3, hb ▸ h4, ?_, hroom, ?_⟩
  · rcases hd with hd | ⟨t, hd⟩ <;> rw [hd] <;> exact hread
  · rcases hd with hd | ⟨t, hd⟩ <;> rw [hd] <;> exact hclaims

/-! ## Members -/

section Members

variable {g : Stages} {now : Instant}

theorem Processor.Step.spared {p p' : Processor} {s s' : Sequencer} {b b' : Books}
    (hg : p.stages.Proper) (hs : p.Step now s b p' s' b') : Books.Spared b b' := by
  cases hs with
  | unwritten ha hv hw =>
    obtain ⟨line, hline, -⟩ := hg _
    exact absurd (hw.symm.trans hline) (by simp)
  | _ => exact ⟨⟨rfl, rfl⟩, rfl⟩

/-- An open output takes the chunks of a member, if not at once. -/
theorem Member.spared_busyAct {x : Place} (hg : x.member.processor.stages.Proper)
    (ho : x.output.queue.isOpen = true) (hr : x.output.queue.isRead = true)
    (hd : now < x.member.processor.deadline) : Books.Spared x.books (busyAct now x).books := by
  have htask := (Processor.step_act now x.member.processor x.sequencer x.books).spared hg
  rcases ha : x.member.processor.agenda with _ | ⟨t, l⟩
  · simp only [busyAct, ha]
    exact .refl _
  · cases t with
    | crash =>
      simp only [busyAct, ha]
      exact .refl _
    | offer c =>
      simp only [busyAct, ha, Output.isAccepting, ho, ↓reduceIte]
      exact .refl _
    | sending c =>
      have hlate : ¬x.member.processor.deadline ≤ now := Nat.not_le_of_lt hd
      simp only [busyAct, ha, Output.trySend, Queue.trySend, hr, hlate, Bool.not_true,
        Bool.false_eq_true, ↓reduceIte]
      by_cases hroom : x.output.queue.hasRoom = true
      · simp only [hroom, ↓reduceIte]
        exact ⟨⟨rfl, rfl⟩, rfl⟩
      · simp only [hroom, Bool.false_eq_true, ↓reduceIte]
        exact .refl _
    | _ =>
      simp only [busyAct, ha]
      exact htask

end Members

/-! ## Lines -/

/-- What is neither lost nor dropped makes the same lines. -/
theorem Edit.lines {g : Stages} {l l' : List Item} (h : Edit g [] [] l l') :
    l'.filterMap (Item.line? g) = l.filterMap (Item.line? g) := by
  generalize hrs : ([] : List Record) = rs at h
  cases h with
  | keep => rfl
  | filter hl => simp [Item.line?, hl]
  | write hl => simp [Item.line?, hl]
  | lose rs =>
    subst hrs
    simp

namespace Pipeline

variable {i : Nat} {role : Role} {p p' : Pipeline} {g : Stages} {gr gr' : Ground} {now : Instant}
  {w : Worker} {d : Distributor} {cs : List Child}

/-- The lines that a pipeline holds, and those of the records that it holds. -/
def lines (g : Stages) (p : Pipeline) : List ByteArray := p.stream.filterMap (Item.line? g)

/-- Without losses lines leave a pipeline through the destination only. -/
theorem Passage.lines (h : Passage g role p p' gr gr') (hs : Books.Spared gr.books gr'.books) :
    ∃ ts, gr'.destination.queue.items = gr.destination.queue.items ++ ts
      ∧ p.lines g = ts.flatMap (·.chunk.lines) ++ p'.lines g := by
  obtain ⟨⟨hrec, hchunk⟩, -⟩ := hs
  cases h with
  | @edit c r he hcs hrs hd hb =>
    obtain rfl : c = [] := List.length_eq_zero_iff.1 (by have := hb.chunks; omega)
    obtain rfl : r = [] := List.length_eq_zero_iff.1 (by have := hb.records; omega)
    exact ⟨[], by simp [hd], by simp [Pipeline.lines, he.lines]⟩
  | @deliver t hstream hd hb =>
    refine ⟨[t], hd, ?_⟩
    rw [Pipeline.lines, hstream, List.filterMap_append, List.filterMap_map]
    have hline : t.chunk.lines.filterMap (Item.line? g ∘ Item.line) = t.chunk.lines :=
      List.filterMap_some
    rw [hline]
    simp [Pipeline.lines]

/-! ## Parties -/

/-- What a party has done without losing anything. -/
structure Spared (p p' : Pipeline) (gr gr' : Ground) : Prop where
  books : Books.Spared gr.books gr'.books
  destination : gr.destination.Gains gr'.destination
  offers : ∀ o ∈ p.offered p', o.taken = true
  status : p.status ≠ .draining → p'.status ≠ .draining

theorem Spared.rest (hc : p'.crew = p.crew) (hs : p.status ≠ .draining → p'.status ≠ .draining) :
    Spared p p' gr gr :=
  ⟨.refl _, .inl rfl, by simp [offered_of_crew hc], hs⟩

theorem spared_start (hgr : gr.Healthy g) (hc : p.crew = none) : Spared p (p.start gr) gr gr := by
  obtain ⟨capacity, hout⟩ := Option.ne_none_iff_exists'.1 hgr.output
  refine ⟨.refl _, .inl rfl, by simp [offered, hc], fun _ => ?_⟩
  simp [start, hgr.processing, hout, hgr.stages, Output.start, hgr.ready.isRead]

theorem spared_supervise (h : p.Sound) (hst : p.status ≠ .collecting ∧ p.status ≠ .draining)
    (hgr : gr.Healthy g) : Spared p (p.supervise gr).1 gr (p.supervise gr).2 := by
  have hwind : p.windDown.status ≠ .draining := by
    unfold windDown
    split <;> simp
  unfold supervise
  split
  · exact spared_start hgr (h.crewless (.inl ‹_›))
  · exact absurd ‹_› hst.1
  · exact absurd ‹_› hst.2
  · split
    · exact .rest p.crew_windDown.1 fun _ => hwind
    · exact .rest rfl fun hs => hs
  · split
    · exact .rest rfl fun _ => by simp
    · exact .rest rfl fun hs => hs
  · exact .rest rfl fun hs => hs

theorem spared_consume (hgr : gr.Healthy g) :
    Spared p (p.act i .consumer gr).1 gr (p.act i .consumer gr).2 := by
  rcases ho : p.output with _ | o
  · simp only [act, ho]
    exact .rest rfl fun hs => hs
  · have hoffer : ∀ deadline t, gr.destination.offer gr.now deadline i t
        = (.taken, { gr.destination with queue := gr.destination.queue.push t }) := by
      intro deadline t
      have hclaims := hgr.ready.claims
      simp [Destination.offer, hgr.ready.isRead, hgr.ready.hasRoomFor, Destination.withdraw,
        hclaims]
    simp only [act, ho, Output.consume]
    rcases hh : o.held with _ | ⟨c, deadline⟩
    · simp only
      split
      · exact ⟨.refl _, .inl rfl, by simp [offered_of_crew], fun hs => hs⟩
      · split <;> exact ⟨.refl _, .inl rfl, by simp [offered_of_crew], fun hs => hs⟩
    · simp only [hoffer]
      exact ⟨.refl _, .inr ⟨_, rfl⟩, by simp [offered_of_crew], fun hs => hs⟩

/-- A batch is taken by the member that it is for, or nothing happens yet. -/
theorem distribute_offer (h : p.Sound) (ha : p.Attended gr.now) (hc : p.crew = some (.team w d cs))
    (hb : w.busy = true) {b : OrderedBatch} {l : List Delivery} (hd : d.agenda = .offer b :: l) :
    p.distribute w d cs gr = (p, gr) ∨ ∃ c, cs[d.current]? = some c
      ∧ p.distribute w d cs gr
        = (p.withTeam w d.next (cs.set d.current { c with queue := c.queue.push b }), gr) := by
  have hteam : TeamSound p.sequencer p.input w d cs := h.crew _ hc
  have hdel := hteam.delivers
  rw [hd] at hdel
  obtain ⟨hthere, ⟨r, -, -, hcur⟩, -⟩ := hdel
  have hch : d.children ≠ 0 := by simpa using hthere
  obtain ⟨c, hk⟩ : ∃ c, cs[d.current]? = some c :=
    ⟨_, List.getElem?_eq_getElem (hcur ▸ Nat.mod_lt r hteam.many)⟩
  have hmem := List.mem_of_getElem? hk
  obtain ⟨-, hprompt, hcs⟩ := ha.crew _ hc
  have hread : c.queue.isRead = true :=
    (hcs c hmem).reads.isRead (hteam.child _ c hk).member.tends (by simp [hteam.queues c hmem, hch])
  have hlate : ¬d.deadline ≤ gr.now := Nat.not_le_of_lt (hprompt hb)
  obtain ⟨pre, post, rfl, hpre⟩ := exists_seat hk
  simp only [distribute, hb, hd, ↓reduceIte, currentQueue, hch, hk, Option.map_some,
    Distributor.offer, Queue.trySend, hread, hlate, Bool.not_true, Bool.false_eq_true]
  by_cases hroom : c.queue.hasRoom = true
  · refine .inr ⟨c, rfl, ?_⟩
    have hset := hpre ▸ set_seat pre post c { c with queue := c.queue.push b }
    have hmod : ∀ f, (pre ++ c :: post).modify d.current f = pre ++ f c :: post := fun f =>
      hpre ▸ modify_seat pre post c f
    simp only [hroom, ↓reduceIte, hmod, hset]
    rfl
  · simp only [hroom, Bool.false_eq_true, ↓reduceIte]
    exact .inl trivial

theorem spared_distribute (h : p.Sound) (ha : p.Attended gr.now)
    (hc : p.crew = some (.team w d cs)) :
    Spared p (p.distribute w d cs gr).1 gr (p.distribute w d cs gr).2 := by
  by_cases hd : w.busy = true ∧ ∃ b l, d.agenda = .offer b :: l
  · obtain ⟨hb, b, l, hd⟩ := hd
    rcases distribute_offer h ha hc hb hd with hrest | ⟨c, hk, hsent⟩
    · rw [hrest]
      exact .rest rfl fun hs => hs
    · rw [hsent]
      refine ⟨.refl _, .inl rfl, fun o ho => ?_, fun hs => hs⟩
      rw [offered_next hc (by rfl) hd, List.mem_singleton] at ho
      rw [ho]
      exact decide_eq_true (lt_queued_push hk b)
  · -- nothing else that a distributor does concerns the books
    have hcalm : ∀ b l, d.agenda ≠ .offer b :: l := by
      intro b l hag
      by_cases hb : w.busy = true
      · exact hd ⟨hb, b, l, hag⟩
      · simp [TeamSound.idle (h.crew _ hc) (Bool.eq_false_iff.2 hb)] at hag
    have hstep := step_distribute (i := 0) (g := gr) hc
    generalize p.distribute w d cs gr = r at hstep ⊢
    obtain ⟨p', gr'⟩ := r
    dsimp only at hstep ⊢
    have hoff : p.offered p' = [] := offered_calm hc hcalm
    cases hstep with
    | member hc' | memberCall hc' => simp [hc] at hc'
    | sent hc' _ hag | unsent hc' _ hag =>
      obtain ⟨rfl, rfl, rfl⟩ := by simpa using hc.symm.trans hc'
      exact absurd hag (hcalm _ _)
    | _ => exact ⟨.refl _, .inl rfl, by simp [hoff], fun hs => hs⟩

/-- A member that goes on loses nothing. -/
theorem spared_memberAct (hg : g.Proper) (h : p.Sound) (hw : p.Writes g) (ha : p.Attended gr.now)
    {c : Crew} (hc : p.crew = some c) (hrun : c.root.phase ≠ .stopped) {m : Member}
    (hm : m ∈ c.members) (hd : gr.now < m.processor.deadline) {o : Output}
    (ho : p.output = some o) :
    Books.Spared gr.books (Member.busyAct gr.now ⟨m, p.sequencer, o, gr.books⟩).books := by
  have hopen := h.opened (.inl (h.running hc hrun)) o ho
  have hread : o.queue.isRead = true := (ha.output o ho).isRead (h.output o ho).tends hopen
  exact Member.spared_busyAct (x := ⟨m, p.sequencer, o, gr.books⟩) ((hw c hc m hm).stages ▸ hg)
    hopen hread hd

theorem spared_processInput (hg : g.Proper) (h : p.Sound) (hw : p.Writes g)
    (ha : p.Attended gr.now) {m : Member} (hc : p.crew = some (.alone m)) :
    Spared p (p.processInput m gr).1 gr (p.processInput m gr).2 := by
  have hoff : ∀ p', p.offered p' = [] := fun p' => by simp [offered, hc]
  have hm : m.Attended gr.now p.input := ha.crew _ hc
  obtain ⟨o, ho⟩ := Option.ne_none_iff_exists'.1 (h.manned (by simp [hc]))
  unfold processInput
  split
  · rename_i hb
    have hrun := (h.crew _ hc).2.2.tends.running hb
    have hspared := spared_memberAct hg h hw ha hc hrun (List.mem_singleton.2 rfl) (hm.prompt hb) ho
    simp only [memberAct, ho]
    exact ⟨hspared, .inl rfl, by simp [hoff], fun hs => hs⟩
  · split <;> exact ⟨.refl _, .inl rfl, by simp [hoff], fun hs => hs⟩

theorem spared_processQueue (hg : g.Proper) (h : p.Sound) (hw : p.Writes g)
    (ha : p.Attended gr.now) (hc : p.crew = some (.team w d cs)) {k : Nat} {c : Child}
    (hk : cs[k]? = some c) :
    Spared p (p.act i (.child k) gr).1 gr (p.act i (.child k) gr).2 := by
  have hteam : TeamSound p.sequencer p.input w d cs := h.crew _ hc
  have hmem := List.mem_of_getElem? hk
  have hm := (ha.crew _ hc).2.2 c hmem
  obtain ⟨o, ho⟩ := Option.ne_none_iff_exists'.1 (h.manned (by simp [hc]))
  -- nothing is offered by a member
  have hoff : ∀ {p' : Pipeline} {cs' : List Child}, p'.crew = some (.team w d cs') →
      ∀ o ∈ p.offered p', o.taken = true := by
    intro p' cs' hc' o ho
    simp [offered_same hc hc' rfl] at ho
  simp only [act, hc, hk, processQueue]
  split
  · rename_i hb
    have hrun : w.phase ≠ .stopped := fun hp => by
      simp [(hteam.child k c hk).member.tends.idle (hteam.stopped hp c hmem)] at hb
    have hspared := spared_memberAct hg h hw ha hc hrun (List.mem_map_of_mem hmem) (hm.prompt hb) ho
    simp only [memberAct, ho]
    exact ⟨hspared, .inl rfl, hoff rfl, fun hs => hs⟩
  · split <;> exact ⟨.refl _, .inl rfl, hoff rfl, fun hs => hs⟩

/-- No party loses anything. -/
theorem spared_act (hg : g.Proper) (h : p.Sound)
    (hst : p.status ≠ .collecting ∧ p.status ≠ .draining) (hw : p.Writes g)
    (ha : p.Attended gr.now) (hgr : gr.Healthy g) (role : Role) :
    Spared p (p.act i role gr).1 gr (p.act i role gr).2 := by
  have hrest : Spared p p gr gr := .rest rfl fun hs => hs
  cases role with
  | supervisor => exact spared_supervise h hst hgr
  | consumer => exact spared_consume hgr
  | root =>
    rcases hc : p.crew with _ | (m | ⟨w, d, cs⟩)
    · simpa only [act, hc] using hrest
    · simp only [act, hc]
      exact spared_processInput hg h hw ha hc
    · simp only [act, hc]
      exact spared_distribute h ha hc
  | child k =>
    rcases hc : p.crew with _ | (m | ⟨w, d, cs⟩)
    · simpa only [act, hc] using hrest
    · simpa only [act, hc] using hrest
    · rcases hk : cs[k]? with _ | c
      · simpa only [act, hc, hk] using hrest
      · exact spared_processQueue hg h hw ha hc hk

theorem status_tickEarly (role : Role) : (p.tickEarly role gr).status = p.status := by
  unfold tickEarly
  repeat' split
  all_goals rfl

/-- A tick that comes early is the beginning of a callback, in which nothing is lost. -/
theorem spared_tickEarly (h : p.Sound) (role : Role) : Spared p (p.tickEarly role gr) gr gr := by
  refine ⟨.refl _, .inl rfl, ?_, fun hne => by rwa [status_tickEarly]⟩
  suffices hoff : p.offered (p.tickEarly role gr) = [] by simp [hoff]
  unfold tickEarly
  split
  · exact offered_of_crew rfl
  · repeat' split
    all_goals exact offered_of_crew rfl
  · rename_i m hc
    simp [offered, hc]
  · rename_i w d cs hc
    split
    · exact offered_of_crew rfl
    · rename_i w' hw
      have hcall : w.busy = false ∧ w.Calls gr.now false p.input .tick w' p.input :=
        Worker.calls_of_tickEarly? hw
      have ha := TeamSound.idle (h.crew _ hc) hcall.1
      exact offered_calm hc (by simp [ha])
  · rename_i k w d cs hc
    split
    · exact offered_of_crew rfl
    · split
      · exact offered_of_crew rfl
      · exact offered_same hc rfl rfl
  · exact offered_of_crew rfl

/-! ## Pipelines that are well kept -/

/-- What is so of a pipeline that has lost nothing. -/
structure Kept (g : Stages) (bp : Blueprint) (now : Instant) (p : Pipeline) : Prop where
  sound : p.Sound
  status : p.status ≠ .collecting ∧ p.status ≠ .draining
  fitted : p.Fitted bp
  attended : p.Attended now
  writes : p.Writes g
  lossless : p.Lossless

theorem Kept.step (hg : g.Proper) (hgr : gr.Healthy g) (h : p.Kept g gr.blueprint gr.now)
    (hs : Step i p gr role p' gr') (hsp : Spared p p' gr gr') :
    p'.Kept g gr.blueprint gr.now
      ∧ ∃ ts, gr'.destination.queue.items = gr.destination.queue.items ++ ts
        ∧ p.lines g = ts.flatMap (·.chunk.lines) ++ p'.lines g := by
  obtain ⟨hsound, ⟨hst, hst'⟩, hfit, hatt, hw, l, hd, htaken⟩ := h
  have hsend := Nat.pos_of_ne_zero (PipelineSettings.of_check hgr.checked).2.2.1
  obtain ⟨hw', hpass⟩ := hsound.passage_step hg hst hw hgr.stages hgr.checked hs
  refine ⟨⟨hsound.step hgr.checked hs, ⟨status_step hst hgr.processing hs, hsp.status hst'⟩,
    blueprint_step hs ▸ hfit.step hs, hsound.attended_step hatt hfit hsend hs, hw', _,
    hsound.dispatched_step hd hs, fun o ho => ?_⟩, hpass.lines hsp.books⟩
  rcases List.mem_append.1 ho with ho | ho
  · exact htaken o ho
  · exact hsp.offers o ho

theorem Kept.act (hg : g.Proper) (hgr : gr.Healthy g) (h : p.Kept g gr.blueprint gr.now)
    (role : Role) :
    Spared p (p.act i role gr).1 gr (p.act i role gr).2
      ∧ (p.act i role gr).1.Kept g gr.blueprint gr.now
      ∧ ∃ ts, (p.act i role gr).2.destination.queue.items = gr.destination.queue.items ++ ts
        ∧ p.lines g = ts.flatMap (·.chunk.lines) ++ (p.act i role gr).1.lines g := by
  have hsp := spared_act (i := i) hg h.sound h.status h.writes h.attended hgr role
  exact ⟨hsp, h.step hg hgr (step_act h.sound.manned role) hsp⟩

theorem Kept.tickEarly (hg : g.Proper) (hgr : gr.Healthy g) (h : p.Kept g gr.blueprint gr.now)
    (role : Role) :
    (p.tickEarly role gr).Kept g gr.blueprint gr.now
      ∧ (p.tickEarly role gr).lines g = p.lines g := by
  obtain ⟨hkept, ts, hitems, hlines⟩ :=
    h.step (i := 0) hg hgr (step_tickEarly role) (spared_tickEarly h.sound role)
  obtain rfl : ts = [] := by simpa using hitems
  exact ⟨hkept, hlines.symm⟩

/-! ## The owner of the input -/

theorem lines_input {q : Queue Batch} {l : List Batch} (hq : q.items = p.input.items ++ l) :
    ({ p with input := q } : Pipeline).lines g = p.lines g ++ l.flatten.filterMap g.line? := by
  have hrec : Item.line? g ∘ Item.record = g.line? := rfl
  simp only [lines, stream, hq, List.flatten_append, List.map_append, List.filterMap_append,
    List.append_assoc, List.filterMap_map, hrec]
  rfl

/-- Time may pass for a pipeline in which nobody is in a callback. -/
theorem Kept.pass {bp : Blueprint} (h : p.Kept g bp now) (hq : p.Quiet) (t : Instant) :
    p.Kept g bp t :=
  { h with attended := hq.attended h.attended t }

theorem Kept.of_input {bp : Blueprint} (h : p.Kept g bp now) {q : Queue Batch}
    (hsound : Sound { p with input := q }) (hread : q.isRead = p.input.isRead)
    (hcap : q.capacity = p.input.capacity) : Kept g bp now { p with input := q } := by
  obtain ⟨-, hst, hfit, hatt, hw, l, hd, htaken⟩ := h
  exact ⟨hsound, hst, ⟨hfit.crew, hfit.output⟩,
    ⟨fun hc => hread ▸ hatt.input hc, fun c hc => (hatt.crew c hc).congr hread, hatt.output,
      hcap ▸ hatt.room⟩, hw, l, ⟨hd.team, hd.crewless⟩, htaken⟩

theorem kept_launched {bp : Blueprint} {capacity : Nat} (hc : 0 < capacity) (id : Nat)
    (tag : String) (keySet : List String) :
    Kept g bp now { id, tag, keySet, input := { capacity } } := by
  refine ⟨sound_launched .., by simp, ⟨by simp, by simp⟩, ⟨fun _ => rfl, by simp, by simp, hc⟩,
    by simp [Writes], [], ⟨by simp, fun _ => rfl⟩, by simp⟩

/-- A pipeline whose input is open has not stopped, so that the input is received from. -/
theorem Kept.isRead {bp : Blueprint} (h : p.Kept g bp now) (ho : p.input.isOpen = true) :
    p.input.isRead = true := by
  rcases hc : p.crew with _ | c
  · exact h.attended.input hc
  · have hatt := h.attended.crew c hc
    have hreads : c.root.Reads p.input := by
      cases c with
      | alone m => exact Member.Attended.reads hatt
      | team w d cs => exact hatt.1
    exact hreads.isRead (h.sound.crew c hc).tends ho

end Pipeline

end LogPipeline
