import LogPipeline.Distributor
import LogPipeline.Proofs.Logbooks

/-!
# Lines that belong to no run

A processor that has seen tickets fails when it is stopped outside a run with a chunk being built.
With a ticketed batch in hand, records are processed in a run (`Covered`), so a line that was
written outside a run came without a ticket (`Log.Traced`). A processor whose batches all have
tickets therefore never fails, and one that fails leaves only lines behind that belong to no run;
all others have been handed over (`Logbook.strays_of_reaches`).
-/

namespace LogPipeline

/-! ## Tickets -/

/-- Every batch that a distributor offers has a ticket, whatever is received, and whenever the open
run is ended. -/
theorem Distributor.ticketed_of_offer (d : Distributor) (s : Sequencer) (now deadline : Instant)
    (records : Batch) {b : OrderedBatch}
    (h : Delivery.offer b ∈ (d.receive now deadline records s).1.agenda
      ++ (d.tick now).agenda ++ (d.stop now).agenda) : b.run.isSome = true := by
  have hclosing : Delivery.offer b ∈ d.closing → b.run.isSome = true := by
    intro hb
    unfold closing at hb
    split at hb
    · obtain rfl : b = _ := by simpa using hb
      rfl
    · simp at hb
  rcases List.mem_append.1 h with h | h
  · rcases List.mem_append.1 h with h | h
    · simp only [receive] at h
      split at h
      · simp at h
      · split at h
        · obtain rfl : b = _ := by simpa using h
          rfl
        · obtain rfl : b = _ := by simpa using h
          rfl
    · simp only [tick] at h
      split at h
      · exact hclosing h
      · simp at h
  · rcases List.mem_append.1 h with h | h
    · exact hclosing h
    · simp at h

/-- The records are processed in a run, if a run is in hand before the first task as said. -/
def Covered : Bool → List Task → Prop
  | _, [] => True
  | _, .join _ :: l | _, .adopt _ :: l => Covered true l
  | held, .process _ :: l => held = true ∧ Covered held l
  | _, .finish :: l | _, .complete :: l => Covered false l
  | held, _ :: l => Covered held l

namespace Covered

variable {held : Bool} {now : Instant} {p p' : Processor} {s s' : Sequencer} {b b' : Books}

theorem emits {c : Option Chunk} {l : List Task} (h : Covered held l) :
    Covered held (c.toList.map Task.emit ++ l) := by
  rcases c with _ | c
  · exact h
  · exact h

theorem records (rs : Batch) {l : List Task} (h : Covered true l) :
    Covered true (rs.map Task.process ++ l) := by
  induction rs with
  | nil => exact h
  | cons r rs ih => exact ⟨rfl, ih⟩

theorem receive {batch : OrderedBatch} (deadline : Instant) (hb : batch.run.isSome = true) :
    Covered held (p.receive batch deadline).agenda := by
  obtain ⟨rs, run, isLast⟩ := batch
  obtain ⟨n, rfl⟩ := Option.isSome_iff_exists.1 hb
  change Covered true (rs.map Task.process ++ if isLast then [Task.finish] else [])
  refine records rs ?_
  cases isLast <;> trivial

theorem step (h : Covered p.run.isSome p.agenda) (hs : p.Step now s b p' s' b') :
    Covered p'.run.isSome p'.agenda := by
  cases hs with
  | filtered ha | unwritten ha =>
    rw [ha] at h
    exact h.2
  | joinFirst ha hr | adopt ha | hand ha | await ha | forwarded ha | forward ha | allow ha
  | refrain ha | cleared ha | clear ha | complete ha | fresh ha =>
    rw [ha] at h
    exact h
  | @joinSame l n ha hr =>
    rw [ha] at h
    have h : Covered true l := h
    simpa [hr] using h
  | joinOther ha hr =>
    rw [ha] at h
    exact h
  | written ha =>
    rw [ha] at h
    exact emits h.2
  | hold ha ht htasks =>
    rw [ha] at h
    rcases htasks with rfl | rfl <;> exact h
  | finish ha =>
    rw [ha] at h
    exact emits h
  | stale ha =>
    rw [ha] at h
    exact emits h
  | rest hl => exact h

end Covered

/-! ## One desk -/

/-- A record of a ticketed batch is processed in a run, and only a stop leads to a failure. -/
structure Log.Traced (log : Log) (d : Desk) : Prop where
  covered : (log.last.bind Job.ticket?).isSome = true →
    Covered d.processor.run.isSome d.processor.agenda
  receipts : ∀ e ∈ log.receipts, e.ticket.isSome = true → e.run.isSome = true
  stopping : Task.crash ∈ d.processor.agenda → log.last = some .stop

namespace Log.Traced

variable {g : Stages} {i : Nat} {s s' : Sequencer} {log log' : Log} {d d' : Desk}

theorem begun (h : log.Traced d) (now : Instant) (job : Job) :
    Traced { log with last := some job } (d.begin now job) := by
  cases job with
  | batch b timeout =>
    refine ⟨fun ht => Covered.receive _ ht, h.receipts, fun hc => ?_⟩
    simp only [Desk.begin, Processor.receive, List.mem_append, List.mem_map] at hc
    rcases hc with (⟨_, -, h⟩ | ⟨_, -, h⟩) | h
    · cases h
    · cases h
    · split at h <;> simp at h
  | tick => exact ⟨by simp [Job.ticket?], h.receipts, by simp [Desk.begin, Processor.tick]⟩
  | stop => exact ⟨by simp [Job.ticket?], h.receipts, fun _ => rfl⟩

/-- A chunk is handed over, or is on its way. -/
theorem hand (h : log.Traced d) {c : Chunk} {l : List Task} {p : Processor} {wakes : Instant}
    {handed : List Chunk}
    (ha : d.processor.agenda = .offer c :: l ∨ d.processor.agenda = .sending c :: l)
    (hr : p.run = d.processor.run) (hp : p.agenda = l ∨ p.agenda = .sending c :: l) :
    Traced { log with handed } { d with processor := p, wakes } := by
  refine ⟨fun ht => ?_, h.receipts, fun hc => h.stopping ?_⟩
  · have hcovered := h.covered ht
    rw [hr]
    rcases ha with ha | ha <;> rcases hp with hp | hp <;> rw [ha] at hcovered <;> rw [hp] <;>
      exact hcovered
  · rcases ha with ha | ha <;> rcases hp with hp | hp <;> simpa [ha, hp] using hc

theorem task (h : log.Traced d) {now : Instant} {b b' : Books} {p : Processor}
    (hstep : d.processor.Step now s b p s' b') :
    Traced
      { log with
        receipts := log.receipts ++ d.processor.reading?.toList.map fun r =>
          ⟨i, log.last.bind Job.ticket?, d.processor.run, r⟩ }
      { d with processor := p } := by
  refine ⟨fun ht => (h.covered ht).step hstep, fun e he ht => ?_, fun hc => ?_⟩
  · rcases List.mem_append.1 he with he | he
    · exact h.receipts e he ht
    · obtain ⟨r, hr, rfl⟩ := List.mem_map.1 he
      rw [Option.mem_toList] at hr
      obtain ⟨l, ha⟩ := Processor.agenda_of_reading hr
      have hcovered := h.covered ht
      rw [ha] at hcovered
      exact hcovered.1
  · rcases Processor.crash_mem_step hstep hc with rfl | ⟨t, l, ha, hl⟩
    · exact h.stopping hc
    · exact h.stopping (by rw [ha]; exact List.mem_cons_of_mem _ hl)

theorem change (h : log.Traced d) (hc : Log.Change now i s log d s' log' d') : log'.Traced d' := by
  cases hc with
  | others hs => exact h
  | given job hs => exact ⟨h.covered, h.receipts, h.stopping⟩
  | begun hb hj => exact h.begun now _
  | ended hb ha => exact ⟨h.covered, h.receipts, h.stopping⟩
  | failed hb ha => exact ⟨by simp, h.receipts, by simp⟩
  | asked hb ha hp =>
    rcases hp with rfl | rfl
    · exact h.hand (.inl ha) rfl (.inl (by simp [Processor.handedOver, Processor.next, ha]))
    · exact h.hand (.inl ha) rfl (.inr (by simp [Processor.asking, Processor.next, ha]))
  | accepted hb ha =>
    exact h.hand (.inr ha) rfl (.inl (by simp [Processor.handedOver, Processor.next, ha]))
  | task hb hns htodo hstep => exact h.task hstep

end Log.Traced

/-! ## All desks -/

/-- A failure is noted only of a processor that is about to fail. -/
theorem Desks.crash_of_failures {x : Desks} {i : Nat} {d : Desk} (hd : x.desks[i]? = some d)
    (h : (x.act i).failures ≠ x.failures) :
    d.busy = true ∧ ∃ l, d.processor.agenda = .crash :: l := by
  rcases hb : d.busy with _ | _
  · rcases act_idle hd hb with ⟨-, ha⟩ | ⟨_, _, -, ha⟩ <;> exact absurd (by rw [ha]) h
  refine ⟨rfl, ?_⟩
  by_contra hc
  rcases act_busy hd hb (not_exists.1 hc) with
    ⟨-, ha⟩ | ⟨_, _, _, _, _, -, -, ha⟩ | ⟨_, _, -, ha | ha⟩ | ⟨-, -, ha⟩ <;>
    exact absurd (by rw [ha]) h

/-- A processor that is about to fail holds nothing back, and what it leaves behind was written
outside the runs and for batches without a ticket. All lines before that have been handed over. -/
structure Log.Stranded (g : Stages) (log : Log) (d : Desk) : Prop where
  stopping : log.last = some .stop
  run : d.processor.run = none
  pending : d.processor.pending = []
  lines : ∃ sent kept, log.receipts = sent ++ kept
    ∧ joined (log.handed.map Chunk.data) = joined (sent.filterMap (·.line? g))
    ∧ d.processor.maker.buffer = joined (kept.filterMap (·.line? g))
    ∧ (∀ e ∈ kept, e.ticket = none ∧ e.run = none)
    ∧ ∃ e ∈ kept, ∃ line, e.line? g = some line ∧ line.size ≠ 0

theorem exists_size_of_joined {lines : List ByteArray} (h : 0 < (joined lines).size) :
    ∃ line ∈ lines, line.size ≠ 0 := by
  induction lines with
  | nil => simp at h
  | cons line lines ih =>
    by_cases hl : line.size = 0
    · obtain ⟨k, hk, hs⟩ := ih (by simpa [ByteArray.size_append, hl] using h)
      exact ⟨k, List.mem_cons_of_mem _ hk, hs⟩
    · exact ⟨line, List.mem_cons_self, hl⟩

theorem Log.Traced.stranded {g : Stages} {s : Sequencer} {log : Log} {d : Desk} (h : log.Traced d)
    (ha : log.Agrees g s d) {l : List Task} (hc : d.processor.agenda = .crash :: l) :
    log.Stranded g d := by
  obtain ⟨rfl, hrun, hm⟩ := ha.doomed.eq hc
  have hpending : d.processor.pending = [] := by
    simpa [Processor.stance] using (ha.plain.proper (by simp [Processor.stance, hrun])).1
  obtain ⟨sent, kept, hreceipts, hout, hbuffer, hloose⟩ := ha.stored
  have hu : d.unasked = [] := by
    simp [Desk.unasked, Processor.isSending, Processor.chunks, Processor.front, Processor.back, hc,
      hpending, List.filterMap_cons, Task.chunk?]
  rw [hu, List.append_nil] at hout
  refine ⟨h.stopping (by simp [hc]), hrun, hpending, sent, kept, hreceipts, hout.symm, hbuffer.symm,
    fun e he => ?_, ?_⟩
  · have hr := hloose hrun e he
    refine ⟨?_, hr⟩
    by_contra ht
    have := h.receipts e (hreceipts ▸ List.mem_append_right _ he) (Option.ne_none_iff_isSome.1 ht)
    simp [hr] at this
  · have hsize : 0 < (joined (kept.filterMap (·.line? g))).size := by
      rw [hbuffer]
      simpa [ChunkMaker.hasPending] using hm
    obtain ⟨line, hline, hs⟩ := exists_size_of_joined hsize
    obtain ⟨e, he, hl⟩ := List.mem_filterMap.1 hline
    exact ⟨e, he, line, hl, hs⟩

namespace Logbook

variable {x : Logbook}

/-- A processor that is only given batches with tickets, as a distributor sends them, never fails:
outside a run it holds nothing. In any case a failure leaves only lines behind that belong to no
run. -/
theorem strays_of_reaches {names : List String} {stages : Stages} {settings : ProcessingSettings}
    {sendTimeout acceptTime : Nat} {books : Books}
    (h : Relation.ReflTransGen Move (start names stages settings sendTimeout acceptTime books) x)
    {i : Nat} {d : Desk} (hd : x.desks.desks[i]? = some d) :
    ((∀ job ∈ (x.log i).given, job.Ticketed) →
      (x.desks.act i).failures = x.desks.failures
        ∧ (d.processor.run = none →
          d.processor.pending = [] ∧ d.processor.maker.hasPending = false))
    ∧ ((x.desks.act i).failures ≠ x.desks.failures → (x.log i).Stranded stages d)
    ∧ ∀ (a : Distributor) (s : Sequencer) (now deadline : Instant) (records : Batch)
        (b : OrderedBatch) (timeout : Nat),
      Delivery.offer b ∈ (a.receive now deadline records s).1.agenda
        ++ (a.tick now).agenda ++ (a.stop now).agenda → (Job.batch b timeout).Ticketed := by
  have hagrees := (inv_of_reaches h).agrees i d hd
  have htraced : (x.log i).Traced d := by
    refine desk_of_reaches (P := fun _ _ log d => log.Traced d) (fun i name => ?_)
      (fun _ _ _ _ _ _ _ _ _ _ ht hc => ht.change hc) h i d hd
    exact ⟨by simp, by simp, by simp [Processor.new]⟩
  refine ⟨fun hgiven => ?_, fun hf => ?_, fun a s now deadline records b timeout hb => ?_⟩
  · have hsound := hagrees.sound true fun _ => hgiven
    refine ⟨?_, fun hrun => ?_⟩
    · by_contra hf
      obtain ⟨-, l, hc⟩ := Desks.crash_of_failures hd hf
      exact hsound.no_crash l hc
    · obtain ⟨hchunks, hm⟩ := hsound.chunks_of_run hrun
      simp only [Processor.chunks, List.append_eq_nil_iff] at hchunks
      exact ⟨hchunks.1.2, hm⟩
  · obtain ⟨-, l, hc⟩ := Desks.crash_of_failures hd hf
    exact htraced.stranded hagrees hc
  · rintro b' t ⟨rfl, -⟩
    exact a.ticketed_of_offer s now deadline records hb

/-- After the batch of a run and a tick, a stop finds nothing that belongs to no run. If a batch
without a ticket came after the run, the stop finds its line. -/
theorem strays_of_late_batch :
    let x₀ := start ["a"] (.standard ⟨["name"]⟩ []) {} 10 0 {}
    (∃ x d, Relation.ReflTransGen Move x₀ x ∧ x.desks.desks = [d]
      ∧ x.receipts.length = 1 ∧ (x.log 0).last = some .stop
      ∧ (x.desks.act 0).failures = x.desks.failures
      ∧ d.processor.run = none ∧ d.processor.pending = [] ∧ d.processor.maker.hasPending = false)
    ∧ ∃ x d, Relation.ReflTransGen Move x₀ x ∧ x.desks.desks = [d]
      ∧ x.receipts.length = 2 ∧ (x.desks.act 0).failures ≠ x.desks.failures
      ∧ (x.log 0).Stranded (.standard ⟨["name"]⟩ []) d := by
  intro x₀
  have hsafe : ∀ x : Logbook, Relation.ReflTransGen Move x₀ x →
      x.desks.desks.map (·.processor.run) = [none] → (∀ job ∈ (x.log 0).given, job.Ticketed) →
      ∃ d, x.desks.desks = [d] ∧ (x.desks.act 0).failures = x.desks.failures
        ∧ d.processor.run = none ∧ d.processor.pending = []
        ∧ d.processor.maker.hasPending = false := by
    intro x h hruns hgiven
    obtain ⟨d, hd, hrun⟩ := List.map_eq_singleton_iff.1 hruns
    obtain ⟨hnone, hempty⟩ := (strays_of_reaches h (i := 0) (d := d) (by rw [hd]; rfl)).1 hgiven
    exact ⟨d, hd, hnone, hrun, hempty hrun⟩
  have hlost : ∀ x : Logbook, Relation.ReflTransGen Move x₀ x → x.desks.desks.length = 1 →
      (x.desks.act 0).failures ≠ x.desks.failures →
      ∃ d, x.desks.desks = [d] ∧ (x.log 0).Stranded (.standard ⟨["name"]⟩ []) d := by
    intro x h hlength hf
    obtain ⟨d, hd⟩ := List.length_eq_one_iff.1 hlength
    exact ⟨d, hd, (strays_of_reaches h (i := 0) (d := d) (by rw [hd]; rfl)).2.1 hf⟩
  have h₁ : Relation.ReflTransGen Move x₀ _ := .tail .refl (.issue "t")
  have h₂ := h₁.tail (.batch 0 (some "t") [{}] true 10 (by decide))
  -- the stop has been taken up
  have h₃ := h₂.tail (.tick 0) |>.tail (.stop 0) |>.trans (reaches_acts (.replicate 16 0) _)
  have h₄ := h₂.tail (.batch 0 none [{}] false 10 (by decide)) |>.tail (.stop 0)
    |>.trans (reaches_acts (.replicate 15 0) _)
  obtain ⟨d, hd, hsafe⟩ := hsafe _ h₃ (by decide) (by decide)
  obtain ⟨d', hd', hlost⟩ := hlost _ h₄ (by decide) (by decide)
  exact ⟨⟨_, d, h₃, hd, by decide, by decide, hsafe⟩, ⟨_, d', h₄, hd', by decide, by decide, hlost⟩⟩

end Logbook

end LogPipeline
