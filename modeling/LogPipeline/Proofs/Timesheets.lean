import LogPipeline.Proofs.Ages
import LogPipeline.Proofs.Logbooks
import LogPipeline.Proofs.Streams

/-!
# How long lines wait in a chunk

A timesheet is a logbook in which each receipt has its time. A processor knows when the first line
of the chunk being built was written, since every task that writes a line or completes a chunk says
so (`Processor.Dates.step`). A tick hands over what is held back if it is the run's turn, and
flushes a chunk whose first line has waited for the flush interval (`Processor.Ticking.step`). So
nothing is left that has waited that long when a tick has returned, whatever the other processors do
meanwhile (`Timesheet.fresh_of_tick`).
-/

namespace LogPipeline

open Relation

/-! ## The chunk being built -/

theorem IsLine.size_ne {line : ByteArray} (h : IsLine line) : line.size ≠ 0 := by
  obtain ⟨m, hm, -⟩ := h
  intro hz
  rw [ByteArray.size_eq_zero_iff] at hz
  rw [hz] at hm
  exact List.append_ne_nil_of_right_ne_nil m (List.cons_ne_nil _ _) hm.symm

/-- What a tick at time `t` may have to do. -/
def Task.OfTick (t : Instant) : Task → Prop
  | forwardInTurn | emit _ | awaitTurn | forward | offer _ | sending _ => True
  | flushStale t' => t' = t
  | _ => False

namespace Processor

variable {now now' t : Instant} {p p' : Processor} {s s' : Sequencer} {b b' : Books}
  {log recent : List (ByteArray × Instant)}

/-- Of the lines written so far, each with its time, the last ones are in the chunk being built, and
the processor knows when the first of these was written. -/
structure Dates (now : Instant) (log recent : List (ByteArray × Instant)) (p : Processor) : Prop
    extends Lingers now log recent p.bufferedSince where
  buffer : p.maker.buffer = joined (recent.map Prod.fst)
  records : p.maker.records = recent.length
  full : ∀ e ∈ recent, e.1.size ≠ 0

theorem Dates.congr (h : p.Dates now log recent) (hm : p'.maker = p.maker)
    (hs : p'.bufferedSince = p.bufferedSince) : p'.Dates now log recent :=
  ⟨hs ▸ h.toLingers, hm ▸ h.buffer, hm ▸ h.records, h.full⟩

theorem Dates.later (h : p.Dates now log recent) (ht : now ≤ now') : p.Dates now' log recent :=
  ⟨h.toLingers.later ht, h.buffer, h.records, h.full⟩

theorem dates_nil (hm : p.maker.buffer = .empty ∧ p.maker.records = 0)
    (hs : p.bufferedSince = none) (now : Instant) (log : List (ByteArray × Instant)) :
    p.Dates now log [] := ⟨hs ▸ lingers_nil now log, hm.1, hm.2, List.forall_mem_nil _⟩

/-- The time is known exactly while a chunk is being built. -/
theorem Dates.since_iff (h : p.Dates now log recent) :
    p.bufferedSince ≠ none ↔ p.maker.hasPending = true := by
  have hpacked : Packed [] p.maker [] (recent.map Prod.fst) :=
    ⟨.nil, h.buffer, List.forall_mem_map.2 h.full⟩
  rw [hpacked.hasPending_iff, h.oldest]
  cases recent <;> simp

/-- A flush leaves no line behind. -/
theorem Dates.flush (h : p.Dates now log recent) (hm : p'.maker = p.maker.flush.2)
    (hs : p'.bufferedSince = none
      ∨ p'.bufferedSince = if p.maker.flush.1.isSome then none else p.bufferedSince) :
    ∃ recent, p'.Dates now log recent := by
  rw [ChunkMaker.isSome_flush] at hs
  rcases hp : p.maker.hasPending with _ | _
  · have hold : p.bufferedSince = none := by
      by_contra hne
      exact Bool.noConfusion (hp.symm.trans (h.since_iff.1 hne))
    refine ⟨recent, h.congr ?_ ?_⟩
    · rw [hm, ChunkMaker.flush, hp]
      rfl
    · rcases hs with hs | hs
      · rw [hs, hold]
      · rw [hs, hp]
        rfl
  · refine ⟨[], dates_nil ?_ ?_ now log⟩
    · rw [hm, ChunkMaker.flush, hp]
      exact ⟨rfl, rfl⟩
    · rcases hs with hs | hs
      · exact hs
      · rw [hs, hp]
        rfl

/-- A line is added to the chunk, or is the first of a new one. -/
theorem Dates.write (h : p.Dates now log recent) {line : ByteArray} (hl : line.size ≠ 0)
    (hm : p'.maker = (p.maker.write line).2)
    (hs : p'.bufferedSince =
      if (p.maker.write line).1.isSome || p.bufferedSince.isNone then some now
      else p.bufferedSince) : ∃ recent, p'.Dates now (log ++ [(line, now)]) recent := by
  unfold ChunkMaker.write at hm hs
  split at hm
  · rename_i hfull
    rw [if_pos hfull] at hs
    refine ⟨[(line, now)], ?_, ?_, ?_, ?_⟩
    · rw [hs]
      exact lingers_last now log line
    · rw [hm]
      simp [ChunkMaker.added, ChunkMaker.emptied]
    · rw [hm]
      rfl
    · simpa using hl
  · rename_i hfull
    rw [if_neg hfull] at hs
    refine ⟨recent ++ [(line, now)], ?_, ?_, ?_, ?_⟩
    · have hnone : p.bufferedSince.isNone = recent.isEmpty := by
        rw [h.oldest]
        cases recent <;> rfl
      rw [hs, hnone]
      exact h.toLingers.push line
    · rw [hm]
      simp [ChunkMaker.added, h.buffer]
    · rw [hm]
      simp [ChunkMaker.added, h.records]
    · intro e he
      rcases List.mem_append.1 he with he | he
      · exact h.full e he
      · rw [List.mem_singleton.1 he]
        exact hl

/-- What a task writes is noted with the time. -/
theorem Dates.step (h : p.Dates now log recent) (hg : p.stages.Proper)
    (hs : Step now p s b p' s' b') :
    ∃ recent, p'.Dates now (log ++ p.line?.toList.map (·, now)) recent := by
  have hsame : p.line? = none → p'.maker = p.maker → p'.bufferedSince = p.bufferedSince →
      ∃ recent, p'.Dates now (log ++ p.line?.toList.map (·, now)) recent := fun hl hm hs => by
    rw [hl]
    exact ⟨recent, by simpa using h.congr hm hs⟩
  cases hs with
  | written ha hv hw hs =>
    rename_i l r r' line since
    have hl : p.line? = some line := by simp [line?, ha, Stages.line?, hv, hw]
    obtain ⟨line', hw', hline⟩ := hg r'
    obtain rfl := Option.some.inj (hw'.symm.trans hw)
    rw [hl]
    exact h.write hline.size_ne rfl hs
  | unwritten ha hv hw => exact hsame (by simp [line?, ha, Stages.line?, hv, hw]) rfl rfl
  | filtered ha hv => exact hsame (by simp [line?, ha, Stages.line?, hv]) rfl rfl
  | finish ha hs =>
    have hl : p.line? = none := by simp [line?, ha]
    rw [hl]
    simpa using h.flush rfl (.inr hs)
  | stale ha =>
    have hl : p.line? = none := by simp [line?, ha]
    rw [hl]
    simpa using h.flush rfl (.inl rfl)
  | rest hl => exact hsame hl rfl rfl
  | hand ha | allow ha => exact hsame (by simp [line?, ha]) rfl rfl
  | joinFirst ha | joinSame ha | joinOther ha | adopt ha | hold ha | await ha | forwarded ha
  | forward ha | refrain ha | cleared ha | clear ha | complete ha | fresh ha =>
    exact hsame (by simp [line?, ha]) rfl rfl

theorem interval_step (hs : Step now p s b p' s' b') : p'.flushInterval = p.flushInterval := by
  cases hs <;> rfl

/-! ## Ticks -/

/-- Chunks of the run, or of none, may be handed over. -/
def InTurn (s : Sequencer) (run : Option Nat) : Prop := ∀ n, run = some n → s.isTurn n = true

theorem InTurn.mono {run : Option Nat} (h : InTurn s run) (hs : s.next ≤ s'.next) :
    InTurn s' run := fun n hn =>
  Sequencer.isTurn_iff.2 (Nat.le_trans (Sequencer.isTurn_iff.1 (h n hn)) hs)

/-- A processor that is being ticked at time `t`, with the run that it has in hand. The chunk being
built is not old, or will be looked at yet. If the run had its turn at that time, nothing is held
back, or it will be handed over yet. -/
structure Ticking (t : Instant) (run : Option Nat) (early : Prop) (s : Sequencer) (p : Processor) :
    Prop where
  tasks : ∀ u ∈ p.agenda, u.OfTick t
  same : p.run = run
  stale : .flushStale t ∈ p.agenda
    ∨ ∀ since, p.bufferedSince = some since → t - since < p.flushInterval
  turn : early → InTurn s run
    ∧ (p.pending = [] ∨ .forwardInTurn ∈ p.agenda ∨ .forward ∈ p.agenda)

variable {run : Option Nat} {early : Prop} {u : Task} {k l : List Task}

theorem ticking_tick (t : Instant) (s : Sequencer) (p : Processor) :
    (p.tick t).Ticking t p.run (InTurn s p.run) s := by
  refine ⟨fun u hu => ?_, rfl, .inl (by simp [Processor.tick]), fun hn => ⟨hn, .inr (.inl ?_)⟩⟩
  · obtain rfl | rfl : u = .forwardInTurn ∨ u = .flushStale t := by
      simpa [Processor.tick] using hu
    · trivial
    · rfl
  · simp [Processor.tick]

theorem Ticking.mono (h : p.Ticking t run early s) (hs : s.next ≤ s'.next) :
    p.Ticking t run early s' :=
  ⟨h.tasks, h.same, h.stale, fun he => ⟨(h.turn he).1.mono hs, (h.turn he).2⟩⟩

/-- The first task is replaced by others. -/
theorem Ticking.next (h : p.Ticking t run early s) (ha : p.agenda = u :: l)
    (hl : p'.agenda = k ++ l) (ht : ∀ w ∈ k, w.OfTick t) (hr : p'.run = p.run)
    (hstale : p'.bufferedSince = none ∨ p'.bufferedSince = p.bufferedSince
      ∧ p'.flushInterval = p.flushInterval
      ∧ (u = .flushStale t → ∀ since, p.bufferedSince = some since → t - since < p.flushInterval))
    (hturn : InTurn s run → p'.pending = [] ∨ .forward ∈ k
      ∨ p'.pending = p.pending ∧ u ≠ .forwardInTurn ∧ u ≠ .forward) :
    p'.Ticking t run early s := by
  have hold : ∀ w ∈ p.agenda, u ≠ w → w ∈ p'.agenda := fun w hw hne => by
    rw [ha] at hw
    rw [hl]
    exact List.mem_append_right _ ((List.mem_cons.1 hw).resolve_left hne.symm)
  refine ⟨fun w hw => ?_, hr.trans h.same, ?_, fun he => ⟨(h.turn he).1, ?_⟩⟩
  · rw [hl] at hw
    rcases List.mem_append.1 hw with hw | hw
    · exact ht w hw
    · exact h.tasks w (ha ▸ List.mem_cons_of_mem _ hw)
  · rcases hstale with hnone | ⟨hs, hi, hu⟩
    · exact .inr fun since hsince => nomatch hnone.symm.trans hsince
    · rw [hs, hi]
      by_cases hu' : u = .flushStale t
      · exact .inr (hu hu')
      · exact h.stale.imp_left fun hw => hold _ hw hu'
  · rcases hturn (h.turn he).1 with hp | hf | ⟨hp, hne, hne'⟩
    · exact .inl hp
    · exact .inr (.inr (hl ▸ List.mem_append_left _ hf))
    · rw [hp]
      exact (h.turn he).2.imp_right fun hw => hw.imp (hold _ · hne) (hold _ · hne')

theorem Ticking.step (h : p.Ticking t run early s) (hs : Step now p s b p' s' b') :
    p'.Ticking t run early s' := by
  have hof : ∀ {u l}, p.agenda = u :: l → u.OfTick t := fun ha =>
    h.tasks _ (ha ▸ List.mem_cons_self)
  have hturn : InTurn s run → p.inTurn s = true := fun hn => by
    unfold inTurn
    split
    · rfl
    · rename_i n hr
      rw [hn n (h.same.symm.trans hr), Bool.or_true]
  cases hs with
  | hand ha =>
    exact h.next ha (k := [.forward, .offer _]) rfl (by simp [Task.OfTick]) rfl
      (.inr ⟨rfl, rfl, by simp⟩) fun _ => .inr (.inl (by simp))
  | @hold l c tasks ha ht htasks =>
    refine h.next ha (k := tasks) rfl ?_ rfl (.inr ⟨rfl, rfl, by simp⟩) fun hn => ?_
    · rcases htasks with rfl | rfl <;> simp [Task.OfTick]
    · exact absurd (hturn hn) (by simp [ht])
  | await ha =>
    exact h.next ha (k := []) rfl (by simp) rfl (.inr ⟨rfl, rfl, by simp⟩)
      fun _ => .inr (.inr ⟨rfl, by simp⟩)
  | forwarded ha hp =>
    exact h.next ha (k := []) rfl (by simp) rfl (.inr ⟨rfl, rfl, by simp⟩) fun _ => .inl hp
  | forward ha hp =>
    exact h.next ha (k := [.offer _, .forward]) rfl (by simp [Task.OfTick]) rfl
      (.inr ⟨rfl, rfl, by simp⟩) fun _ => .inr (.inl (by simp))
  | allow ha ht =>
    exact h.next ha (k := [.forward]) rfl (by simp [Task.OfTick]) rfl
      (.inr ⟨rfl, rfl, by simp⟩) fun _ => .inr (.inl (by simp))
  | refrain ha hp =>
    refine h.next ha (k := []) rfl (by simp) rfl (.inr ⟨rfl, rfl, by simp⟩) fun hn => .inl ?_
    exact hp.resolve_right fun hf => absurd (hturn hn) (by simp [hf])
  | fresh ha hf =>
    obtain rfl := hof ha
    exact h.next ha (k := []) rfl (by simp) rfl (.inr ⟨rfl, rfl, fun _ => hf⟩)
      fun _ => .inr (.inr ⟨rfl, by simp⟩)
  | stale ha =>
    refine h.next ha rfl (fun w hw => ?_) rfl (.inl rfl) fun _ => .inr (.inr ⟨rfl, by simp⟩)
    obtain ⟨c, -, rfl⟩ := List.mem_map.1 hw
    trivial
  | rest => exact h
  | joinFirst ha | joinSame ha | joinOther ha | adopt ha | filtered ha | unwritten ha | written ha
  | finish ha | cleared ha | clear ha | complete ha => exact (hof ha).elim

/-- A tick leaves nothing to do, no chunk that is old, and in turn nothing held back. -/
theorem Ticking.done (h : p.Ticking t run early s) (ha : p.agenda = []) :
    (∀ since, p.bufferedSince = some since → t - since < p.flushInterval)
      ∧ (early → p.pending = []) := by
  refine ⟨h.stale.resolve_left fun hw => ?_, fun he => (h.turn he).2.resolve_right fun hw => ?_⟩
  · simp [ha] at hw
  · simp [ha] at hw

/-! ## Jobs -/

theorem line?_eq (p : Processor) : p.line? = p.reading?.bind p.stages.line? := by
  rcases ha : p.agenda with _ | ⟨u, l⟩
  · simp [line?, reading?, ha]
  · cases u <;> simp [line?, reading?, ha, Task.record?]

theorem interval_stop (t : Instant) (p : Processor) :
    (p.stop t).flushInterval = p.flushInterval := by
  unfold Processor.stop
  dsimp only
  split
  · rfl
  · split
    · rfl
    · split <;> rfl

theorem Dates.stop (h : p.Dates now log recent) (t : Instant) :
    ∃ recent, (p.stop t).Dates now log recent := by
  unfold Processor.stop
  dsimp only
  split
  · exact ⟨recent, h.congr rfl rfl⟩
  · split
    · exact ⟨recent, h.congr rfl rfl⟩
    · split
      · exact ⟨recent, h.congr rfl rfl⟩
      · exact h.flush rfl (.inl rfl)

end Processor

namespace Log.Change

variable {now t : Instant} {i : Nat} {s s' : Sequencer} {log log' : Log} {d d' : Desk}
  {g : Stages} {written recent : List (ByteArray × Instant)} {run : Option Nat} {early : Prop}

/-- The lines that were written are noted with the time. -/
theorem dates (hc : Log.Change now i s log d s' log' d') (hg : g.Proper)
    (hs : d.processor.stages = g) (h : d.processor.Dates now written recent) :
    d'.processor.flushInterval = d.processor.flushInterval
      ∧ ∃ recent, d'.processor.Dates now
        (written ++ ((log'.receipts.drop log.receipts.length).filterMap (·.line? g)).map (·, now))
        recent := by
  have hsame : ∀ {recent}, d'.processor.Dates now written recent → log'.receipts = log.receipts →
      ∃ recent, d'.processor.Dates now
        (written ++ ((log'.receipts.drop log.receipts.length).filterMap (·.line? g)).map (·, now))
        recent := fun h hl => by
    rw [hl, List.drop_length]
    exact ⟨_, by simpa using h⟩
  cases hc with
  | task _ _ _ hstep =>
    have hline : (d.processor.reading?.toList.map fun r => (⟨i, log.last.bind Job.ticket?,
        d.processor.run, r⟩ : Receipt)).filterMap (·.line? g) = d.processor.line?.toList := by
      rw [d.processor.line?_eq, hs]
      cases d.processor.reading? with
      | none => rfl
      | some r => cases hr : g.line? r <;> simp [Receipt.line?, hr]
    rw [List.drop_left, hline]
    exact ⟨Processor.interval_step hstep, h.step (hs ▸ hg) hstep⟩
  | @begun job rest hb hj =>
    cases job with
    | batch b timeout => exact ⟨rfl, hsame (h.congr rfl rfl) rfl⟩
    | tick => exact ⟨rfl, hsame (h.congr rfl rfl) rfl⟩
    | stop =>
      obtain ⟨recent, hstop⟩ := h.stop now
      exact ⟨d.processor.interval_stop now, hsame hstop rfl⟩
  | asked _ ha hp =>
    rcases hp with rfl | rfl
    · exact ⟨rfl, hsame (h.congr rfl rfl) rfl⟩
    · exact ⟨rfl, hsame (h.congr rfl rfl) rfl⟩
  | others | given | ended | failed | accepted => exact ⟨rfl, hsame (h.congr rfl rfl) rfl⟩

theorem ticking (hc : Log.Change now i s log d s' log' d') (hb : d.busy = true)
    (h : d.processor.Ticking t run early s) : d'.processor.Ticking t run early s' := by
  have htasks : ∀ {u l}, d.processor.agenda = u :: l → u.OfTick t := fun ha =>
    h.tasks _ (ha ▸ List.mem_cons_self)
  cases hc with
  | others hs => exact h.mono hs.next_le
  | given job hs => exact h.mono hs.next_le
  | begun hb' => exact Bool.noConfusion (hb.symm.trans hb')
  | ended => exact h
  | failed _ ha => exact (htasks ha).elim
  | asked _ ha hp =>
    rcases hp with rfl | rfl
    · exact h.next ha (k := []) (by simp [Processor.handedOver, Processor.next, ha]) (by simp) rfl
        (.inr ⟨rfl, rfl, by simp⟩) fun _ => .inr (.inr ⟨rfl, by simp⟩)
    · exact h.next ha (k := [.sending _]) (by simp [Processor.asking, Processor.next, ha]; rfl)
        (by simp [Task.OfTick]) rfl (.inr ⟨rfl, rfl, by simp⟩)
        fun _ => .inr (.inr ⟨rfl, by simp⟩)
  | accepted _ ha =>
    exact h.next ha (k := []) (by simp [Processor.handedOver, Processor.next, ha]) (by simp) rfl
      (.inr ⟨rfl, rfl, by simp⟩) fun _ => .inr (.inr ⟨rfl, by simp⟩)
  | task _ _ _ hstep => exact h.step hstep

end Log.Change

/-! ## Timesheets -/

/-- A logbook in which the receipts of each desk are noted with their times. -/
structure Timesheet where
  book : Logbook
  noted : Nat → List (Receipt × Instant) := fun _ => []

namespace Timesheet

variable {x y : Timesheet} {g : Stages} {i : Nat} {d d' : Desk}

def now (x : Timesheet) : Instant := x.book.desks.now

/-- The lines that desk `i` has written, each with its time. -/
def written (g : Stages) (i : Nat) (x : Timesheet) : List (ByteArray × Instant) :=
  (x.noted i).filterMap fun e => (e.1.line? g).map (·, e.2)

/-- The logbook has got to this, and what is new in it is noted with the time. -/
def next (b : Logbook) (x : Timesheet) : Timesheet where
  book := b
  noted i := x.noted i ++ ((b.log i).receipts.drop (x.book.log i).receipts.length).map (·, x.now)

/-- A move of anybody, while the clock goes forward. -/
inductive Move (x : Timesheet) : Timesheet → Prop where
  | mk {b : Logbook} (hm : x.book.Move b) (hn : x.now ≤ b.desks.now) : Move x (x.next b)

/-- Processor `i` is at its job. -/
def IsBusy (i : Nat) (x : Timesheet) : Prop := ∃ d ∈ x.book.desks.desks[i]?, d.busy = true

instance (i : Nat) (x : Timesheet) : Decidable (x.IsBusy i) :=
  inferInstanceAs (Decidable (∃ d ∈ x.book.desks.desks[i]?, d.busy = true))

/-- A move while processor `i` is at its job. -/
def Wait (i : Nat) (x y : Timesheet) : Prop := x.IsBusy i ∧ Move x y

theorem written_next (b : Logbook) :
    (x.next b).written g i = x.written g i
      ++ (((b.log i).receipts.drop (x.book.log i).receipts.length).filterMap (·.line? g)).map
        (·, x.now) := by
  simp only [written, next, List.filterMap_append, List.filterMap_map, List.map_filterMap]
  rfl

/-- Every processor knows since when it has been building its chunk. -/
structure Sound (g : Stages) (interval : Nat) (x : Timesheet) : Prop where
  book : x.book.Inv g
  dates : ∀ (i : Nat) (d : Desk), x.book.desks.desks[i]? = some d →
    d.processor.flushInterval = interval ∧ ∃ recent, d.processor.Dates x.now (x.written g i) recent

theorem Sound.move {interval : Nat} (h : x.Sound g interval) (hg : g.Proper) (hm : Move x y) :
    y.Sound g interval := by
  obtain ⟨hm, hn⟩ := hm
  refine ⟨h.book.move hm, fun i d' hd' => ?_⟩
  obtain ⟨d, hd, hc⟩ := (h.book.changes hm).2 i d' hd'
  obtain ⟨hi, recent, hdates⟩ := h.dates i d hd
  obtain ⟨hi', recent', hdates'⟩ := hc.dates hg (h.book.agrees i d hd).stages hdates
  rw [written_next]
  exact ⟨hi'.trans hi, recent', hdates'.later hn⟩

theorem sound_start (names : List String) (stages : Stages) (settings : ProcessingSettings)
    (sendTimeout acceptTime : Nat) (books : Books) :
    Sound stages settings.chunkFlushInterval
      { book := .start names stages settings sendTimeout acceptTime books } := by
  refine ⟨Logbook.inv_of_reaches .refl, fun i d hd => ?_⟩
  obtain ⟨name, rfl⟩ := Logbook.desk_start hd
  exact ⟨rfl, [], Processor.dates_nil ⟨rfl, rfl⟩ rfl _ _⟩

theorem sound_reaches {names : List String} {stages : Stages} {settings : ProcessingSettings}
    {sendTimeout acceptTime : Nat} {books : Books} (hg : stages.Proper)
    (hr : ReflTransGen Move
      { book := .start names stages settings sendTimeout acceptTime books } x) :
    x.Sound stages settings.chunkFlushInterval := by
  induction hr with
  | refl => exact sound_start ..
  | tail _ hm ih => exact ih.move hg hm

/-- Processor `i` is at a tick of time `t`, or has returned from it. -/
def AtTick (i : Nat) (t : Instant) (run : Option Nat) (early : Prop) (x : Timesheet) : Prop :=
  ∀ d, x.book.desks.desks[i]? = some d →
    d.processor.Ticking t run early x.book.desks.sequencer

section

variable {rest : List Job} {t : Instant} {run : Option Nat} {early : Prop} {interval : Nat}

/-- A tick that is the next job of a desk begins. -/
theorem atTick_act (hd : x.book.desks.desks[i]? = some d) (hb : d.busy = false)
    (hj : d.jobs = .tick :: rest) :
    Move x (x.next (x.book.act i)) ∧ (x.next (x.book.act i)).AtTick i x.now d.processor.run
      (Processor.InTurn x.book.desks.sequencer d.processor.run) := by
  have hact : (x.book.act i).desks = { x.book.desks with
      desks := x.book.desks.desks.set i (d.begin x.now .tick) } := by
    rw [Logbook.desks_act hd]
    rcases Desks.act_idle hd hb with ⟨hnil, -⟩ | ⟨job, rest', hj', ha⟩
    · exact nomatch hj.symm.trans hnil
    · obtain ⟨rfl, -⟩ := List.cons.inj (hj.symm.trans hj')
      exact ha
  refine ⟨⟨.act i, ?_⟩, fun e he => ?_⟩
  · rw [hact]
    exact Nat.le_refl _
  · change (x.book.act i).desks.desks[i]? = some e at he
    change e.processor.Ticking _ _ _ (x.book.act i).desks.sequencer
    rw [hact] at he ⊢
    obtain rfl := Option.some.inj ((List.getElem?_set_self (Desks.lt_of_desk hd)).symm.trans he)
    exact Processor.ticking_tick _ _ _

theorem AtTick.wait (ht : x.AtTick i t run early) (h : x.Sound g interval) (hw : Wait i x y) :
    y.AtTick i t run early := by
  obtain ⟨⟨d, hd, hbusy⟩, hm, -⟩ := hw
  intro d' hd'
  obtain ⟨d₀, hd₀, hc⟩ := (h.book.changes hm).2 i d' hd'
  obtain rfl := Option.some.inj (hd₀.symm.trans hd)
  exact hc.ticking hbusy (ht d₀ hd₀)

theorem AtTick.waits (ht : x.AtTick i t run early) (h : x.Sound g interval) (hg : g.Proper)
    (hw : ReflTransGen (Wait i) x y) : y.Sound g interval ∧ y.AtTick i t run early := by
  induction hw with
  | refl => exact ⟨h, ht⟩
  | tail _ hw ih => exact ⟨ih.1.move hg hw.2, ih.2.wait ih.1 hw⟩

end

/-- When a tick of a processor at time `t` has returned, no line is left in the chunk being built
that was written the flush interval or longer before `t`, and nothing is held back if the run had
its turn at `t` or there is none. -/
theorem fresh_of_tick {names : List String} {schema : Schema} {rules : List Rule}
    {settings : ProcessingSettings} {sendTimeout acceptTime : Nat} {books : Books}
    (hr : ReflTransGen Move
      { book := .start names (.standard schema rules) settings sendTimeout acceptTime books } x)
    (hd : x.book.desks.desks[i]? = some d) (hb : d.busy = false) {rest : List Job}
    (hj : d.jobs = .tick :: rest) (hw : ReflTransGen (Wait i) (x.next (x.book.act i)) y)
    (hd' : y.book.desks.desks[i]? = some d') (hb' : d'.busy = false) :
    let p := d'.processor
    (∃ past recent, y.written (.standard schema rules) i = past ++ recent
        ∧ p.maker.buffer = joined (recent.map Prod.fst) ∧ p.maker.records = recent.length
        ∧ p.bufferedSince = recent.head?.map Prod.snd
        ∧ ∀ e ∈ recent, x.now - e.2 < settings.chunkFlushInterval)
      ∧ (p.bufferedSince ≠ none ↔ p.maker.hasPending = true)
      ∧ (p.run = none ∨ (∃ n, d.processor.run = some n ∧ x.book.desks.sequencer.isTurn n = true) →
        p.pending = []) := by
  intro p
  have hg : (Stages.standard schema rules).Proper := Stages.proper_standard schema rules
  obtain ⟨hm, hbegun⟩ := atTick_act hd hb hj
  obtain ⟨hy, hticking⟩ := hbegun.waits ((sound_reaches hg hr).move hg hm) hg hw
  have ht := hticking d' hd'
  obtain ⟨hi, recent, hdates⟩ := hy.dates i d' hd'
  obtain ⟨hstale, hpending⟩ := ht.done ((hy.book.agrees i d' hd').idle hb')
  obtain ⟨past, hpast⟩ := hdates.suffix
  refine ⟨⟨past, recent, hpast.symm, hdates.buffer, hdates.records, hdates.oldest,
    hdates.fresh fun s hs => hi ▸ hstale s hs⟩, hdates.since_iff, fun hrun => hpending ?_⟩
  rintro n hn
  rcases hrun with hnone | ⟨m, hm, hturn⟩
  · exact nomatch hn.symm.trans (ht.same.symm.trans hnone)
  · obtain rfl := Option.some.inj (hn.symm.trans hm)
    exact hturn

end Timesheet

end LogPipeline
