import LogPipeline.Proofs.Crews
import LogPipeline.Proofs.Fates

/-!
# What the workers hold, in order

A processor holds the lines it has written before the records it has yet to process. Behind a
distributor this is so run by run: what the members hold of one run comes before what they hold of
the next, and only one member holds anything of a run. A step of a member edits one place in this
order (`Child.effect_acts`, `teamStream_edit`), and the chunk that is handed over is always at its
front (`TeamSound.stream_handOver`).
-/

namespace LogPipeline

/-- Every record is written as one line. -/
def Stages.Proper (g : Stages) : Prop := ∀ r, ∃ line, g.write r = some line ∧ IsLine line

theorem Stages.proper_standard (schema : Schema) (rules : List Rule) :
    (Stages.standard schema rules).Proper := fun r =>
  ⟨_, rfl, r.isLine_lineBytes schema⟩

/-- Records and chunks are counted as lost. -/
structure Books.Loss (records chunks : Nat) (b b' : Books) : Prop where
  records : b'.counters.recordsLost = b.counters.recordsLost + records
  chunks : b'.counters.chunksLost = b.counters.chunksLost + chunks

namespace Processor

variable {g : Stages} {ending : Bool} {now : Instant} {p p' : Processor} {s s' : Sequencer}
  {b b' : Books}

/-- The lines of the processor, the one that is handed over next first. -/
def lines (p : Processor) : List ByteArray := p.chunks.flatMap Chunk.lines ++ p.maker.lines

/-- The processor writes whole lines. -/
structure Writes (g : Stages) (p : Processor) : Prop where
  stages : p.stages = g
  whole : IsWhole p.maker.buffer

/-- How a task changes what a processor holds, in lines. -/
inductive Progress (g : Stages) (p p' : Processor) : Prop where
  | same (hl : p'.lines = p.lines) (ht : p'.todo = p.todo)
  | filtered {r : Record} (hl : p'.lines = p.lines) (ht : p.todo = r :: p'.todo)
      (hv : g.line? r = none)
  | written {r : Record} {line : ByteArray} (hl : p'.lines = p.lines ++ [line])
      (ht : p.todo = r :: p'.todo) (hv : g.line? r = some line) (hr : p'.run = p.run)
      (ha : ∃ l, p.agenda = .process r :: l)

theorem Writes.turnover (hg : g.Proper) (hw : p.Writes g) (ht : p.Turnover b p' b') :
    Progress g p p' ∧ IsWhole p'.maker.buffer ∧ Books.Loss 0 0 b b' := by
  obtain ⟨rfl, hwhole⟩ := hw
  cases ht with
  | kept hc hm ht hb _ =>
    exact ⟨.same (by rw [lines, hc, hm]; rfl) ht, hm ▸ hwhole, hb ▸ ⟨rfl, rfl⟩⟩
  | filtered hc hm ht hv hb _ =>
    exact ⟨.filtered (by rw [lines, hc, hm]; rfl) ht (by simp [Stages.line?, hv]), hm ▸ hwhole,
      hb ▸ ⟨rfl, rfl⟩⟩
  | @unwritten r r' _ _ _ _ hw _ _ =>
    obtain ⟨line, hl, -⟩ := hg r'
    simp [hw] at hl
  | @written r r' line l ha hc hm ht hr hv hw hb _ =>
    obtain ⟨line', hl, hline⟩ := hg r'
    obtain rfl : line = line' := Option.some.inj (hw.symm.trans hl)
    have hv : p.stages.line? r = some line := by simp [Stages.line?, hv, hw]
    refine ⟨.written ?_ ht hv hr ⟨l, ha⟩, ?_, hb ▸ ⟨rfl, rfl⟩⟩
    · rw [lines, hc, hm, List.flatMap_append, List.append_assoc,
        ChunkMaker.lines_write hwhole hline, ← List.append_assoc]
      rfl
    · rw [hm]
      exact ChunkMaker.isWhole_write hline
  | flushed hc hm ht _ hb _ =>
    refine ⟨.same ?_ ht, hm ▸ ChunkMaker.isWhole_flush hwhole, hb ▸ ⟨rfl, rfl⟩⟩
    rw [lines, hc, hm, List.flatMap_append, List.append_assoc, ChunkMaker.lines_flush]
    rfl

theorem Writes.step (hg : g.Proper) (hw : p.Writes g) (hn : Neat p.agenda)
    (hs : Step now p s b p' s' b') : p'.Writes g ∧ Progress g p p' ∧ Books.Loss 0 0 b b' := by
  obtain ⟨h1, h2, h3⟩ := hw.turnover hg (turnover_of_step hn hs)
  exact ⟨⟨(stages_step hs).trans hw.stages, h2⟩, h1, h3⟩

theorem lines_eq_nil (hc : p.chunks = []) (hm : p.maker.hasPending = false) : p.lines = [] := by
  have hb : p.maker.buffer = .empty := by
    rw [← ByteArray.size_eq_zero_iff]
    simpa [ChunkMaker.hasPending] using hm
  simp [lines, hc, ChunkMaker.lines, hb]

/-! ## By runs -/

/-- The lines of a run, if it is the one in hand. -/
def linesIn (r : Nat) (p : Processor) : List Item :=
  if p.run = some r then p.lines.map .line else []

/-- The records of a run, if it is that of the batch being processed. -/
def todoIn (r : Nat) (p : Processor) : List Item :=
  if p.tickets.getLast? = some r then p.todo.map .record else []

theorem linesIn_step (h : p.Sound true ending s) (hs : Step now p s b p' s' b')
    (hl : p'.lines = p.lines) (r : Nat) : p'.linesIn r = p.linesIn r := by
  unfold linesIn
  rcases h.run_step hs with hr | ⟨hc, hm⟩
  · rw [hr, hl]
  · simp [hl, lines_eq_nil hc hm]

/-- The run of the records that are left is the same as before. -/
theorem todoIn_step (h : p.Sound true ending s) (h' : p'.Sound true ending s')
    (hs : Step now p s b p' s' b') (r : Nat) :
    p'.todoIn r = if p.tickets.getLast? = some r then p'.todo.map .record else [] := by
  unfold todoIn
  rcases h.tickets_step hs with ⟨-, ht⟩ | ⟨n, -, ht⟩
  · rw [ht]
  · rcases hnil : p'.tickets with _ | ⟨m, l⟩
    · simp [h'.todo_of_tickets hnil]
    · rw [ht, hnil, List.getLast?_cons_cons]

/-- A task edits what is held of one run, and leaves what is held of others. -/
theorem edit_step (hp : Progress g p p') (h : p.Sound true ending s) (hd : s.parked.Nodup)
    (hs : Step now p s b p' s' b') :
    (∀ r, p'.linesIn r ++ p'.todoIn r = p.linesIn r ++ p.todoIn r)
      ∨ ∃ r ∈ p.tickets, Edit g [] [] (p.linesIn r ++ p.todoIn r) (p'.linesIn r ++ p'.todoIn r)
        ∧ ∀ r', r' ≠ r → p'.linesIn r' ++ p'.todoIn r' = p.linesIn r' ++ p.todoIn r' := by
  have htodo := todoIn_step h (h.step hd hs) hs
  cases hp with
  | same hl ht =>
    refine .inl fun r => ?_
    rw [linesIn_step h hs hl, htodo, ht]
    rfl
  | @filtered rec hl ht hv =>
    have hne : p.tickets ≠ [] := fun hnil => by simp [h.todo_of_tickets hnil] at ht
    obtain ⟨r, hr⟩ := Option.isSome_iff_exists.1 (List.getLast?_isSome.2 hne)
    refine .inr ⟨r, List.mem_of_getLast? hr, ?_, fun r' hne => ?_⟩
    · have h1 : p.todoIn r = .record rec :: p'.todoIn r := by
        rw [htodo, todoIn, if_pos hr, if_pos hr, ht, List.map_cons]
      rw [linesIn_step h hs hl, h1]
      exact .filter hv
    · have hne : p.tickets.getLast? ≠ some r' := fun h => hne (Option.some.inj (h.symm.trans hr))
      rw [linesIn_step h hs hl, htodo, todoIn, if_neg hne, if_neg hne]
  | @written rec line hl ht hv hr ha =>
    obtain ⟨l, ha⟩ := ha
    have htickets := h.tickets_of_process ha
    have hrun : p.run.isSome = true := by
      have hf := h.fits
      rw [ha] at hf
      simpa [stance] using hf.1 rfl
    obtain ⟨r, hrr⟩ := Option.isSome_iff_exists.1 hrun
    rw [hrr, Option.toList_some] at htickets
    have hlast : p.tickets.getLast? = some r := by rw [htickets]; rfl
    refine .inr ⟨r, by simp [htickets], ?_, fun r' hne => ?_⟩
    · rw [htodo, if_pos hlast, todoIn, if_pos hlast, linesIn, if_pos hrr, linesIn,
        if_pos (hr.trans hrr), hl, ht, List.map_append, List.map_cons, List.map_cons, List.map_nil,
        List.append_assoc]
      exact .write hv
    · have h1 : p.tickets.getLast? ≠ some r' := fun h => hne (Option.some.inj (h.symm.trans hlast))
      have h2 : p.run ≠ some r' := fun h => hne (Option.some.inj (h.symm.trans hrr))
      rw [htodo, if_neg h1, todoIn, if_neg h1, linesIn, if_neg (hr ▸ h2), linesIn, if_neg h2]

/-! ## Handing over and callbacks -/

/-- The processor has handed over the chunk at its front, and is otherwise as it was. -/
structure Handed (c : Chunk) (p p' : Processor) : Prop where
  front : p.front = [c]
  lines : p.lines = c.lines ++ p'.lines
  todo : p'.todo = p.todo
  run : p'.run = p.run
  tickets : p'.tickets = p.tickets

theorem handed_handedOver {c : Chunk} {l : List Task} (hn : Neat p.agenda)
    (ha : p.agenda = .offer c :: l ∨ p.agenda = .sending c :: l) : p.Handed c p.handedOver := by
  obtain ⟨hc, ht, hk⟩ := holds_handedOver hn ha
  refine ⟨?_, ?_, ht, rfl, hk⟩
  · rcases ha with ha | ha <;> rw [front, ha]
  · rw [lines, hc, List.flatMap_cons, List.append_assoc]
    rfl

theorem lines_receive (batch : OrderedBatch) (deadline : Instant) (ha : p.agenda = []) :
    (p.receive batch deadline).lines = p.lines := by
  rw [lines, (holds_receive batch deadline ha).1]
  rfl

theorem lines_tick (ha : p.agenda = []) : (p.tick now).lines = p.lines := by
  rw [lines, (holds_tick _ ha).1]
  rfl

theorem lines_stop {ticketed : Bool} (h : p.Sound ticketed ending s) (ha : p.agenda = []) :
    (p.stop now).lines = p.lines := by
  rcases (h.holds_stop _ ha).2.2 with ⟨hc, hm⟩ | ⟨-, hc, hm⟩
  · rw [lines, hc, hm]
    rfl
  · rw [lines, hc, hm, List.flatMap_append, List.append_assoc, ChunkMaker.lines_flush]
    rfl

theorem stages_stop (now : Instant) (p : Processor) : (p.stop now).stages = p.stages := by
  unfold Processor.stop
  dsimp only
  split
  · rfl
  · split
    · rfl
    · split <;> rfl

theorem Writes.stop {ticketed : Bool} (hw : p.Writes g) (h : p.Sound ticketed ending s)
    (ha : p.agenda = []) : (p.stop now).Writes g := by
  refine ⟨(stages_stop now p).trans hw.stages, ?_⟩
  rcases (h.holds_stop _ ha).2.2 with ⟨-, hm⟩ | ⟨-, -, hm⟩
  · exact hm ▸ hw.whole
  · exact hm ▸ ChunkMaker.isWhole_flush hw.whole

end Processor

/-! ## Members -/

namespace Member

variable {α : Type} {g : Stages} {ticketed : Bool} {now : Instant} {s : Sequencer} {q : Queue α}
  {m : Member} {x x' : Place}

/-- What a step of a member does to its lines and records and to the output. -/
inductive Effect (g : Stages) (now : Instant) (x x' : Place) : Prop where
  | same (hp : x'.member.processor.lines = x.member.processor.lines
        ∧ x'.member.processor.todo = x.member.processor.todo
        ∧ x'.member.processor.run = x.member.processor.run
        ∧ x'.member.processor.tickets = x.member.processor.tickets)
      (ho : x'.output = x.output) (hb : Books.Loss 0 0 x.books x'.books)
  | task (hs : x.member.processor.Step now x.sequencer x.books x'.member.processor x'.sequencer
        x'.books)
      (hp : Processor.Progress g x.member.processor x'.member.processor)
      (ho : x'.output = x.output) (hb : Books.Loss 0 0 x.books x'.books)
  | given {c : Chunk} (hp : x.member.processor.Handed c x'.member.processor)
      (ho : x'.output = { x.output with queue := x.output.queue.push c })
      (hb : Books.Loss 0 0 x.books x'.books)
  | lost {c : Chunk} (hp : x.member.processor.Handed c x'.member.processor)
      (ho : x'.output = x.output) (hb : Books.Loss 0 1 x.books x'.books)

theorem effect_acts (hg : g.Proper) (hw : x.member.processor.Writes g)
    (hn : Neat x.member.processor.agenda) (hx : Acts now x x') :
    x'.member.processor.Writes g ∧ Effect g now x x' := by
  have hw' : ∀ p : Processor, p.stages = x.member.processor.stages →
      p.maker = x.member.processor.maker → p.Writes g := fun p h1 h2 =>
    ⟨h1.trans hw.stages, h2 ▸ hw.whole⟩
  cases hx with
  | finish ha => exact ⟨hw, .same ⟨rfl, rfl, rfl, rfl⟩ rfl ⟨rfl, rfl⟩⟩
  | crash ha => exact ⟨hw, .same ⟨rfl, rfl, rfl, rfl⟩ rfl ⟨rfl, rfl⟩⟩
  | ask ha ho =>
    obtain ⟨h1, h2, h3⟩ := Processor.holds_asking ha
    refine ⟨hw' _ rfl rfl, .same ⟨?_, h2, rfl, h3⟩ rfl ⟨rfl, rfl⟩⟩
    simp only [Processor.lines, h1]
    rfl
  | refuse ha =>
    exact ⟨hw' _ rfl rfl, .lost (Processor.handed_handedOver hn (.inl ha)) rfl ⟨rfl, rfl⟩⟩
  | give ha hr =>
    exact ⟨hw' _ rfl rfl, .given (Processor.handed_handedOver hn (.inr ha)) rfl ⟨rfl, rfl⟩⟩
  | @giveUp c l timedOut ha =>
    refine ⟨hw' _ rfl rfl, .lost (Processor.handed_handedOver hn (.inr ha)) rfl ?_⟩
    cases timedOut <;> exact ⟨rfl, rfl⟩
  | task hs =>
    obtain ⟨h1, h2, h3⟩ := hw.step hg hn hs
    exact ⟨h1, .task hs h2 rfl h3⟩

theorem writes_begin {ended : Bool} {cb : Callback OrderedBatch} {w : Worker}
    (hw : m.processor.Writes g) (h : m.processor.Sound ticketed ended s)
    (ha : m.processor.agenda = []) : (m.begin now cb w).processor.Writes g := by
  cases cb with
  | input b deadline => exact ⟨hw.stages, hw.whole⟩
  | tick => exact ⟨hw.stages, hw.whole⟩
  | stop => exact hw.stop h ha

/-- What a single member holds: lines before records. -/
def stream (m : Member) : List Item :=
  m.processor.lines.map .line ++ m.processor.todo.map .record

end Member

/-! ## Members behind a distributor -/

/-- What a member and its queue hold of a run. -/
def Child.stream (r : Nat) (c : Child) : List Item :=
  c.member.processor.linesIn r ++ c.member.processor.todoIn r
    ++ ((c.queue.items.filter (·.run = some r)).flatMap OrderedBatch.records).map .record

namespace Child

variable {g : Stages} {now : Instant} {s : Sequencer} {n k : Nat} {c : Child} {o : Output}
  {books : Books} {x : Member.Place}

/-- Nothing is held of a run without a ticket to it. -/
theorem stream_of_not_mem {r : Nat} (hr : r ∉ c.tickets) : c.stream r = [] := by
  simp only [tickets, List.mem_append, not_or] at hr
  have h1 : c.member.processor.run ≠ some r := fun h => hr.1 (by simp [Processor.tickets, h])
  have h2 : c.member.processor.tickets.getLast? ≠ some r := fun h =>
    hr.1 (List.mem_of_getLast? h)
  have h3 : c.queue.items.filter (·.run = some r) = [] := by
    refine List.filter_eq_nil_iff.2 fun b hb h => hr.2 ?_
    exact List.mem_filterMap.2 ⟨b, hb, by simpa using h⟩
  simp [stream, Processor.linesIn, Processor.todoIn, h1, h2, h3]

/-- What a step of a member does to what it holds of each run. -/
inductive Effect (g : Stages) (s : Sequencer) (c c' : Child) (o o' : Output) (b b' : Books) :
    Prop where
  | same (hc : ∀ r, c'.stream r = c.stream r) (ho : o' = o) (hb : Books.Loss 0 0 b b')
  | task {r : Nat} (hr : r ∈ c.tickets) (he : Edit g [] [] (c.stream r) (c'.stream r))
      (hc : ∀ r', r' ≠ r → c'.stream r' = c.stream r') (ho : o' = o) (hb : Books.Loss 0 0 b b')
  | given {d : Chunk} {r : Nat} (hr : r ∈ c.tickets) (ht : s.isTurn r = true)
      (hd : c.stream r = d.lines.map .line ++ c'.stream r)
      (hc : ∀ r', r' ≠ r → c'.stream r' = c.stream r')
      (ho : o' = { o with queue := o.queue.push d }) (hb : Books.Loss 0 0 b b')
  | lost {d : Chunk} {r : Nat} (hr : r ∈ c.tickets) (hf : c.member.processor.front = [d])
      (hd : c.stream r = d.lines.map .line ++ c'.stream r)
      (hc : ∀ r', r' ≠ r → c'.stream r' = c.stream r') (ho : o' = o) (hb : Books.Loss 0 1 b b')

/-- Only lines of the run in hand are handed over. -/
theorem stream_handed {c : Child} (c' : Child) {d : Chunk} {r : Nat}
    (hp : c.member.processor.Handed d c'.member.processor) (hq : c'.queue.items = c.queue.items)
    (hr : c.member.processor.run = some r) :
    r ∈ c.tickets ∧ c.stream r = d.lines.map .line ++ c'.stream r
      ∧ ∀ r', r' ≠ r → c'.stream r' = c.stream r' := by
  refine ⟨by simp [tickets, Processor.tickets, hr], ?_, fun r' hne => ?_⟩
  · simp only [stream, Processor.linesIn, Processor.todoIn, hp.run, hr, hp.lines, hp.todo,
      hp.tickets, hq, ↓reduceIte, List.map_append, List.append_assoc]
  · have hne : c.member.processor.run ≠ some r' := fun h => hne (Option.some.inj (h.symm.trans hr))
    simp only [stream, Processor.linesIn, Processor.todoIn, hp.run, if_neg hne, hp.todo,
      hp.tickets, hq]

theorem effect_acts (hg : g.Proper) (h : c.Sound s n k) (hw : c.member.processor.Writes g)
    (hb : c.member.worker.busy = true) (hd : s.parked.Nodup)
    (hx : Member.Acts now ⟨c.member, s, o, books⟩ x) :
    x.member.processor.Writes g
      ∧ Effect g s c ⟨x.member.worker.leave c.queue, x.member⟩ o x.output books x.books := by
  have hm := h.member
  have hq := Member.Sound.items_leave (x := ⟨c.member, s, o, books⟩) hm hb hm.sound.no_crash hx
  obtain ⟨hw', he⟩ := Member.effect_acts hg hw hm.sound.neat hx
  refine ⟨hw', ?_⟩
  have hturn : ∀ {d : Chunk}, c.member.processor.front = [d] →
      ∃ r, c.member.processor.run = some r ∧ s.isTurn r = true := by
    intro d hf
    unfold Processor.front at hf
    split at hf
    · exact hm.sound.turn_of_offer (.inl ‹_›)
    · exact hm.sound.turn_of_offer (.inr ‹_›)
    · simp at hf
  cases he with
  | same hp ho hbooks =>
    obtain ⟨h1, h2, h3, h4⟩ := hp
    refine .same (fun r => ?_) ho hbooks
    dsimp only at h1 h2 h3 h4
    simp only [stream, Processor.linesIn, Processor.todoIn, h1, h2, h3, h4, hq]
  | task hs hp ho hbooks =>
    rcases Processor.edit_step hp hm.sound hd hs with heq | ⟨r, hr, hedit, heq⟩
    · refine .same (fun r => ?_) ho hbooks
      dsimp only at heq
      simp only [stream, heq r, hq]
    · refine .task (r := r) (List.mem_append_left _ hr) ?_ (fun r' hne => ?_) ho hbooks
      · have := hedit.frame [] (((c.queue.items.filter (·.run = some r)).flatMap
          OrderedBatch.records).map .record)
        simpa only [stream, hq, List.nil_append] using this
      · have := heq r' hne
        dsimp only at this
        simp only [stream, this, hq]
  | given hp ho hbooks =>
    obtain ⟨r, hr, ht⟩ := hturn hp.front
    obtain ⟨h1, h2, h3⟩ := stream_handed ⟨x.member.worker.leave c.queue, x.member⟩ hp hq hr
    exact .given h1 ht h2 h3 ho hbooks
  | lost hp ho hbooks =>
    obtain ⟨r, hr, -⟩ := hturn hp.front
    obtain ⟨h1, h2, h3⟩ := stream_handed ⟨x.member.worker.leave c.queue, x.member⟩ hp hq hr
    exact .lost h1 hp.front h2 h3 ho hbooks

theorem stream_call (h : c.Sound s n k) (hb : c.member.worker.busy = false) {ended : Bool}
    {cb : Callback OrderedBatch} {w : Worker} {q : Queue OrderedBatch}
    (hc : c.member.worker.Calls now ended c.queue cb w q) (r : Nat) :
    Child.stream r ⟨q, c.member.begin now cb w⟩ = c.stream r := by
  have hm := h.member
  have ha := hm.idle hb
  have htodo : c.member.processor.todoIn r = [] := by
    simp [Processor.todoIn, Processor.todo, ha]
  cases hc with
  | @input b rest hp hq =>
    obtain ⟨m, hrun⟩ := Option.isSome_iff_exists.1 (h.runs b (by rw [hq]; exact List.mem_cons_self))
    obtain ⟨-, h2, h3⟩ :=
      Processor.holds_receive b (now + c.member.worker.settings.sendTimeout) ha
    simp only [stream, htodo, Member.begin, hq]
    simp only [Processor.linesIn, Processor.todoIn, Processor.run_receive,
      Processor.lines_receive b _ ha, h2, h3, hrun, Option.toList_some, List.getLast?_concat,
      List.append_nil]
    by_cases hr : m = r
    · subst hr
      rw [List.filter_cons_of_pos (by simpa using hrun)]
      simp
    · rw [List.filter_cons_of_neg (by simpa [hrun] using hr)]
      simp [hr]
  | tick hp =>
    obtain ⟨-, h2, h3⟩ := Processor.holds_tick now ha
    simp only [stream, Member.begin, Processor.linesIn, Processor.todoIn, h2, h3,
      Processor.lines_tick ha, Processor.run_tick]
  | lastTick hp =>
    obtain ⟨-, h2, h3⟩ := Processor.holds_tick now ha
    simp only [stream, Member.begin, Processor.linesIn, Processor.todoIn, h2, h3,
      Processor.lines_tick ha, Processor.run_tick]
  | stop hp =>
    obtain ⟨h2, h3, -⟩ := hm.sound.holds_stop now ha
    simp only [stream, Member.begin, Processor.linesIn, Processor.todoIn, h2, h3,
      Processor.lines_stop hm.sound ha, Processor.run_stop]

theorem stream_push {b : OrderedBatch} {m : Nat} (hb : b.run = some m) (r : Nat) :
    Child.stream r { c with queue := c.queue.push b }
      = c.stream r ++ if m = r then b.records.map .record else [] := by
  simp only [stream, Queue.push_items, List.filter_append, List.flatMap_append, List.map_append,
    List.append_assoc]
  by_cases hr : m = r
  · subst hr
    rw [List.filter_cons_of_pos (by simpa using hb), if_pos rfl]
    simp
  · rw [List.filter_cons_of_neg (by simpa [hb] using hr), if_neg hr]
    simp

end Child

/-- What the members hold, run by run. -/
def teamStream (n : Nat) (cs : List Child) : List Item :=
  (List.range n).flatMap fun r => cs.flatMap (Child.stream r)

section Team

variable {g : Stages} {n k r : Nat} {cs : List Child} {c c' : Child} {ds : List Chunk}
  {rs : List Record}

theorem exists_range (h : r < n) :
    ∃ l, List.range n = List.range r ++ r :: l ∧ ∀ r' ∈ l, r < r' := by
  obtain ⟨m, rfl⟩ : ∃ m, n = r + (1 + m) := ⟨n - r - 1, by omega⟩
  refine ⟨(List.range m).map (r + 1 + ·), ?_, fun r' hr' => ?_⟩
  · rw [List.range_add, List.range_add]
    simp [List.range_one, Function.comp_def, Nat.add_assoc]
  · obtain ⟨j, -, rfl⟩ := List.mem_map.1 hr'
    omega

/-- A member that holds the same of each run leaves the order as it is. -/
theorem teamStream_set (hk : cs[k]? = some c) (h : ∀ r, c'.stream r = c.stream r) :
    teamStream n (cs.set k c') = teamStream n cs := by
  obtain ⟨pre, post, rfl, rfl⟩ := exists_seat hk
  rw [set_seat]
  exact List.flatMap_congr fun r _ => flatMap_seat pre post (h r)

theorem teamStream_add_one (n : Nat) (cs : List Child) :
    teamStream (n + 1) cs = teamStream n cs ++ cs.flatMap (Child.stream n) := by
  rw [teamStream, List.range_succ, List.flatMap_append]
  simp [teamStream]

theorem teamStream_succ (h : ∀ c ∈ cs, c.stream n = []) :
    teamStream (n + 1) cs = teamStream n cs := by
  rw [teamStream_add_one, List.flatMap_eq_nil_iff.2 h, List.append_nil]

/-- A member that changes what it holds of one run leaves earlier and later runs as they are. -/
theorem teamStream_seat (c : Child) (pre post : List Child) (hr : r < n) :
    ∃ rest, ∀ c' : Child, (∀ r', r' ≠ r → c'.stream r' = c.stream r') →
      teamStream n (pre ++ c' :: post) = teamStream r (pre ++ c :: post)
        ++ (pre ++ c' :: post).flatMap (Child.stream r) ++ rest := by
  obtain ⟨l, hrange, hl⟩ := exists_range hr
  refine ⟨l.flatMap fun r' => (pre ++ c :: post).flatMap (Child.stream r'), fun c' h => ?_⟩
  have hseat : ∀ r', r' ≠ r → (pre ++ c' :: post).flatMap (Child.stream r')
      = (pre ++ c :: post).flatMap (Child.stream r') := fun r' hne =>
    flatMap_seat pre post (h r' hne)
  have hbefore : teamStream r (pre ++ c' :: post) = teamStream r (pre ++ c :: post) :=
    List.flatMap_congr fun r' hr' => hseat r' (Nat.ne_of_lt (List.mem_range.1 hr'))
  have hafter : l.flatMap (fun r' => (pre ++ c' :: post).flatMap (Child.stream r'))
      = l.flatMap fun r' => (pre ++ c :: post).flatMap (Child.stream r') :=
    List.flatMap_congr fun r' hr' => hseat r' (Nat.ne_of_gt (hl r' hr'))
  rw [teamStream, hrange, List.flatMap_append, List.flatMap_cons, hafter, ← hbefore,
    List.append_assoc]
  rfl

/-- What a member does to what it holds of one run is done at one place. -/
theorem teamStream_edit (hk : cs[k]? = some c) (hr : r < n)
    (he : Edit g ds rs (c.stream r) (c'.stream r))
    (h : ∀ r', r' ≠ r → c'.stream r' = c.stream r') :
    Edit g ds rs (teamStream n cs) (teamStream n (cs.set k c')) := by
  obtain ⟨pre, post, rfl, rfl⟩ := exists_seat hk
  obtain ⟨rest, hrest⟩ := teamStream_seat c pre post hr
  have hseat := he.frame (pre.flatMap (Child.stream r)) (post.flatMap (Child.stream r))
  rw [set_seat, hrest c' h, hrest c fun _ _ => rfl]
  simp only [List.flatMap_append, List.flatMap_cons, ← List.append_assoc] at hseat ⊢
  simpa only [← List.append_assoc] using hseat.frame (teamStream r (pre ++ c :: post)) rest

/-- If only one member holds anything of a run, that is all there is of it. -/
theorem flatMap_others {pre post : List Child}
    (h : ∀ j d, (pre ++ c :: post)[j]? = some d → j ≠ pre.length → d.stream r = []) :
    pre.flatMap (Child.stream r) = [] ∧ post.flatMap (Child.stream r) = [] := by
  refine ⟨List.flatMap_eq_nil_iff.2 fun d hd => ?_, List.flatMap_eq_nil_iff.2 fun d hd => ?_⟩
  · obtain ⟨j, hj⟩ := List.getElem?_of_mem hd
    have hlt := (List.getElem?_eq_some_iff.1 hj).1
    exact h j d (by rw [List.getElem?_append_left hlt]; exact hj) (Nat.ne_of_lt hlt)
  · obtain ⟨j, hj⟩ := List.getElem?_of_mem hd
    refine h (pre.length + (j + 1)) d ?_ (by omega)
    rw [List.getElem?_append_right (Nat.le_add_right _ _), Nat.add_sub_cancel_left,
      List.getElem?_cons_succ]
    exact hj

/-- What the only member that holds anything of the first runs holds is at the front. -/
theorem teamStream_front (hk : cs[k]? = some c) (hr : r < n)
    (hbefore : ∀ r' < r, ∀ c ∈ cs, c.stream r' = [])
    (hothers : ∀ j d, cs[j]? = some d → j ≠ k → d.stream r = []) :
    ∃ rest, teamStream n cs = c.stream r ++ rest
      ∧ ∀ c' : Child, (∀ r', r' ≠ r → c'.stream r' = c.stream r') →
        teamStream n (cs.set k c') = c'.stream r ++ rest := by
  obtain ⟨pre, post, rfl, rfl⟩ := exists_seat hk
  obtain ⟨hpre, hpost⟩ := flatMap_others hothers
  obtain ⟨rest, hrest⟩ := teamStream_seat c pre post hr
  have hnil : teamStream r (pre ++ c :: post) = [] :=
    List.flatMap_eq_nil_iff.2 fun r' hr' => List.flatMap_eq_nil_iff.2
      (hbefore r' (List.mem_range.1 hr'))
  have hfront : ∀ c' : Child, (∀ r', r' ≠ r → c'.stream r' = c.stream r') →
      teamStream n (pre ++ c' :: post) = c'.stream r ++ rest := by
    intro c' hc'
    rw [hrest c' hc', hnil, List.flatMap_append, List.flatMap_cons, hpre, hpost, List.nil_append,
      List.nil_append, List.append_nil]
  refine ⟨rest, hfront c fun _ _ => rfl, fun c' hc' => ?_⟩
  rw [set_seat]
  exact hfront c' hc'

/-- What is added to the latest run comes last. -/
theorem teamStream_push (hk : cs[k]? = some c) (hr : r + 1 = n) {added : List Item}
    (hothers : ∀ j d, cs[j]? = some d → j ≠ k → d.stream r = [])
    (hc : c'.stream r = c.stream r ++ added) (h : ∀ r', r' ≠ r → c'.stream r' = c.stream r') :
    teamStream n (cs.set k c') = teamStream n cs ++ added := by
  obtain ⟨pre, post, rfl, rfl⟩ := exists_seat hk
  obtain ⟨-, hpost⟩ := flatMap_others hothers
  have hbefore : teamStream r (pre ++ c' :: post) = teamStream r (pre ++ c :: post) :=
    List.flatMap_congr fun r' hr' =>
      flatMap_seat pre post (h r' (Nat.ne_of_lt (List.mem_range.1 hr')))
  rw [set_seat, ← hr, teamStream_add_one, teamStream_add_one, hbefore]
  simp [hpost, hc]

end Team

/-! ## Distributors -/

/-- The records that are to be sent. -/
def Delivery.records : Delivery → List Record
  | offer b => b.records
  | _ => []

namespace Distributor

variable {d : Distributor} {s : Sequencer} {now deadline : Instant}

/-- The records that a distributor has yet to send. -/
def todo (d : Distributor) : List Record := d.agenda.flatMap Delivery.records

theorem todo_receive (b : Batch) : (d.receive now deadline b s).1.todo = b := by
  unfold receive
  split
  · simp_all [todo]
  · dsimp only
    split <;> simp [todo, Delivery.records]

theorem issued_receive (b : Batch) (s : Sequencer) :
    (d.receive now deadline b s).2.issued = s.issued
      ∨ (d.receive now deadline b s).2.issued = s.issued + 1 := by
  have hrun : (d.runFor now s).2.issued = s.issued
      ∨ (d.runFor now s).2.issued = s.issued + 1 := by
    unfold runFor
    split
    · exact .inl rfl
    · exact .inr rfl
  unfold receive
  split
  · exact .inl rfl
  · dsimp only
    split
    · exact hrun
    · exact hrun

theorem todo_closing : d.closing.flatMap Delivery.records = [] := by
  unfold closing
  split <;> rfl

theorem todo_tick : (d.tick now).todo = [] := by
  unfold tick
  dsimp only
  split
  · exact todo_closing
  · rfl

theorem todo_stop : (d.stop now).todo = [] := by
  simp only [stop, todo, List.flatMap_append, todo_closing]
  rfl

end Distributor

namespace TeamSound

variable {g : Stages} {s s' : Sequencer} {input : Queue Batch} {w : Worker} {d : Distributor}
  {cs : List Child} {k r : Nat} {c c' : Child}

theorem lt_issued (h : TeamSound s input w d cs) (hc : c ∈ cs) (hr : r ∈ c.tickets) :
    r < s.issued := by
  refine h.valid.lt_issued r (h.references.mem_iff.2 (List.mem_append_right _ ?_))
  exact List.mem_flatMap.2 ⟨c, hc, hr⟩

/-- Only the member whose number a run has holds anything of it. -/
theorem stream_other (h : TeamSound s input w d cs) (hr : r % cs.length = k) (j : Nat) (e : Child)
    (hj : cs[j]? = some e) (hne : j ≠ k) : e.stream r = [] :=
  Child.stream_of_not_mem fun hmem => hne (((h.child j e hj).lane r hmem).symm.trans hr)

/-- Once it is a run's turn, nothing is held of earlier runs. -/
theorem stream_before (h : TeamSound s input w d cs) (ht : s.isTurn r = true) (r' : Nat)
    (hr : r' < r) (c : Child) (hc : c ∈ cs) : c.stream r' = [] := by
  refine Child.stream_of_not_mem fun hmem => ?_
  have hmem := h.references.mem_iff.2 (List.mem_append_right d.tickets
    (List.mem_flatMap.2 ⟨c, hc, hmem⟩))
  have := h.valid.le_of_mem r' hmem
  rw [Sequencer.isTurn_iff] at ht
  omega

theorem stream_new (h : TeamSound s input w d cs) (c : Child) (hc : c ∈ cs) :
    c.stream s.issued = [] :=
  Child.stream_of_not_mem fun hmem => Nat.lt_irrefl _ (h.lt_issued hc hmem)

/-- The chunk that is handed over is at the front of everything. -/
theorem stream_handOver (h : TeamSound s input w d cs) (hk : cs[k]? = some c) {e : Chunk}
    (hr : r ∈ c.tickets) (ht : s.isTurn r = true)
    (hd : c.stream r = e.lines.map .line ++ c'.stream r)
    (hc : ∀ r', r' ≠ r → c'.stream r' = c.stream r') :
    teamStream s.issued cs = e.lines.map .line ++ teamStream s.issued (cs.set k c') := by
  obtain ⟨rest, h1, h2⟩ := teamStream_front (n := s.issued) hk
    (h.lt_issued (List.mem_of_getElem? hk) hr) (h.stream_before ht)
    (h.stream_other ((h.child k c hk).lane r hr))
  rw [h1, hd, List.append_assoc, h2 c' hc]

end TeamSound

end LogPipeline
