import LogPipeline.Proofs.Lifetimes

/-!
# Work that is left in a pipeline

What is in a pipeline passes a fixed number of stations on its way out, and `work` counts those that
are left. No step adds to it, and whenever a send is decided it gets less. A step that leaves it as
it is gets on with the `chores` of one party, of which there are only so many at one time, and
interrupts no send that is under way (`Pipeline.Sound.work_step`).
-/

namespace LogPipeline

/-! ## Processors -/

/-- Stations left before what a task is about has reached the destination. A record may complete a
chunk and begin another. -/
def Task.work : Task → Nat
  | process _ => 8
  | emit _ => 6
  | offer _ => 4
  | sending _ => 3
  | _ => 0

/-- Tasks that a task leads to, with itself, apart from those that get on with the work. -/
def Task.chores : Task → Nat
  | join _ => 7
  | finish => 5
  | clear => 3
  | forwardInTurn => 2
  | adopt _ | awaitTurn | forward | complete | flushStale _ => 1
  | process _ | emit _ | offer _ | sending _ | crash => 0

namespace ChunkMaker

/-- Stations left for the chunk being built, if there is one. -/
def work (m : ChunkMaker) : Nat := if m.hasPending then 7 else 0

theorem work_write (line : ByteArray) (m : ChunkMaker) :
    total Task.work ((m.write line).1.toList.map Task.emit) + (m.write line).2.work
      < 8 + m.work := by
  have hle : ∀ m : ChunkMaker, m.work ≤ 7 := by
    intro m
    unfold work
    split <;> omega
  have hadded := hle (m.added line)
  have hemptied := hle (m.emptied.added line)
  unfold write
  split
  · rename_i h
    have hm : m.work = 7 := if_pos (by simpa using (Bool.and_eq_true_iff.1 h).1)
    simp only [Option.toList_some, List.map_cons, List.map_nil, total_cons, total_nil, Task.work]
    omega
  · simp only [Option.toList_none, List.map_nil, total_nil]
    omega

/-- Either the chunk being built is taken out, or there is none. -/
theorem work_flush (m : ChunkMaker) :
    (m.flush.1 = none ∧ m.flush.2 = m)
      ∨ total Task.work (m.flush.1.toList.map Task.emit) + m.flush.2.work < m.work := by
  unfold flush
  split
  · rename_i h
    refine .inr ?_
    simp [work, h, Task.work]
  · exact .inl ⟨rfl, rfl⟩

end ChunkMaker

namespace Processor

variable {now : Instant} {p p' : Processor} {s s' : Sequencer} {b b' : Books}

def work (p : Processor) : Nat :=
  total Task.work p.agenda + 5 * p.pending.length + p.maker.work

def chores (p : Processor) : Nat := total Task.chores p.agenda

/-- A task gets on with the work or is a chore, unless nothing is done. -/
theorem work_step (hs : Step now p s b p' s' b') :
    p'.work < p.work
      ∨ (p'.work = p.work ∧ p'.chores < p.chores ∧ p.isSending = false) ∨ p' = p := by
  have hflush := p.maker.work_flush
  cases hs with
  | rest => exact .inr (.inr rfl)
  | written ha hv hw =>
    rename_i line _ _
    refine .inl ?_
    have := p.maker.work_write line
    simp only [work, ha, total_append, total_cons, Task.work]
    omega
  | hold ha ht htasks =>
    refine .inl ?_
    rcases htasks with rfl | rfl
    · simp only [work, ha, total_cons, List.nil_append, List.length_append, List.length_cons,
        List.length_nil, Task.work]
      omega
    · simp only [work, ha, total_cons, List.cons_append, List.nil_append, List.length_append,
        List.length_cons, List.length_nil, Task.work]
      omega
  | finish ha =>
    rcases hflush with ⟨h1, h2⟩ | hlt
    · refine .inr (.inl ⟨?_, ?_, by simp [isSending, ha]⟩)
      · simp [work, ha, h1, h2, Task.work]
      · simp only [chores, ha, h1, Option.toList_none, List.map_nil, List.nil_append, total_cons,
          Task.chores]
        omega
    · refine .inl ?_
      simp only [work, ha, total_append, total_cons, Task.work]
      omega
  | stale ha =>
    rcases hflush with ⟨h1, h2⟩ | hlt
    · refine .inr (.inl ⟨?_, ?_, by simp [isSending, ha]⟩)
      · simp [work, ha, h1, h2, Task.work]
      · simp [chores, ha, h1, Task.chores]
    · refine .inl ?_
      simp only [work, ha, total_append, total_cons, Task.work]
      omega
  | forward ha hp =>
    refine .inl ?_
    simp only [work, ha, hp, total_cons, List.length_cons, Task.work]
    omega
  | filtered ha | unwritten ha | hand ha =>
    refine .inl ?_
    simp only [work, noteTurn, ha, total_cons, Task.work]
    omega
  | joinFirst ha | joinSame ha | joinOther ha | adopt ha | await ha | forwarded ha | allow ha
  | refrain ha | cleared ha | clear ha | complete ha | fresh ha =>
    refine .inr (.inl ⟨?_, ?_, by simp [isSending, ha]⟩)
    · simp [work, noteTurn, ha, Task.work]
    · simp only [chores, ha, total_cons, Task.chores]
      omega

theorem isSending_iff : p.isSending = true ↔ ∃ c l, p.agenda = .sending c :: l := by
  unfold isSending
  constructor
  · intro h
    split at h
    · exact ⟨_, _, ‹_›⟩
    · simp at h
  · rintro ⟨c, l, ha⟩
    rw [ha]

/-! ### Callbacks -/

theorem work_receive (ha : p.agenda = []) (batch : OrderedBatch) (deadline : Instant) :
    (p.receive batch deadline).work = p.work + 8 * batch.records.length := by
  have hrecords : ∀ l : List Record, total Task.work (l.map Task.process) = 8 * l.length := by
    intro l
    induction l with
    | nil => rfl
    | cons r l ih =>
      simp only [List.map_cons, total_cons, ih, List.length_cons, Task.work]
      omega
  have hjoin : total Task.work (batch.run.toList.map Task.join) = 0 := by
    cases batch.run <;> rfl
  have hfinish : total Task.work (if batch.isLast then [.finish] else []) = 0 := by
    split <;> rfl
  simp only [work, receive, ha, total_append, hrecords, hjoin, hfinish, total_nil]
  omega

theorem work_tick (ha : p.agenda = []) (now : Instant) :
    (p.tick now).work = p.work ∧ (p.tick now).chores = 3 := by
  simp [work, chores, tick, ha, Task.work, Task.chores]

theorem work_stop (ha : p.agenda = []) (now : Instant) :
    (p.stop now).work < p.work ∨ (p.stop now).work = p.work ∧ (p.stop now).chores ≤ 5 := by
  unfold stop
  dsimp only
  split
  · exact .inr (by simp [work, chores, ha, Task.work, Task.chores])
  · split
    · exact .inr (by simp [work, chores, ha])
    · rename_i hm
      split
      · exact .inr (by simp [work, chores, ha, Task.work, Task.chores])
      · have hpending : p.maker.hasPending = true := by simpa using hm
        refine .inl ?_
        simp only [work, ha, ChunkMaker.flush, ChunkMaker.work, hpending, ↓reduceIte, total_nil,
          Option.toList_some, List.map_cons, List.map_nil, total_cons, Task.work,
          ChunkMaker.hasPending_emptied, Bool.false_eq_true]
        omega

end Processor

/-! ## Workers and members -/

/-- Steps of a worker itself, at most, before it has to wait: of its callbacks, of the ticks that
are due, and of the end. Each of the callbacks may come with a few chores of its own. -/
def Worker.chores (now : Instant) (w : Worker) : Nat :=
  (if w.busy then 1 else 0) +
    match w.phase with
    | .serving => 24 + 8 * (now + 1 - w.nextTick)
    | .lastTick => 16
    | .stopping => 8
    | _ => 0

theorem Worker.chores_finish {w : Worker} (hb : w.busy = true) (now : Instant) :
    w.finish.chores now < w.chores now := by
  unfold Worker.finish chores
  cases hp : w.phase <;> simp [hb]

/-- The next tick after one that is due is later than it. -/
theorem Worker.lt_tickAfter {now : Instant} {w : Worker} (hi : w.settings.tickInterval ≠ 0)
    (hdue : w.nextTick ≤ now) : w.nextTick < w.tickAfter now := by
  have hpos := Nat.pos_of_ne_zero hi
  unfold Worker.tickAfter
  split
  · exact Nat.lt_of_le_of_lt hdue (Nat.lt_add_of_pos_right hpos)
  · exact Nat.lt_add_of_pos_right hpos

theorem ticks_lt {now t t' : Nat} (ht : t ≤ now) (h : t < t') :
    8 * (now + 1 - t') + 8 ≤ 8 * (now + 1 - t) := by
  omega

/-- A callback other than for an item leaves room for its chores. -/
theorem Worker.chores_next? {α : Type} {now : Instant} {ended : Bool} {q q' : Queue α}
    {w w' : Worker} {cb : Callback α} (hi : w.settings.tickInterval ≠ 0) (hb : w.busy = false)
    (h : w.next? now ended q = some (cb, w', q')) :
    (∃ a deadline, cb = .input a deadline) ∨ w'.chores now + 7 ≤ w.chores now := by
  unfold Worker.next? at h
  split at h
  · rename_i hp
    split at h
    · obtain ⟨rfl, -⟩ := by simpa using h
      exact .inl ⟨_, _, rfl⟩
    · split at h
      · obtain ⟨-, rfl, -⟩ := by simpa using h
        refine .inr ?_
        simp only [chores, hp, hb, ↓reduceIte, Bool.false_eq_true]
        omega
      · split at h
        · rename_i hdue
          obtain ⟨-, rfl, -⟩ := by simpa using h
          refine .inr ?_
          have hlt := ticks_lt hdue (lt_tickAfter hi hdue)
          simp only [chores, hp, hb, ↓reduceIte, Bool.false_eq_true]
          omega
        · simp at h
  · rename_i hp
    obtain ⟨-, rfl, -⟩ := by simpa using h
    refine .inr ?_
    simp [chores, hp, hb]
  · simp at h

namespace Member

variable {now : Instant} {x x' : Place} {m : Member} {w : Worker}

def chores (now : Instant) (m : Member) : Nat := m.worker.chores now + m.processor.chores

end Member

/-- How many records a callback is about. -/
def Callback.records : Callback OrderedBatch → Nat
  | .input b _ => b.records.length
  | .tick | .stop => 0

/-- Stations left for the chunks in an output. -/
def Output.work (o : Output) : Nat := 2 * o.queue.items.length + (if o.held.isSome then 1 else 0)

/-- What a worker leaves behind is no work any more. -/
theorem work_leave {α : Type} (f : α → Nat) (w : Worker) (q : Queue α) :
    total f (w.leave q).items ≤ total f q.items := by
  unfold Worker.leave
  split
  · exact Nat.zero_le _
  · exact Nat.le_refl _

theorem Output.work_finish (o : Output) : o.finish.work ≤ 2 * o.queue.items.length := by
  unfold finish work Worker.leave
  dsimp only
  split
  · simp [Queue.abandon]
  · simp

theorem Output.work_start {tag : String} {id capacity : Nat} {settings : WorkerSettings}
    {now : Instant} {destination : Destination} {o : Output}
    (h : Output.start tag id capacity settings now destination = .ok o) : o.work = 0 := by
  unfold Output.start at h
  split at h
  · simp at h
  · obtain rfl := Except.ok.inj h
    unfold work Worker.leave
    dsimp only
    split <;> simp [Queue.abandon]

/-- A chunk that is forwarded or lost is no work any more. -/
theorem Output.work_lt_of_held {o : Output} {c : Chunk × Instant} (hh : o.held = some c) :
    o.finish.work < o.work := by
  have := o.work_finish
  have hw : o.work = 2 * o.queue.items.length + 1 := by simp [work, hh]
  omega

namespace Member

variable {now : Instant} {x x' : Place} {m : Member} {w : Worker}

/-- An idle member begins a callback: only the records of a batch are new to it. -/
theorem work_begin (ha : m.processor.agenda = []) (now : Instant) (cb : Callback OrderedBatch)
    (w : Worker) : (m.begin now cb w).processor.work ≤ m.processor.work + 8 * cb.records := by
  cases cb with
  | input b deadline => exact Nat.le_of_eq (Processor.work_receive ha b deadline)
  | tick => exact Nat.le_of_eq (Processor.work_tick ha now).1
  | stop =>
    rcases Processor.work_stop ha now with hlt | ⟨heq, -⟩
    · exact Nat.le_of_lt hlt
    · exact Nat.le_of_eq heq

/-- A member in a callback gets on with the work or does a chore, unless it does nothing. -/
theorem work_acts (hb : x.member.worker.busy = true)
    (hcrash : ∀ l, x.member.processor.agenda ≠ .crash :: l) (hx : Acts now x x') :
    x'.member.processor.work + x'.output.work < x.member.processor.work + x.output.work
      ∨ (x'.output = x.output ∧ x'.member.processor.work = x.member.processor.work
          ∧ x.member.processor.isSending = false ∧ ∀ t, x'.member.chores t < x.member.chores t)
      ∨ (x'.output = x.output ∧ x'.member = x.member) := by
  cases hx with
  | finish ha =>
    refine .inr (.inl ⟨rfl, rfl, by simp [Processor.isSending, ha], fun t => ?_⟩)
    have := Worker.chores_finish hb t
    simp only [chores]
    omega
  | crash ha => exact absurd ha (hcrash _)
  | ask ha ho =>
    refine .inl ?_
    simp only [Processor.work, Processor.asking, Processor.next, ha, List.drop_one, List.tail_cons,
      total_append, total_cons, total_nil, Task.work]
    omega
  | refuse ha =>
    refine .inl ?_
    simp only [Processor.work, Processor.handedOver, Processor.next, ha, List.drop_one,
      List.tail_cons, List.nil_append, total_cons, Task.work]
    omega
  | give ha hr =>
    refine .inl ?_
    simp only [Processor.work, Processor.handedOver, Processor.next, ha, List.drop_one,
      List.tail_cons, List.nil_append, total_cons, Task.work, Output.work, Queue.push_items,
      List.length_append, List.length_cons, List.length_nil]
    omega
  | giveUp ha =>
    refine .inl ?_
    simp only [Processor.work, Processor.handedOver, Processor.next, ha, List.drop_one,
      List.tail_cons, List.nil_append, total_cons, Task.work]
    omega
  | task hs =>
    rcases Processor.work_step hs with hlt | ⟨heq, hlt, hsend⟩ | rfl
    · refine .inl ?_
      dsimp only
      omega
    · refine .inr (.inl ⟨rfl, heq, hsend, fun t => ?_⟩)
      simp only [chores]
      omega
    · exact .inr (.inr ⟨rfl, rfl⟩)

end Member

/-! ## Pipelines -/

def OrderedBatch.work (b : OrderedBatch) : Nat := 8 * b.records.length + 1

def Child.work (c : Child) : Nat :=
  c.member.processor.work + total OrderedBatch.work c.queue.items

def Delivery.work : Delivery → Nat
  | offer b => b.work + 1
  | _ => 0

/-- A run that is open is yet to be ended by a batch. -/
def Distributor.work (d : Distributor) : Nat :=
  total Delivery.work d.agenda + (if d.openRun.isSome then 3 else 0)

theorem Distributor.work_receive {d : Distributor} (ha : d.agenda = []) (now deadline : Instant)
    (b : Batch) (s : Sequencer) :
    (d.receive now deadline b s).1.work < d.work + (8 * b.length + 6) := by
  have hle : ∀ o : Option OpenRun, (if o.isSome then 3 else 0) ≤ 3 := by
    intro o
    split <;> omega
  unfold Distributor.receive
  split
  · simp only [work, ha, total_nil]
    omega
  · rcases d.runFor now s with ⟨o, s'⟩
    dsimp only
    split
    · simp only [work, ha, total_cons, total_nil, Delivery.work, OrderedBatch.work,
        Option.isSome_none, Bool.false_eq_true, ↓reduceIte]
      omega
    · simp only [work, ha, total_cons, total_nil, Delivery.work, OrderedBatch.work,
        Option.isSome_some, ↓reduceIte]
      omega

/-- An open run that is to be ended is work done, and else only the chores behind it are left. -/
theorem Distributor.work_closing {d d' : Distributor} (ha : d.agenda = []) {l : List Delivery}
    (hl : total Delivery.work l = 0) (ho : d'.openRun = none) (ha' : d'.agenda = d.closing ++ l) :
    d'.work < d.work ∨ d'.work = d.work ∧ d'.agenda = l := by
  unfold Distributor.closing at ha'
  cases hr : d.openRun with
  | none =>
    rw [hr] at ha'
    exact .inr ⟨by simp [work, ha, ha', hl, hr, ho], ha'⟩
  | some o =>
    rw [hr] at ha'
    refine .inl ?_
    simp [work, ha, ha', hl, hr, ho, Delivery.work, OrderedBatch.work]

theorem Distributor.work_tick {d : Distributor} (ha : d.agenda = []) (now : Instant) :
    (d.tick now).work < d.work ∨ (d.tick now).work = d.work ∧ (d.tick now).agenda = [] := by
  unfold Distributor.tick
  split
  · exact work_closing ha rfl rfl (List.append_nil _).symm
  · exact .inr ⟨by simp [work, ha], rfl⟩

theorem Distributor.work_stop {d : Distributor} (ha : d.agenda = []) (now : Instant) :
    (d.stop now).work < d.work
      ∨ (d.stop now).work = d.work ∧ (d.stop now).agenda = [.closeChildren, .awaitChildren] :=
  work_closing ha rfl rfl rfl

theorem Distributor.work_next {d : Distributor} {a : Delivery} {l : List Delivery}
    (ha : d.agenda = a :: l) : d.next.work + a.work = d.work := by
  simp only [work, next, ha, List.drop_one, List.tail_cons, total_cons]
  omega

def Crew.work : Crew → Nat
  | alone m => m.processor.work
  | team _ d cs => d.work + total Child.work cs

/-- A batch from the input may open a run. -/
def Batch.work (b : Batch) : Nat := 8 * b.length + 6

theorem Crew.work_start (bp : Blueprint) (stages : Stages) (tag : String) (now : Instant) :
    (Crew.start bp stages tag now).work = 0 := by
  have hm : ∀ name, (Member.start bp stages name now).processor.work = 0 := fun name => rfl
  unfold Crew.start
  split
  · exact hm _
  · refine Nat.add_eq_zero_iff.2 ⟨rfl, total_eq_zero fun c hc => ?_⟩
    obtain ⟨i, -, rfl⟩ := List.mem_map.1 hc
    simp [Child.work, hm]

/-- Stations left for all that is in a pipeline. -/
def Pipeline.work (p : Pipeline) : Nat :=
  total Batch.work p.input.items + (p.crew.map Crew.work).getD 0 + (p.output.map Output.work).getD 0

/-! ### Sends under way -/

/-- The deadline of a send that is under way. -/
def Member.sending? (m : Member) : Option Instant :=
  if m.processor.isSending then some m.processor.deadline else none

theorem Member.sending?_eq_none {m : Member} (ha : m.processor.agenda = []) : m.sending? = none :=
  if_neg (by simp [Processor.isSending, ha])

def Distributor.sending? (d : Distributor) : Option Instant :=
  match d.agenda with
  | .offer _ :: _ => some d.deadline
  | _ => none

def Pipeline.sending? (p : Pipeline) : Role → Option Instant
  | .supervisor => none
  | .consumer => p.output.bind fun o => o.held.map (·.2)
  | .root =>
    match p.crew with
    | some (.alone m) => m.sending?
    | some (.team _ d _) => d.sending?
    | none => none
  | .child k =>
    match p.crew with
    | some (.team _ _ cs) => cs[k]?.bind fun c => c.member.sending?
    | _ => none

/-- Whoever was sending still is, under the same deadline. -/
def Pipeline.Sends (p p' : Pipeline) : Prop :=
  ∀ r t, p.sending? r = some t → p'.sending? r = some t

namespace Pipeline

variable {i : Nat} {role : Role} {p p' : Pipeline} {g g' : Ground} {o o' : Output}
  {w w' : Worker} {d d' : Distributor} {cs cs' : List Child} {m m' : Member}

theorem Sends.of_none (hc : p.crew = none) (ho : p.output = none) : p.Sends p' := by
  intro r t h
  cases r <;> simp [sending?, hc, ho] at h

theorem Sends.of_output (ho : p.output = some o) (hh : o.held ≠ none → o'.held = o.held) :
    p.Sends { p with output := some o' } := by
  intro r t h
  cases r with
  | consumer =>
    simp only [sending?, ho, Option.bind_some] at h ⊢
    rw [hh (by rintro hn; simp [hn] at h)]
    exact h
  | _ => exact h

theorem Sends.of_alone (hc : p.crew = some (.alone m)) (hc' : p'.crew = some (.alone m'))
    (ho : p'.output = p.output) (hm : m.sending? ≠ none → m'.sending? = m.sending?) :
    p.Sends p' := by
  intro r t h
  cases r with
  | supervisor => simp [sending?] at h
  | consumer => simpa [sending?, ho] using h
  | root =>
    simp only [sending?, hc, hc'] at h ⊢
    rw [hm (by simp [h]), h]
  | child k => simp [sending?, hc] at h

theorem Sends.of_team (hc : p.crew = some (.team w d cs)) (hc' : p'.crew = some (.team w' d' cs'))
    (ho : p'.output = p.output) (hd : d.sending? ≠ none → d'.sending? = d.sending?)
    (hcs : ∀ (k : Nat) (c : Child), cs[k]? = some c → c.member.sending? ≠ none →
      ∃ c', cs'[k]? = some c' ∧ c'.member.sending? = c.member.sending?) : p.Sends p' := by
  intro r t h
  cases r with
  | supervisor => simp [sending?] at h
  | consumer => simpa [sending?, ho] using h
  | root =>
    simp only [sending?, hc, hc'] at h ⊢
    rw [hd (by simp [h]), h]
  | child k =>
    simp only [sending?, hc, hc'] at h ⊢
    obtain ⟨c, hk, ht⟩ := Option.bind_eq_some_iff.1 h
    obtain ⟨c', hk', ht'⟩ := hcs k c hk (by simp [ht])
    rw [hk', Option.bind_some, ht', ht]

theorem Sends.of_child (hc : p.crew = some (.team w d cs)) {k : Nat} {c c' : Child}
    (hk : cs[k]? = some c) (hc' : p'.crew = some (.team w d (cs.set k c')))
    (ho : p'.output = p.output)
    (hm : c.member.sending? ≠ none → c'.member.sending? = c.member.sending?) : p.Sends p' := by
  refine .of_team hc hc' ho (fun _ => rfl) fun j e hj he => ?_
  rw [List.getElem?_set]
  by_cases hkj : k = j
  · subst hkj
    obtain rfl := Option.some.inj (hk.symm.trans hj)
    exact ⟨c', by simp [(List.getElem?_eq_some_iff.1 hk).1], hm he⟩
  · exact ⟨e, by simp [hkj, hj], rfl⟩

/-! ### Steps -/

/-- Work is done, or else nobody who is sending is interrupted. -/
def GetsOn (p p' : Pipeline) : Prop := p'.work < p.work ∨ (p'.work = p.work ∧ p.Sends p')

theorem GetsOn.of_le (hw : p'.work ≤ p.work) (hs : p.Sends p') : p.GetsOn p' := by
  rcases Nat.lt_or_eq_of_le hw with hlt | heq
  · exact .inl hlt
  · exact .inr ⟨heq, hs⟩

/-- An output that takes nothing up changes. -/
theorem GetsOn.of_output (ho : p.output = some o) (hw : o'.work ≤ o.work)
    (hh : o.held ≠ none → o'.held = o.held) (st : PipelineStatus) :
    p.GetsOn { p with status := st, output := some o' } := by
  refine .of_le ?_ fun r t hr => Sends.of_output ho hh r t hr
  simp only [work, ho, Option.map_some, Option.getD_some]
  omega

theorem getsOn_windDown (p : Pipeline) : p.GetsOn p.windDown := by
  unfold Pipeline.windDown
  split
  · exact .of_le (Nat.le_refl _) fun _ _ hr => hr
  · rename_i o ho
    exact .of_output ho (Nat.le_refl o.work) (fun _ => rfl) .stopping

/-- A member in a callback acts. What it gives to the output is work done. -/
theorem GetsOn.of_acts {x : Member.Place} {s : Sequencer} {b : Books} {now : Instant}
    (hx : Member.Acts now ⟨m, s, o, b⟩ x) (hb : m.worker.busy = true)
    (hcrash : ∀ l, m.processor.agenda ≠ .crash :: l)
    (hw : p'.work + (m.processor.work + o.work)
      ≤ p.work + (x.member.processor.work + x.output.work))
    (hs : x.output = o → (m.sending? ≠ none → x.member.sending? = m.sending?) → p.Sends p') :
    p.GetsOn p' := by
  rcases Member.work_acts (x := ⟨m, s, o, b⟩) hb hcrash hx with hlt | ⟨h1, h2, h3, -⟩ | ⟨h1, h2⟩
  · refine .inl ?_
    dsimp only at hlt
    omega
  · have h4 : x.output.work = o.work := congrArg Output.work h1
    have h5 : x.member.processor.work = m.processor.work := h2
    exact .of_le (by omega) (hs h1 fun hn => absurd (if_neg (by simp [h3])) hn)
  · have h4 : x.output.work = o.work := congrArg Output.work h1
    have h5 : x.member.processor.work = m.processor.work := by rw [h2]
    exact .of_le (by omega) (hs h1 fun _ => by rw [h2])

/-- What a step of a team comes to. -/
theorem work_team (hc : p.crew = some (.team w d cs)) (hc' : p'.crew = some (.team w' d' cs'))
    (ho : p'.output = p.output) :
    p'.work + (d.work + total Child.work cs + total Batch.work p.input.items)
      = p.work + (d'.work + total Child.work cs' + total Batch.work p'.input.items) := by
  simp only [work, hc, hc', ho, Option.map_some, Option.getD_some, Crew.work]
  omega

/-- The distributor is called and finds nothing to hand on, or ends a run. -/
theorem GetsOn.of_called (hc : p.crew = some (.team w d cs))
    (hc' : p'.crew = some (.team w' d' cs)) (ho : p'.output = p.output)
    (hq : p'.input.items = p.input.items) (ha : d.agenda = [])
    (hd : d'.work < d.work ∨ d'.work = d.work) : p.GetsOn p' := by
  have hteam := work_team hc hc' ho
  rw [hq] at hteam
  rcases hd with hlt | heq
  · exact .inl (by omega)
  · exact .of_le (by omega) (.of_team hc hc' ho (by simp [Distributor.sending?, ha])
      fun k c hk _ => ⟨c, hk, rfl⟩)

/-- The distributor does what takes no work. -/
theorem GetsOn.of_chore (hc : p.crew = some (.team w d cs)) {a : Delivery} {l : List Delivery}
    (ha : d.agenda = a :: l) (hoffer : ∀ b, a ≠ .offer b)
    (hc' : p'.crew = some (.team w d' cs')) (ho : p'.output = p.output) (hq : p'.input = p.input)
    (hd : d'.work = d.next.work)
    (hcs : total Child.work cs' = total Child.work cs)
    (hkeep : ∀ (k : Nat) (c : Child), cs[k]? = some c →
      ∃ c', cs'[k]? = some c' ∧ c'.member = c.member) : p.GetsOn p' := by
  have hteam := work_team hc hc' ho
  have hnext := Distributor.work_next ha
  rw [hq] at hteam
  refine .of_le (by omega) (.of_team hc hc' ho (fun hne => ?_) fun k c hk _ => ?_)
  · exfalso
    unfold Distributor.sending? at hne
    rw [ha] at hne
    split at hne
    · rename_i b l' hl
      exact hoffer b (List.cons.inj hl).1
    · exact hne rfl
  · obtain ⟨c', hk', hm⟩ := hkeep k c hk
    exact ⟨c', hk', by rw [hm]⟩

theorem GetsOn.of_alone_call (hc : p.crew = some (.alone m)) (ha : m.processor.agenda = [])
    {now : Instant} {ended : Bool} {cb : Callback Batch} {q : Queue Batch}
    (hcb : m.worker.Calls now ended p.input cb w q) :
    p.GetsOn { p with input := q, crew := some (.alone (m.begin now cb.unordered w)) } := by
  have hbegin := m.work_begin ha now cb.unordered w
  have hsends : p.Sends { p with input := q, crew := some (.alone (m.begin now cb.unordered w)) } :=
    .of_alone hc rfl rfl fun hn => absurd (Member.sending?_eq_none ha) hn
  cases hcb with
  | input hp hq =>
    refine .inl ?_
    simp only [Callback.unordered, OrderedBatch.unordered, Callback.records] at hbegin
    simp only [work, hc, hq, Option.map_some, Option.getD_some, Crew.work, total_cons, Batch.work,
      Callback.unordered, OrderedBatch.unordered]
    omega
  | tick hp | lastTick hp | stop hp =>
    refine .of_le ?_ hsends
    simp only [work, hc, Option.map_some, Option.getD_some, Crew.work]
    exact Nat.add_le_add_right (Nat.add_le_add_left hbegin _) _

theorem GetsOn.of_child_call (hc : p.crew = some (.team w d cs)) {k : Nat} {c : Child}
    (hk : cs[k]? = some c) (ha : c.member.processor.agenda = []) {now : Instant} {ended : Bool}
    {cb : Callback OrderedBatch} {q : Queue OrderedBatch}
    (hcb : c.member.worker.Calls now ended c.queue cb w' q) :
    p.GetsOn (p.withTeam w d (cs.set k ⟨q, c.member.begin now cb w'⟩)) := by
  have hbegin := c.member.work_begin ha now cb w'
  have hset := total_set Child.work hk ⟨q, c.member.begin now cb w'⟩
  have hsends : p.Sends (p.withTeam w d (cs.set k ⟨q, c.member.begin now cb w'⟩)) :=
    .of_child hc hk rfl rfl fun hn => absurd (Member.sending?_eq_none ha) hn
  simp only [Child.work] at hset
  cases hcb with
  | input hp hq =>
    refine .inl ?_
    simp only [Callback.records] at hbegin
    simp only [hq, total_cons, OrderedBatch.work] at hset
    simp only [work, withTeam, hc, Option.map_some, Option.getD_some, Crew.work]
    omega
  | tick hp | lastTick hp | stop hp =>
    refine .of_le ?_ hsends
    simp only [Callback.records] at hbegin
    simp only [work, withTeam, hc, Option.map_some, Option.getD_some, Crew.work]
    omega

/-- No step makes work, and none interrupts a send without work being done. -/
theorem Sound.work_step (h : p.Sound) (hs : Step i p g role p' g') : p.GetsOn p' := by
  have hrefl : p.GetsOn p := .of_le (Nat.le_refl _) fun _ _ hr => hr
  cases hs with
  | collect hst | noOutput hst =>
    exact .of_le (Nat.le_refl _) (.of_none (h.crewless (.inl hst)) (h.outputless (.inl hst)))
  | noStages hst ho =>
    refine .of_le ?_ (.of_none (h.crewless (.inl hst)) (h.outputless (.inl hst)))
    simp only [work, h.crewless (.inl hst), Output.work_start ho, Option.map_some, Option.getD_some]
    omega
  | launch hst ho hstages =>
    refine .of_le ?_ (.of_none (h.crewless (.inl hst)) (h.outputless (.inl hst)))
    simp only [work, Crew.work_start, Output.work_start ho, Option.map_some, Option.getD_some]
    omega
  | report hst hq | drain hst hq =>
    refine .inl ?_
    simp only [work, hq, total_cons, Batch.work]
    omega
  | reported hst hq | outputGone hst ho => exact .of_le (Nat.le_refl _) fun _ _ hr => hr
  | drained hst hq | crewGone hst hc => exact getsOn_windDown p
  | deliver ho hh | giveUp ho hh =>
    refine .inl ?_
    have := Output.work_lt_of_held hh
    simp only [work, ho, Option.map_some, Option.getD_some]
    omega
  | claim => exact hrefl
  | consumed ho hh hb =>
    rename_i o
    have hw : o.finish.work ≤ o.work := Nat.le_trans o.work_finish (Nat.le_add_right _ _)
    exact .of_output ho hw (fun hn => absurd hh hn) p.status
  | consume ho hh hb hc =>
    refine .inl ?_
    cases hc with
    | input hp hq =>
      simp only [work, ho, Option.map_some, Option.getD_some, Output.work, hh, hq,
        List.length_cons, Option.isSome_some, Option.isSome_none, ↓reduceIte, Bool.false_eq_true]
      omega
  | consumerCall ho hh hb hc hcb =>
    rename_i o w cb q
    have hq : q.items = o.queue.items := by
      cases hc with
      | input hp hq => exact absurd rfl (hcb _ _)
      | _ => rfl
    have hw : Output.work { o with consumer := w, queue := q } ≤ o.work := by
      simp [Output.work, hq]
    exact .of_output ho hw (fun _ => rfl) p.status
  | member hc ho hb hx =>
    rename_i m o x
    have hleave := work_leave Batch.work x.member.worker p.input
    refine .of_acts hx hb (h.crew _ hc).2.1.no_crash ?_ fun h1 hm =>
      .of_alone hc rfl (by rw [ho, h1]) hm
    simp only [work, hc, ho, Option.map_some, Option.getD_some, Crew.work]
    omega
  | memberCall hc hb hcb => exact .of_alone_call hc ((h.crew _ hc).2.2.idle hb) hcb
  | distributed hc hb ha =>
    rename_i w d cs
    refine .of_le ?_ (.of_team hc rfl rfl (fun _ => rfl) fun k c hk _ => ⟨c, hk, rfl⟩)
    have hleave := work_leave Batch.work w.finish p.input
    simp only [work, withTeam, hc, Option.map_some, Option.getD_some, Crew.work]
    omega
  | sent hc hb ha hd hq hr hroom =>
    rename_i w d cs b l c
    have hnext := Distributor.work_next ha
    have hset := total_set Child.work hq { c with queue := c.queue.push b }
    have hpush : Child.work { c with queue := c.queue.push b } = c.work + b.work := by
      simp [Child.work, Nat.add_assoc]
    refine .inl ?_
    simp only [Delivery.work] at hnext
    simp only [work, withTeam, hc, Option.map_some, Option.getD_some, Crew.work]
    omega
  | unsent hc hb ha =>
    have hnext := Distributor.work_next ha
    refine .inl ?_
    simp only [Delivery.work] at hnext
    simp only [work, withTeam, hc, Option.map_some, Option.getD_some, Crew.work]
    omega
  | rotate hc hb ha | awaited hc hb ha =>
    exact .of_chore hc ha (by simp) rfl rfl rfl rfl rfl fun k c hk => ⟨c, hk, rfl⟩
  | letGo hc hb ha =>
    exact .of_chore hc ha (by simp) rfl rfl rfl rfl (total_map ..) fun k c hk =>
      ⟨{ c with queue := c.queue.close }, by simp [hk], rfl⟩
  | receive hc hb hcb =>
    rename_i w w' d cs b deadline q
    have hlt := Distributor.work_receive ((h.crew _ hc).idle hb) g.now deadline b p.sequencer
    refine .inl ?_
    cases hcb with
    | input hp hq =>
      simp only [work, withTeam, hc, hq, Option.map_some, Option.getD_some, Crew.work, total_cons,
        Batch.work]
      omega
  | tick hc hb hcb =>
    have ha := TeamSound.idle (h.crew _ hc) hb
    exact .of_called hc rfl rfl (by cases hcb <;> rfl) ha
      ((Distributor.work_tick ha g.now).imp_right And.left)
  | stop hc hb hcb =>
    have ha := TeamSound.idle (h.crew _ hc) hb
    exact .of_called hc rfl rfl (by cases hcb; rfl) ha
      ((Distributor.work_stop ha g.now).imp_right And.left)
  | child hc hk ho hb hx =>
    rename_i w d cs k c o x
    have hm := (TeamSound.child (h.crew _ hc) k c hk).member
    have hset := total_set Child.work hk ⟨x.member.worker.leave c.queue, x.member⟩
    have hleave := work_leave OrderedBatch.work x.member.worker c.queue
    refine .of_acts hx hb hm.sound.no_crash ?_ fun h1 hm =>
      .of_child hc hk rfl (ho ▸ congrArg some h1) hm
    simp only [Child.work] at hset
    simp only [work, withTeam, hc, ho, Option.map_some, Option.getD_some, Crew.work]
    omega
  | childCall hc hk hb hcb =>
    exact .of_child_call hc hk ((TeamSound.child (h.crew _ hc) _ _ hk).member.idle hb) hcb
  | rest => exact hrefl

end Pipeline

end LogPipeline
