import LogPipeline.Proofs.Effort
import LogPipeline.Proofs.Fittings
import Mathlib.Data.Prod.Lex
import Mathlib.Order.WellFounded

/-!
# An instant comes to an end

Whoever is able to act gets on with the work of the pipeline, with its way to the end, or with the
chores of the instant (`Pipeline.Sound.act_lt`). All of these run out, so while the clock stands
still the parties act only so often, in whatever order they do.
-/

namespace LogPipeline

/-! ## Chores -/

def Crew.chores (now : Instant) : Crew → Nat
  | alone m => m.chores now
  | team w d cs => w.chores now + d.agenda.length + total (fun c => c.member.chores now) cs

/-- Beside the steps of its worker, an output puts in a claim with the destination, once for each
chunk. -/
def Output.chores (now : Instant) (claimed : Bool) (o : Output) : Nat :=
  o.consumer.chores now + (if o.held.isSome && !claimed then 1 else 0)

/-- How far a pipeline is from having stopped. -/
def PipelineStatus.rank : PipelineStatus → Nat
  | starting => 3
  | collecting | draining | running => 2
  | stopping => 1
  | stopped => 0

namespace Pipeline

def chores (now : Instant) (claimed : Bool) (p : Pipeline) : Nat :=
  (p.crew.map (Crew.chores now)).getD 0 + (p.output.map (Output.chores now claimed)).getD 0

/-- What is left to do for the pipeline with number `i` before the clock has to move. -/
def effort (i : Nat) (g : Ground) (p : Pipeline) : ℕ ×ₗ ℕ ×ₗ ℕ :=
  toLex (p.work, toLex (p.status.rank, p.chores g.now (g.destination.claims.contains i)))

theorem effort_lt {i : Nat} {g g' : Ground} {p p' : Pipeline} :
    p'.effort i g' < p.effort i g ↔ p'.work < p.work
      ∨ p'.work = p.work ∧ (p'.status.rank < p.status.rank
        ∨ p'.status.rank = p.status.rank
          ∧ p'.chores g'.now (g'.destination.claims.contains i)
            < p.chores g.now (g.destination.claims.contains i)) := by
  unfold effort
  rw [Prod.Lex.toLex_lt_toLex, Prod.Lex.toLex_lt_toLex]

end Pipeline

/-! ## Nobody able does nothing -/

theorem Worker.exists_next? {α : Type} {now : Instant} {ended : Bool} {q : Queue α} {w : Worker}
    (h : w.hasNext now ended q = true) : ∃ cb w' q', w.next? now ended q = some (cb, w', q') := by
  unfold Worker.hasNext at h
  unfold Worker.next? Queue.pop?
  cases hp : w.phase with
  | serving =>
    cases hq : q.items with
    | nil =>
      simp only [hp, hq, List.isEmpty_nil, Bool.not_true, Bool.false_or, Bool.or_eq_true,
        decide_eq_true_eq] at h ⊢
      by_cases he : ended = true
      · simp [he]
      · simp [he, h.resolve_left he]
    | cons a rest => simp
  | lastTick => simp
  | _ => simp [hp] at h

namespace Processor

/-- A task that is the processor's own business is done. -/
theorem agenda_act_ne (now : Instant) (p : Processor) (s : Sequencer) (b : Books)
    (hne : p.agenda ≠ []) (hw : p.isWaiting s = false) (ho : ∀ c l, p.agenda ≠ .offer c :: l)
    (hs : ∀ c l, p.agenda ≠ .sending c :: l) (hc : ∀ l, p.agenda ≠ .crash :: l) :
    (p.act now s b).1.agenda ≠ p.agenda := by
  obtain ⟨name, stages, maker, interval, maxPending, timeout, since, run, turn, pending, ordered,
    agenda, deadline⟩ := p
  rcases agenda with _ | ⟨t, l⟩
  · exact absurd rfl hne
  cases t with
  | join n =>
    simp only [act]
    rcases run with _ | m
    · simp [next]
    · dsimp only
      split <;> simp [next]
  | adopt n => simp [act, next]
  | process r =>
    simp only [act, processRecord]
    split
    · simp [next]
    · split
      · simp [next]
      · rename_i line _
        simp only [writeLine, next]
        cases (maker.write line).1 <;> simp
  | emit c =>
    simp only [act, emitChunk]
    split
    · simp [next]
    · split <;> simp [next]
  | awaitTurn =>
    simp only [isWaiting, Bool.not_eq_false'] at hw
    simp [act, hw, next]
  | forward => cases pending <;> simp [act, next]
  | forwardInTurn =>
    simp only [act]
    split <;> simp [next]
  | offer c => exact absurd rfl (ho c l)
  | sending c => exact absurd rfl (hs c l)
  | finish =>
    simp only [act, flushMaker, next]
    cases maker.flush.1 <;> simp
  | clear => cases pending <;> simp [act, next]
  | complete => simp [act, next]
  | flushStale t =>
    simp only [act]
    split
    · simp [next]
    · split
      · simp [next]
      · simp only [flushMaker, next]
        cases maker.flush.1 <;> simp
  | crash => exact absurd rfl (hc l)

end Processor

namespace Member

variable {now : Instant} {x : Place}

/-- A member in a callback that can go on gets on with the work or does a chore. -/
theorem work_busyAct (hb : x.member.worker.busy = true)
    (hcrash : ∀ l, x.member.processor.agenda ≠ .crash :: l)
    (hable : x.member.busyAble now x.sequencer x.output = true) :
    (busyAct now x).member.processor.work + (busyAct now x).output.work
        < x.member.processor.work + x.output.work
      ∨ ((busyAct now x).output = x.output
          ∧ (busyAct now x).member.processor.work = x.member.processor.work
          ∧ (busyAct now x).member.chores now < x.member.chores now) := by
  rcases work_acts hb hcrash (acts_busyAct now x) with hlt | ⟨h1, h2, -, h3⟩ | ⟨-, h2⟩
  · exact .inl hlt
  · exact .inr ⟨h1, h2, h3 now⟩
  · -- nothing was done, although the member could go on
    exfalso
    have hagenda := congrArg (fun m => m.processor.agenda) h2
    have hbusy := congrArg (fun m => m.worker.busy) h2
    have hact := Processor.agenda_act_ne now x.member.processor x.sequencer x.books
    rcases ha : x.member.processor.agenda with _ | ⟨t, l⟩
    · simp [busyAct, ha, Worker.finish, hb] at hbusy
    · cases t with
      | crash => exact hcrash l ha
      | offer c =>
        simp only [busyAct, ha] at hagenda
        split at hagenda <;> simp [Processor.asking, Processor.handedOver, Processor.next, ha]
          at hagenda
      | sending c =>
        simp only [busyAble, ha] at hable
        simp only [busyAct, ha] at hagenda
        have hdecided : x.output.queue.trySend now x.member.processor.deadline c ≠ .blocked := by
          rw [Ne, Queue.trySend_eq_blocked_iff, hable]
          simp
        unfold Output.trySend at hagenda
        split at hagenda
        · simp [Processor.handedOver, Processor.next, ha] at hagenda
        · rename_i hnone
          split at hnone <;> simp_all
      | _ =>
        have hw : x.member.processor.isWaiting x.sequencer = false := by
          simpa [busyAble, ha] using hable
        simp only [busyAct, ha] at hagenda
        exact hact (by simp [ha]) hw (by simp [ha]) (by simp [ha]) (by simp [ha])
          (hagenda.trans ha.symm)

/-- A callback that is not about a batch gets on with the work or leaves fewer chores. -/
theorem begin_lt {m : Member} (ha : m.processor.agenda = []) (now : Instant)
    (cb : Callback OrderedBatch) (w : Worker) (hcb : ∀ b deadline, cb ≠ .input b deadline)
    (hlt : w.chores now + 7 ≤ m.worker.chores now) :
    (m.begin now cb w).processor.work < m.processor.work
      ∨ (m.begin now cb w).chores now < m.chores now := by
  have hm : m.processor.chores = 0 := by simp [Processor.chores, ha]
  cases cb with
  | input b deadline => exact absurd rfl (hcb b deadline)
  | tick =>
    obtain ⟨-, hc⟩ := Processor.work_tick ha now
    refine .inr ?_
    simp only [chores, Member.begin, hm, hc]
    omega
  | stop =>
    rcases Processor.work_stop ha now with hw | ⟨-, hc⟩
    · exact .inl hw
    · refine .inr ?_
      simp only [chores, Member.begin, hm]
      omega

end Member

theorem Destination.offer_of_decides {now deadline : Instant} {i : Nat} {t : TaggedChunk}
    {d : Destination} (h : d.decides now deadline i = true) :
    (d.offer now deadline i t).1 ≠ .waiting := by
  simp only [Destination.decides, Bool.or_eq_true, Bool.not_eq_true', decide_eq_true_eq] at h
  unfold Destination.offer
  split
  · simp
  · split
    · simp
    · rename_i hread hroom
      have hlate : deadline ≤ now := by simp_all
      simp [hlate]

theorem Destination.offer_of_not_decides {now deadline : Instant} {i : Nat} {t : TaggedChunk}
    {d : Destination} (h : d.decides now deadline i = false) :
    d.offer now deadline i t = (.waiting, d.claim i) := by
  simp only [Destination.decides, Bool.or_eq_false_iff, Bool.not_eq_false',
    decide_eq_false_iff_not] at h
  simp [Destination.offer, h.1.1, h.1.2, h.2]

/-- The consumer is done with a chunk, puts in its claim, or gets on with its callbacks. -/
theorem Output.consume_lt {now : Instant} {sending : Bool} {i : Nat} {d : Destination} {o : Output}
    (b : Books) (hi : o.consumer.settings.tickInterval ≠ 0)
    (hable : o.consumerAble now sending i d = true) :
    (o.consume now sending i d b).1.work < o.work
      ∨ (o.consume now sending i d b).1.chores now
          ((o.consume now sending i d b).2.1.claims.contains i)
        < o.chores now (d.claims.contains i) := by
  unfold consumerAble at hable
  rcases hh : o.held with _ | ⟨c, deadline⟩
  · simp only [hh] at hable
    by_cases hb : o.consumer.busy = true
    · refine .inr ?_
      have := Worker.chores_finish hb now
      simp only [consume, hh, hb, ↓reduceIte, chores, finish, Option.isSome_none, Bool.false_and,
        Bool.false_eq_true]
      omega
    · have hb := Bool.eq_false_iff.2 hb
      simp only [hb, Bool.false_or] at hable
      obtain ⟨cb, w, q, hn⟩ := Worker.exists_next? hable
      have hcall := Worker.calls_of_next? hn
      cases cb with
      | input c deadline =>
        refine .inl ?_
        cases hcall with
        | input hp hq =>
          simp only [consume, hh, hb, hn, Bool.false_eq_true, ↓reduceIte, work, hq,
            Option.isSome_some, Option.isSome_none, List.length_cons]
          omega
      | tick | stop =>
        refine .inr ?_
        have hlt := (Worker.chores_next? hi hb hn).resolve_left (by simp)
        simp only [consume, hh, hb, hn, Bool.false_eq_true, ↓reduceIte, chores,
          Option.isSome_none, Bool.false_and]
        omega
  · simp only [hh, Destination.concerns, Bool.or_eq_true, Bool.not_eq_true'] at hable
    by_cases hdec : d.decides now deadline i = true
    · refine .inl ?_
      have hne := Destination.offer_of_decides (t := ⟨o.tag, o.id, c⟩) hdec
      have hfinish : (o.consume now sending i d b).1 = o.finish := by
        simp only [consume, hh]
        split <;> simp_all
      rw [hfinish]
      exact work_lt_of_held hh
    · have hclaims := hable.resolve_right hdec
      have hoffer := Destination.offer_of_not_decides (t := ⟨o.tag, o.id, c⟩)
        (Bool.eq_false_iff.2 hdec)
      refine .inr ?_
      have hclaim : (d.claim i).claims.contains i = true := by
        unfold Destination.claim
        split <;> simp_all
      simp only [consume, hh, hoffer, chores, hclaim, hclaims, Option.isSome_some, Bool.not_true,
        Bool.and_false, Bool.not_false, Bool.and_true, Bool.false_eq_true, ↓reduceIte]
      omega

/-! ## Parties -/

namespace Pipeline

variable {i k : Nat} {p : Pipeline} {g : Ground} {w : Worker} {d : Distributor} {cs : List Child}
  {c : Child} {m : Member} {o : Output}

theorem rank_windDown_lt (hr : p.status.rank = 2) : p.windDown.status.rank < p.status.rank := by
  rw [hr]
  unfold Pipeline.windDown
  split
  · exact Nat.zero_lt_succ 1
  · exact Nat.lt_succ_self 1

/-- The supervisor takes a batch, or the pipeline gets on. -/
theorem supervise_lt (hable : p.supervisorAble = true) :
    (p.supervise g).1.work < p.work ∨ (p.supervise g).1.status.rank < p.status.rank := by
  have htake : ∀ {b : Batch} {rest : List Batch} {st : PipelineStatus}, p.input.items = b :: rest →
      Pipeline.work { p with status := st, input.items := rest } < p.work := by
    intro b rest st hq
    simp only [work, hq, total_cons, Batch.work]
    omega
  unfold supervisorAble at hable
  unfold supervise
  cases hs : p.status with
  | starting =>
    refine .inr ?_
    dsimp only
    unfold Pipeline.start
    repeat' split
    all_goals exact Nat.lt_succ_self 2
  | collecting =>
    cases hq : p.input.items with
    | nil =>
      have hf : p.input.isFinished = true := by simpa [hs, hq] using hable
      simp [Queue.pop?, hq, hf, PipelineStatus.rank]
    | cons b rest =>
      refine .inl ?_
      simpa [Queue.pop?, hq] using htake hq
  | draining =>
    cases hq : p.input.items with
    | nil =>
      have hf : p.input.isFinished = true := by simpa [hs, hq] using hable
      refine .inr ?_
      have hlt := rank_windDown_lt (p := p) (by simp [hs, PipelineStatus.rank])
      simpa [Queue.pop?, hq, hf, hs] using hlt
    | cons b rest =>
      refine .inl ?_
      simpa [Queue.pop?, hq] using htake hq
  | running =>
    have hf : p.crew.all (·.root.isStopped) = true := by simpa [hs] using hable
    refine .inr ?_
    simpa [hf, hs] using rank_windDown_lt (p := p) (by simp [hs, PipelineStatus.rank])
  | stopping =>
    have hf : p.output.all Output.isDrained = true := by simpa [hs] using hable
    simp [hf, PipelineStatus.rank]
  | stopped => simp [hs] at hable

/-- No step adds to the work, so it is enough to get on with the chores. -/
theorem Sound.effort_lt (h : p.Sound) {role : Role} {p' : Pipeline} {g' : Ground}
    (hs : Step i p g role p' g') (hst : p'.status = p.status)
    (hc : p'.chores g'.now (g'.destination.claims.contains i)
      < p.chores g.now (g.destination.claims.contains i)) : p'.effort i g' < p.effort i g := by
  rw [Pipeline.effort_lt]
  rcases h.work_step hs with hlt | ⟨heq, -⟩
  · exact .inl hlt
  · exact .inr ⟨heq, .inr ⟨by rw [hst], hc⟩⟩

theorem Sound.consume_lt (h : p.Sound) (ho : p.output = some o)
    (hi : o.consumer.settings.tickInterval ≠ 0) (hable : p.able g i .consumer = true) :
    (p.act i .consumer g).1.effort i (p.act i .consumer g).2 < p.effort i g := by
  have hs := step_consume (i := i) (g := g) ho
  simp only [able, ho, Option.any_some] at hable
  have hact : p.act i .consumer g
      = ({ p with output := some (o.consume g.now p.isSending i g.destination g.books).1 },
        { g with
          destination := (o.consume g.now p.isSending i g.destination g.books).2.1
          books := (o.consume g.now p.isSending i g.destination g.books).2.2 }) := by
    simp only [act, ho]
  rcases Output.consume_lt g.books hi hable with hlt | hlt
  · refine Pipeline.effort_lt.2 (.inl ?_)
    rw [hact]
    simp only [work, ho, Option.map_some, Option.getD_some]
    omega
  · refine h.effort_lt hs (by rw [hact]) ?_
    rw [hact]
    simp only [chores, ho, Option.map_some, Option.getD_some]
    omega

/-! ### Members -/

theorem Sound.processInput_lt_of_busy (h : p.Sound) (hc : p.crew = some (.alone m))
    (ho : p.output = some o) (hb : m.worker.busy = true)
    (hable : m.busyAble g.now p.sequencer o = true) :
    (p.processInput m g).1.effort i (p.processInput m g).2 < p.effort i g := by
  obtain ⟨-, hplain, hm⟩ := h.crew _ hc
  let x := Member.busyAct g.now ⟨m, p.sequencer, o, g.books⟩
  have hact : p.processInput m g
      = ({ p with
            crew := some (.alone x.member)
            input := x.member.worker.leave p.input
            sequencer := x.sequencer
            output := some x.output }, { g with books := x.books }) := by
    simp only [processInput, hb, ↓reduceIte, memberAct, ho, x]
  rcases Member.work_busyAct (x := ⟨m, p.sequencer, o, g.books⟩) hb hplain.no_crash hable with
    hlt | ⟨h1, -, h3⟩
  · have hleave := work_leave Batch.work x.member.worker p.input
    refine Pipeline.effort_lt.2 (.inl ?_)
    rw [hact]
    simp only [work, hc, ho, Option.map_some, Option.getD_some, Crew.work]
    dsimp only [x] at hlt hleave ⊢
    omega
  · refine h.effort_lt (step_processInput hc (h.manned (by simp [hc]))) (by rw [hact]) ?_
    rw [hact]
    simp only [chores, hc, ho, Option.map_some, Option.getD_some, Crew.chores, x, h1]
    dsimp only at h3
    omega

theorem Sound.processInput_lt_of_idle (h : p.Sound) (hc : p.crew = some (.alone m))
    (hi : m.worker.settings.tickInterval ≠ 0) (hb : m.worker.busy = false)
    (hnext : m.worker.hasNext g.now (!p.input.isOpen) p.input = true) :
    (p.processInput m g).1.effort i (p.processInput m g).2 < p.effort i g := by
  have ha := (h.crew _ hc).2.2.idle hb
  obtain ⟨cb, w, q, hn⟩ := Worker.exists_next? hnext
  have hact : p.processInput m g
      = ({ p with input := q, crew := some (.alone (m.begin g.now cb.unordered w)) }, g) := by
    simp only [processInput, hb, Bool.false_eq_true, ↓reduceIte, hn]
    cases cb <;> rfl
  have hcall := Worker.calls_of_next? hn
  have hinput := m.work_begin ha g.now cb.unordered w
  have hother := m.begin_lt ha g.now cb.unordered w
  cases cb with
  | input b deadline =>
    refine Pipeline.effort_lt.2 (.inl ?_)
    rw [hact]
    cases hcall with
    | input hp hq =>
      simp only [Callback.unordered, Callback.records, OrderedBatch.unordered] at hinput
      simp only [work, hc, hq, Option.map_some, Option.getD_some, Crew.work, total_cons,
        Batch.work, Callback.unordered, OrderedBatch.unordered]
      omega
  | tick | stop =>
    have hlt := (Worker.chores_next? hi hb hn).resolve_left (by simp)
    have hq : q.items = p.input.items := by cases hcall <;> rfl
    rcases hother (by simp [Callback.unordered]) hlt with hw | hw
    · refine Pipeline.effort_lt.2 (.inl ?_)
      rw [hact]
      simp only [work, hc, hq, Option.map_some, Option.getD_some, Crew.work]
      omega
    · refine h.effort_lt (step_processInput hc (h.manned (by simp [hc]))) (by rw [hact]) ?_
      rw [hact]
      simp only [chores, hc, Option.map_some, Option.getD_some, Crew.chores]
      omega

/-- A member on its own gets on. -/
theorem Sound.processInput_lt (h : p.Sound) (hc : p.crew = some (.alone m))
    (hi : m.worker.settings.tickInterval ≠ 0) (hable : p.memberAble g.now p.input m = true) :
    (p.processInput m g).1.effort i (p.processInput m g).2 < p.effort i g := by
  obtain ⟨o, ho⟩ := Option.ne_none_iff_exists'.1 (h.manned (by simp [hc]))
  unfold memberAble at hable
  split at hable
  · rw [ho, Option.any_some] at hable
    exact h.processInput_lt_of_busy hc ho ‹_› hable
  · exact h.processInput_lt_of_idle hc hi (by simpa using ‹¬m.worker.busy = true›) hable

theorem Sound.processQueue_lt_of_busy (h : p.Sound) (hc : p.crew = some (.team w d cs))
    (hk : cs[k]? = some c) (ho : p.output = some o) (hb : c.member.worker.busy = true)
    (hable : c.member.busyAble g.now p.sequencer o = true) :
    (p.act i (.child k) g).1.effort i (p.act i (.child k) g).2 < p.effort i g := by
  have hm := (TeamSound.child (h.crew _ hc) k c hk).member
  have hwork := fun c' => total_set Child.work hk c'
  have hchores := fun c' => total_set (fun c : Child => c.member.chores g.now) hk c'
  let x := Member.busyAct g.now ⟨c.member, p.sequencer, o, g.books⟩
  have hact : p.act i (.child k) g
      = ({ p with
            crew := some (.team w d (cs.set k ⟨x.member.worker.leave c.queue, x.member⟩))
            sequencer := x.sequencer
            output := some x.output }, { g with books := x.books }) := by
    simp only [act, hc, hk, processQueue, hb, ↓reduceIte, memberAct, ho, x]
  rcases Member.work_busyAct (x := ⟨c.member, p.sequencer, o, g.books⟩) hb hm.sound.no_crash hable
    with hlt | ⟨h1, -, h3⟩
  · have hleave := work_leave OrderedBatch.work x.member.worker c.queue
    have hset := hwork ⟨x.member.worker.leave c.queue, x.member⟩
    refine Pipeline.effort_lt.2 (.inl ?_)
    rw [hact]
    simp only [Child.work] at hset
    simp only [work, hc, ho, Option.map_some, Option.getD_some, Crew.work]
    dsimp only [x] at hlt hleave hset ⊢
    omega
  · have hset := hchores ⟨x.member.worker.leave c.queue, x.member⟩
    refine h.effort_lt (step_processQueue hc hk (h.manned (by simp [hc]))) (by rw [hact]) ?_
    rw [hact]
    simp only [chores, hc, ho, Option.map_some, Option.getD_some, Crew.chores, x, h1]
    dsimp only [x] at h3 hset ⊢
    omega

theorem Sound.processQueue_lt_of_idle (h : p.Sound) (hc : p.crew = some (.team w d cs))
    (hk : cs[k]? = some c) (hi : c.member.worker.settings.tickInterval ≠ 0)
    (hb : c.member.worker.busy = false)
    (hnext : c.member.worker.hasNext g.now (!c.queue.isOpen) c.queue = true) :
    (p.act i (.child k) g).1.effort i (p.act i (.child k) g).2 < p.effort i g := by
  have ha := (TeamSound.child (h.crew _ hc) k c hk).member.idle hb
  have hwork := fun c' => total_set Child.work hk c'
  have hchores := fun c' => total_set (fun c : Child => c.member.chores g.now) hk c'
  obtain ⟨cb, w', q, hn⟩ := Worker.exists_next? hnext
  have hact : p.act i (.child k) g
      = (p.withTeam w d (cs.set k ⟨q, c.member.begin g.now cb w'⟩), g) := by
    simp only [act, hc, hk, processQueue, hb, Bool.false_eq_true, ↓reduceIte, hn]
    rfl
  have hset := hwork ⟨q, c.member.begin g.now cb w'⟩
  have hset' := hchores ⟨q, c.member.begin g.now cb w'⟩
  simp only [Child.work] at hset
  have hcall := Worker.calls_of_next? hn
  have hinput := c.member.work_begin ha g.now cb w'
  have hother := c.member.begin_lt ha g.now cb w'
  cases cb with
  | input b deadline =>
    refine Pipeline.effort_lt.2 (.inl ?_)
    rw [hact]
    cases hcall with
    | input hp hq =>
      simp only [Callback.records] at hinput
      simp only [hq, total_cons, OrderedBatch.work] at hset
      simp only [work, withTeam, hc, Option.map_some, Option.getD_some, Crew.work]
      omega
  | tick | stop =>
    have hlt := (Worker.chores_next? hi hb hn).resolve_left (by simp)
    have hq : q.items = c.queue.items := by cases hcall <;> rfl
    rw [hq] at hset
    rcases hother (by simp) hlt with hw | hw
    · refine Pipeline.effort_lt.2 (.inl ?_)
      rw [hact]
      simp only [work, withTeam, hc, Option.map_some, Option.getD_some, Crew.work]
      omega
    · refine h.effort_lt (step_processQueue hc hk (h.manned (by simp [hc]))) (by rw [hact]; rfl) ?_
      rw [hact]
      dsimp only at hset'
      simp only [chores, withTeam, hc, Option.map_some, Option.getD_some, Crew.chores]
      omega

/-- A member behind the distributor gets on. -/
theorem Sound.processQueue_lt (h : p.Sound) (hc : p.crew = some (.team w d cs))
    (hk : cs[k]? = some c) (hi : c.member.worker.settings.tickInterval ≠ 0)
    (hable : p.memberAble g.now c.queue c.member = true) :
    (p.act i (.child k) g).1.effort i (p.act i (.child k) g).2 < p.effort i g := by
  obtain ⟨o, ho⟩ := Option.ne_none_iff_exists'.1 (h.manned (by simp [hc]))
  unfold memberAble at hable
  split at hable
  · rw [ho, Option.any_some] at hable
    exact h.processQueue_lt_of_busy hc hk ho ‹_› hable
  · exact h.processQueue_lt_of_idle hc hk hi (by simpa using ‹¬c.member.worker.busy = true›) hable

/-! ### The distributor -/

/-- An offer that is decided is made. -/
theorem exists_offer {now : Instant} {cs : List Child} {d : Distributor}
    (hable : (currentQueue d cs).all (·.decides now d.deadline) = true) (b : OrderedBatch)
    (s : Sequencer) (books : Books) :
    ∃ y, d.offer now (currentQueue d cs) b s books = some y := by
  rcases hy : d.offer now (currentQueue d cs) b s books with _ | y
  · exfalso
    unfold Distributor.offer at hy
    split at hy
    · simp at hy
    · rename_i q hq
      rw [hq, Option.all_some] at hable
      split at hy
      · simp at hy
      · simp at hy
      · rename_i hblocked
        rw [Queue.trySend_eq_blocked_iff, hable] at hblocked
        simp at hblocked
  · exact ⟨y, rfl⟩

/-- A delivery that is done is one chore less. -/
theorem Sound.delivered_lt (h : p.Sound) (hc : p.crew = some (.team w d cs)) {a : Delivery}
    {l : List Delivery} (ha : d.agenda = a :: l) (d' : Distributor) (cs' : List Child)
    (hact : ∃ s books, p.distribute w d cs g
      = ({ p.withTeam w d' cs' with sequencer := s }, { g with books := books }))
    (hl : d'.agenda = l)
    (hcs : total (fun c => c.member.chores g.now) cs' = total (fun c => c.member.chores g.now) cs) :
    (p.distribute w d cs g).1.effort i (p.distribute w d cs g).2 < p.effort i g := by
  obtain ⟨s, books, hact⟩ := hact
  refine h.effort_lt (step_distribute hc) (by rw [hact]; rfl) ?_
  rw [hact]
  simp only [chores, withTeam, hc, Option.map_some, Option.getD_some, Crew.chores, ha, hl, hcs,
    List.length_cons]
  omega

/-- The distributor gets on with its deliveries. -/
theorem Sound.deliver_lt (h : p.Sound) (hc : p.crew = some (.team w d cs)) (hb : w.busy = true)
    {a : Delivery} {l : List Delivery} (ha : d.agenda = a :: l)
    (hable : p.distributorAble g.now w d cs = true) :
    (p.distribute w d cs g).1.effort i (p.distribute w d cs g).2 < p.effort i g := by
  have hl : d.next.agenda = l := by simp [Distributor.next, ha]
  unfold distributorAble at hable
  simp only [hb, ha, ↓reduceIte] at hable
  cases a with
  | offer b =>
    obtain ⟨y, hy⟩ := exists_offer hable b p.sequencer g.books
    have hd : y.distributor.agenda = l := Distributor.next_of_offer hy ▸ hl
    rcases hq : y.queue with _ | q
    · refine h.delivered_lt hc ha y.distributor cs ⟨y.sequencer, y.books, ?_⟩ hd rfl
      simp only [distribute, hb, ha, hy, hq, ↓reduceIte]
      rfl
    · refine h.delivered_lt hc ha y.distributor (cs.modify d.current ({ · with queue := q }))
        ⟨y.sequencer, y.books, ?_⟩ hd ?_
      · simp only [distribute, hb, ha, hy, hq, ↓reduceIte]
        rfl
      · refine total_modify (fun _ => ?_) cs d.current
        rfl
  | rotate =>
    refine h.delivered_lt hc ha d.rotate cs ⟨p.sequencer, g.books, ?_⟩ hl rfl
    simp only [distribute, hb, ha, ↓reduceIte]
    rfl
  | closeChildren =>
    refine h.delivered_lt hc ha d.letGo (cs.map fun c => { c with queue := c.queue.close })
      ⟨p.sequencer, g.books, ?_⟩ hl (total_map ..)
    simp only [distribute, hb, ha, ↓reduceIte]
    rfl
  | awaitChildren =>
    refine h.delivered_lt hc ha d.next cs ⟨p.sequencer, g.books, ?_⟩ hl rfl
    simp only [distribute, hb, ha, hable, ↓reduceIte]
    rfl

/-- The distributor is called by the clock or for the last time. -/
theorem Sound.called_lt (h : p.Sound) (hc : p.crew = some (.team w d cs)) {w' : Worker}
    (d' : Distributor) {q : Queue Batch}
    (hact : p.distribute w d cs g = ({ p.withTeam w' d' cs with input := q }, g))
    (hq : q.items = p.input.items) (hlt : w'.chores g.now + 7 ≤ w.chores g.now)
    (hd : d'.work < d.work ∨ d'.agenda.length ≤ 2) :
    (p.distribute w d cs g).1.effort i (p.distribute w d cs g).2 < p.effort i g := by
  rcases hd with hw | hd
  · refine Pipeline.effort_lt.2 (.inl ?_)
    rw [hact]
    simp only [work, withTeam, hc, hq, Option.map_some, Option.getD_some, Crew.work]
    omega
  · refine h.effort_lt (step_distribute hc) (by rw [hact]; rfl) ?_
    rw [hact]
    simp only [chores, withTeam, hc, Option.map_some, Option.getD_some, Crew.chores]
    omega

/-- The distributor takes up its next callback. -/
theorem Sound.begin_lt (h : p.Sound) (hc : p.crew = some (.team w d cs)) (hb : w.busy = false)
    (hi : w.settings.tickInterval ≠ 0) (hnext : w.hasNext g.now (!p.input.isOpen) p.input = true) :
    (p.distribute w d cs g).1.effort i (p.distribute w d cs g).2 < p.effort i g := by
  have ha := TeamSound.idle (h.crew _ hc) hb
  obtain ⟨cb, w', q, hn⟩ := Worker.exists_next? hnext
  have hcall := Worker.calls_of_next? hn
  cases cb with
  | input b deadline =>
    have hact : p.distribute w d cs g
        = ({ p.withTeam w' (d.receive g.now deadline b p.sequencer).1 cs with
            input := q
            sequencer := (d.receive g.now deadline b p.sequencer).2 }, g) := by
      simp only [distribute, hb, hn, Bool.false_eq_true, ↓reduceIte]
      rfl
    have hlt := Distributor.work_receive ha g.now deadline b p.sequencer
    refine Pipeline.effort_lt.2 (.inl ?_)
    rw [hact]
    cases hcall with
    | input hp hq =>
      simp only [work, withTeam, hc, hq, Option.map_some, Option.getD_some, Crew.work, total_cons,
        Batch.work]
      omega
  | tick =>
    have hq : q.items = p.input.items := by cases hcall <;> rfl
    have hlt := (Worker.chores_next? hi hb hn).resolve_left (by simp)
    refine h.called_lt hc (d.tick g.now) ?_ hq hlt ?_
    · simp only [distribute, hb, hn, Bool.false_eq_true, ↓reduceIte]
      rfl
    · rcases Distributor.work_tick ha g.now with hw | ⟨-, hl⟩
      · exact .inl hw
      · exact .inr (by simp [hl])
  | stop =>
    have hq : q.items = p.input.items := by cases hcall; rfl
    have hlt := (Worker.chores_next? hi hb hn).resolve_left (by simp)
    refine h.called_lt hc (d.stop g.now) ?_ hq hlt ?_
    · simp only [distribute, hb, hn, Bool.false_eq_true, ↓reduceIte]
      rfl
    · rcases Distributor.work_stop ha g.now with hw | ⟨-, hl⟩
      · exact .inl hw
      · exact .inr (by simp [hl])

/-- The distributor gets on. -/
theorem Sound.distribute_lt (h : p.Sound) (hc : p.crew = some (.team w d cs))
    (hi : w.settings.tickInterval ≠ 0) (hable : p.distributorAble g.now w d cs = true) :
    (p.distribute w d cs g).1.effort i (p.distribute w d cs g).2 < p.effort i g := by
  by_cases hb : w.busy = true
  · rcases ha : d.agenda with _ | ⟨a, l⟩
    · have hact : p.distribute w d cs g
          = ({ p.withTeam w.finish d cs with input := w.finish.leave p.input }, g) := by
        simp only [distribute, hb, ha, ↓reduceIte]
        rfl
      have hlt := Worker.chores_finish hb g.now
      refine h.effort_lt (step_distribute hc) (by rw [hact]; rfl) ?_
      rw [hact]
      simp only [chores, withTeam, hc, Option.map_some, Option.getD_some, Crew.chores]
      omega
    · exact h.deliver_lt hc hb ha hable
  · have hb := Bool.eq_false_iff.2 hb
    refine h.begin_lt hc hb hi ?_
    simpa [distributorAble, hb] using hable

/-- Whoever is able to act brings the instant closer to its end. -/
theorem Sound.act_lt (h : p.Sound) (hf : p.Fitted g.blueprint)
    (hcheck : g.blueprint.settings.check = .ok ()) {role : Role} (hable : p.able g i role = true) :
    (p.act i role g).1.effort i (p.act i role g).2 < p.effort i g := by
  have hi : ∀ w : Worker, w.settings = g.blueprint.worker → w.settings.tickInterval ≠ 0 :=
    fun w hw => hw ▸ (PipelineSettings.of_check hcheck).2.2.2
  cases role with
  | supervisor =>
    rcases supervise_lt (g := g) hable with hlt | hlt
    · exact Pipeline.effort_lt.2 (.inl hlt)
    · rcases h.work_step (step_supervise i p g) with hw | ⟨hw, -⟩
      · exact Pipeline.effort_lt.2 (.inl hw)
      · exact Pipeline.effort_lt.2 (.inr ⟨hw, .inl hlt⟩)
  | consumer =>
    cases ho : p.output with
    | none => simp [able, ho] at hable
    | some o => exact h.consume_lt ho (hi _ (hf.output o ho).consumer) hable
  | root =>
    rcases hc : p.crew with _ | (m | ⟨w, d, cs⟩)
    · simp [able, hc] at hable
    · simp only [able, hc] at hable
      simp only [act, hc]
      exact h.processInput_lt hc (hi _ (hf.crew _ hc).worker) hable
    · simp only [able, hc] at hable
      simp only [act, hc]
      exact h.distribute_lt hc (hi _ (hf.crew _ hc).1) hable
  | child k =>
    rcases hc : p.crew with _ | (m | ⟨w, d, cs⟩)
    · simp [able, hc] at hable
    · simp [able, hc] at hable
    · cases hk : cs[k]? with
      | none => simp [able, hc, hk] at hable
      | some c =>
        simp only [able, hc, hk, Option.any_some] at hable
        have hm := ((hf.crew _ hc).2.2 c (List.mem_of_getElem? hk)).member
        exact h.processQueue_lt hc hk (hi _ hm.worker) hable

end Pipeline

end LogPipeline
