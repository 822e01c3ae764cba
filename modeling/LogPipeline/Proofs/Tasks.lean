import LogPipeline.Processor
import Mathlib.Tactic.Common

/-!
# What a task does

`Processor.act` reads its agenda once, and every invariant of a processor asks the same of it: which
task was done, what was true at that moment, and what has changed. `Processor.Step` lists the
answers, one for each way through a task, and `step_act` is the only proof that opens `act`.
-/

namespace LogPipeline

namespace ChunkMaker

@[simp] theorem hasPending_emptied (m : ChunkMaker) : m.emptied.hasPending = false := by
  simp [hasPending, emptied]

/-- A maker that was flushed builds no chunk. -/
@[simp] theorem hasPending_flush (m : ChunkMaker) : m.flush.2.hasPending = false := by
  unfold flush
  split
  · simp
  · exact Bool.eq_false_iff.2 ‹_›

theorem isSome_flush (m : ChunkMaker) : m.flush.1.isSome = m.hasPending := by
  unfold flush
  split
  · exact ‹m.hasPending = true›.symm
  · exact (Bool.eq_false_iff.2 ‹_›).symm

end ChunkMaker

/-- The line that a record is written as, if it passes the rules. -/
def Stages.line? (g : Stages) (r : Record) : Option ByteArray :=
  match Rule.applyAll g.rules r with
  | (.pass, r) => g.write r
  | (.drop, _) => none

namespace Processor

variable {now : Instant} {p : Processor} {s : Sequencer} {b : Books}

/-- The line that the first task writes, if it does. -/
def line? (p : Processor) : Option ByteArray :=
  match p.agenda with
  | .process r :: _ => p.stages.line? r
  | _ => none

/-- A task is done at time `now`. The last constructor covers what `act` leaves to others, and a
wait for a turn that has not come. -/
inductive Step (now : Instant) (p : Processor) (s : Sequencer) (b : Books) :
    Processor → Sequencer → Books → Prop where
  | joinFirst {l : List Task} {n : Nat} (ha : p.agenda = .join n :: l) (hr : p.run = none) :
    Step now p s b { p with ordered := true, agenda := .adopt n :: l } s b
  | joinSame {l : List Task} {n : Nat} (ha : p.agenda = .join n :: l) (hr : p.run = some n) :
    Step now p s b { p with ordered := true, agenda := l } (s.release n) b
  | joinOther {l : List Task} {m n : Nat} (ha : p.agenda = .join n :: l) (hr : p.run = some m)
      (hne : m ≠ n) :
    Step now p s b { p with ordered := true, agenda := .finish :: .adopt n :: l } s b
  | adopt {l : List Task} {n : Nat} (ha : p.agenda = .adopt n :: l) :
    Step now p s b { p with run := some n, turnHeld := false, agenda := l } s b
  | filtered {l : List Task} {r r' : Record} (ha : p.agenda = .process r :: l)
      (hv : Rule.applyAll p.stages.rules r = (.drop, r')) :
    Step now p s b { p with agenda := l } s
      { b with pool := b.pool.release r', counters := b.counters.filtered }
  | unwritten {l : List Task} {r r' : Record} (ha : p.agenda = .process r :: l)
      (hv : Rule.applyAll p.stages.rules r = (.pass, r')) (hw : p.stages.write r' = none) :
    Step now p s b { p with agenda := l } s
      { b with pool := b.pool.release r', counters := b.counters.lost 1 }
  | written {l : List Task} {r r' : Record} {line : ByteArray} {since : Option Instant}
      (ha : p.agenda = .process r :: l)
      (hv : Rule.applyAll p.stages.rules r = (.pass, r')) (hw : p.stages.write r' = some line)
      (hs : since = if (p.maker.write line).1.isSome || p.bufferedSince.isNone then some now
        else p.bufferedSince) :
    Step now p s b
      { p with
        maker := (p.maker.write line).2
        bufferedSince := since
        agenda := (p.maker.write line).1.toList.map Task.emit ++ l } s
      { b with pool := b.pool.release r', counters := b.counters.serialized }
  | hand {l : List Task} {c : Chunk} (ha : p.agenda = .emit c :: l) (ht : p.inTurn s = true) :
    Step now p s b { p.noteTurn s with agenda := .forward :: .offer c :: l } s b
  | hold {l : List Task} {c : Chunk} {tasks : List Task} (ha : p.agenda = .emit c :: l)
      (ht : p.inTurn s = false) (htasks : tasks = [] ∨ tasks = [.awaitTurn, .forward])
      (hroom : tasks = [] → p.pending.length + 1 < p.maxPending) :
    Step now p s b { p with pending := p.pending ++ [c], agenda := tasks ++ l } s b
  | await {l : List Task} (ha : p.agenda = .awaitTurn :: l) (ht : p.inTurn s = true) :
    Step now p s b { p with turnHeld := true, agenda := l } s b
  | forwarded {l : List Task} (ha : p.agenda = .forward :: l) (hp : p.pending = []) :
    Step now p s b { p with agenda := l } s b
  | forward {l : List Task} {c : Chunk} {rest : List Chunk} (ha : p.agenda = .forward :: l)
      (hp : p.pending = c :: rest) :
    Step now p s b { p with pending := rest, agenda := .offer c :: .forward :: l } s b
  | allow {l : List Task} (ha : p.agenda = .forwardInTurn :: l) (ht : p.inTurn s = true) :
    Step now p s b { p.noteTurn s with agenda := .forward :: l } s b
  | refrain {l : List Task} (ha : p.agenda = .forwardInTurn :: l)
      (hp : p.pending = [] ∨ p.inTurn s = false) :
    Step now p s b { p with agenda := l } s b
  | finish {l : List Task} {since : Option Instant} (ha : p.agenda = .finish :: l)
      (hs : since = if p.maker.flush.1.isSome then none else p.bufferedSince) :
    Step now p s b
      { p with
        maker := p.maker.flush.2
        bufferedSince := since
        agenda := p.maker.flush.1.toList.map Task.emit ++ .clear :: .complete :: l } s b
  | cleared {l : List Task} (ha : p.agenda = .clear :: l) (hp : p.pending = []) :
    Step now p s b { p with agenda := l } s b
  | clear {l : List Task} (ha : p.agenda = .clear :: l) (hp : p.pending ≠ []) :
    Step now p s b { p with agenda := .awaitTurn :: .forward :: l } s b
  | complete {l : List Task} (ha : p.agenda = .complete :: l) :
    Step now p s b { p with run := none, turnHeld := false, agenda := l } (p.run.elim s s.release) b
  | fresh {l : List Task} {t : Instant} (ha : p.agenda = .flushStale t :: l)
      (hf : ∀ since, p.bufferedSince = some since → t - since < p.flushInterval) :
    Step now p s b { p with agenda := l } s b
  | stale {l : List Task} {t : Instant} (ha : p.agenda = .flushStale t :: l) :
    Step now p s b
      { p with
        maker := p.maker.flush.2
        bufferedSince := none
        agenda := p.maker.flush.1.toList.map Task.emit ++ l } s b
  | rest (hl : p.line? = none) : Step now p s b p s b

theorem step_act (now : Instant) (p : Processor) (s : Sequencer) (b : Books) :
    Step now p s b (p.act now s b).1 (p.act now s b).2.1 (p.act now s b).2.2 := by
  obtain ⟨name, stages, maker, interval, maxPending, timeout, since, run, turn, pending, ordered,
    agenda, deadline⟩ := p
  rcases agenda with _ | ⟨t, l⟩
  · exact .rest rfl
  cases t with
  | join n =>
    rcases run with _ | m
    · exact .joinFirst rfl rfl
    · by_cases hm : m = n
      · subst hm
        simp only [act, next, ↓reduceIte, List.drop_one, List.tail_cons, List.nil_append]
        exact .joinSame rfl rfl
      · simp only [act, next, if_neg hm]
        exact .joinOther rfl rfl hm
  | adopt n => exact .adopt rfl
  | process r =>
    simp only [act, processRecord]
    split
    · exact .filtered rfl ‹_›
    · split
      · exact .unwritten rfl ‹_› ‹_›
      · exact .written rfl ‹_› ‹_› rfl
  | emit c =>
    simp only [act, emitChunk]
    split
    · exact .hand rfl ‹_›
    · exact .hold rfl (Bool.eq_false_iff.2 ‹_›) (by split <;> simp)
        (by split <;> simp_all)
  | awaitTurn =>
    simp only [act]
    split
    · exact .await rfl ‹_›
    · exact .rest rfl
  | forward =>
    rcases pending with _ | ⟨c, rest⟩
    · exact .forwarded rfl rfl
    · exact .forward rfl rfl
  | forwardInTurn =>
    simp only [act]
    split
    · exact .allow rfl (by simp_all)
    · refine .refrain rfl ?_
      rcases pending with _ | ⟨c, rest⟩
      · exact .inl rfl
      · exact .inr (by simp_all)
  | offer c => exact .rest rfl
  | sending c => exact .rest rfl
  | finish =>
    simp only [act, flushMaker, next, List.append_assoc, List.cons_append, List.nil_append,
      List.drop_one, List.tail_cons]
    exact .finish rfl rfl
  | clear =>
    rcases pending with _ | ⟨c, rest⟩
    · exact .cleared rfl rfl
    · exact .clear rfl (by simp)
  | complete => exact .complete rfl
  | flushStale t =>
    rcases since with _ | t'
    · exact .fresh rfl nofun
    · simp only [act]
      split
      · exact .fresh rfl fun since hs => Option.some.inj hs ▸ ‹_›
      · simp only [flushMaker, next, List.append_nil, List.drop_one, List.tail_cons, ite_self]
        exact .stale rfl
  | crash => exact .rest rfl

end Processor

end LogPipeline
