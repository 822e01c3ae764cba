import LogPipeline.Proofs.Receipts
import LogPipeline.Proofs.Holders
import LogPipeline.Proofs.Runs
import Mathlib.Logic.Function.Basic
import Mathlib.Logic.Relation

/-!
# What becomes of the records

Processors are given batches, with tickets or without, and ticks and stops in between. `Logbook`
keeps an account of this: what each processor was given, the records that were processed, and the
chunks that the taker was asked to accept. What a move does to one desk and its part of the account
is said once (`Log.Change`), and invariants of a desk follow from it (`Logbook.desk_of_reaches`).
The account is settled by `Log.Agrees`: what a processor has handed over, holds back and is building
says, one after the other, the lines of the records it has processed, and every record was given
back once (`Logbook.settled_of_reaches`).
-/

namespace LogPipeline

/-! ## Accounts -/

/-- The account of one desk: the jobs that were given, the one that the processor took up last,
unless it failed in it, the records that it processed, and the chunks that it asked the taker to
accept. -/
structure Log where
  given : List Job := []
  last : Option Job := none
  receipts : List Receipt := []
  handed : List Chunk := []

namespace Desk

/-- The record that the next step processes, if it does. -/
def reading? (d : Desk) : Option Record := if d.busy then d.processor.reading? else none

/-- The job that the processor is at after its next step or was at last, unless it fails in it. -/
def latest (d : Desk) (last : Option Job) : Option Job :=
  match d.busy, d.jobs, d.processor.agenda with
  | false, job :: _, _ => some job
  | true, _, .crash :: _ => none
  | _, _, _ => last

end Desk

/-- Desks with an account. -/
structure Logbook where
  desks : Desks
  given : Nat → List Job := fun _ => []
  last : Nat → Option Job := fun _ => none
  receipts : List Receipt := []
  handed : Nat → List Chunk := fun _ => []

namespace Logbook

/-- The account of desk `i`. -/
def log (i : Nat) (x : Logbook) : Log :=
  ⟨x.given i, x.last i, x.receipts.filter (·.desk = i), x.handed i⟩

/-- Processor `i` does its next step, and what it does is noted. -/
def act (i : Nat) (x : Logbook) : Logbook :=
  match x.desks.desks[i]? with
  | none => x
  | some d =>
    { desks := x.desks.act i
      given := x.given
      last := Function.update x.last i (d.latest (x.last i))
      receipts := x.receipts ++ d.reading?.toList.map fun r =>
        ⟨i, (x.last i).bind Job.ticket?, d.processor.run, r⟩
      handed := Function.update x.handed i (x.handed i ++ d.offered?.toList) }

/-- A job for processor `i`. -/
def give (i : Nat) (job : Job) (x : Logbook) : Logbook :=
  { x with
    desks := x.desks.give i job
    given := Function.update x.given i (x.given i ++ [job]) }

/-- One move of anybody. Tickets are issued and let go of by name; a batch comes with a reference to
a ticket that is held, or without; ticks and stops come at any point, and the clock may be set. -/
inductive Move (x : Logbook) : Logbook → Prop where
  | issue (name : String) : Move x { x with desks := (x.desks.issue name).2 }
  | release (name : String) : Move x { x with desks := x.desks.release name }
  | batch (i : Nat) (run : Option String) (records : Batch) (isLast : Bool) (timeout : Nat)
      (hi : i < x.desks.desks.length) :
    Move x
      ({ x with desks := (x.desks.batch run records isLast).2 }.give i
        (.batch (x.desks.batch run records isLast).1 timeout))
  | tick (i : Nat) : Move x (x.give i .tick)
  | stop (i : Nat) : Move x (x.give i .stop)
  | act (i : Nat) : Move x (x.act i)
  | pass (t : Instant) : Move x { x with desks := { x.desks with now := t } }
  | pace (n : Nat) : Move x { x with desks := { x.desks with acceptTime := n } }
  | takeNotes : Move x { x with desks := x.desks.takeNotes.2.2 }

/-- Processors with the given names, before anything was given to them. -/
def start (names : List String) (stages : Stages) (settings : ProcessingSettings)
    (sendTimeout acceptTime : Nat) (books : Books) : Logbook :=
  { desks := .start names stages settings sendTimeout acceptTime books }

end Logbook

/-- What a move at time `now` does to desk `i` and its account. What the others do, the desk only
notices by the sequencer. -/
inductive Log.Change (now : Instant) (i : Nat) (s : Sequencer) (log : Log) (d : Desk) :
    Sequencer → Log → Desk → Prop where
  | others {s' : Sequencer} (hs : s.Onward s') : Log.Change now i s log d s' log d
  | given {s' : Sequencer} (job : Job) (hs : s.Onward s') :
    Log.Change now i s log d s' { log with given := log.given ++ [job] }
      { d with jobs := d.jobs ++ [job] }
  | begun {job : Job} {rest : List Job} (hb : d.busy = false) (hj : d.jobs = job :: rest) :
    Log.Change now i s log d s { log with last := some job } (d.begin now job)
  | ended (hb : d.busy = true) (ha : d.processor.agenda = []) :
    Log.Change now i s log d s log { d with busy := false }
  | failed {l : List Task} (hb : d.busy = true) (ha : d.processor.agenda = .crash :: l) :
    Log.Change now i s log d s { log with last := none }
      { d with busy := false, processor := { d.processor with agenda := [] } }
  | asked {c : Chunk} {l : List Task} {p : Processor} {wakes : Instant} (hb : d.busy = true)
      (ha : d.processor.agenda = .offer c :: l)
      (hp : p = d.processor.handedOver ∨ p = d.processor.asking c) :
    Log.Change now i s log d s { log with handed := log.handed ++ [c] }
      { d with processor := p, wakes }
  | accepted {c : Chunk} {l : List Task} (hb : d.busy = true)
      (ha : d.processor.agenda = .sending c :: l) :
    Log.Change now i s log d s log { d with processor := d.processor.handedOver }
  | task {s' : Sequencer} {b b' : Books} {p : Processor} (hb : d.busy = true)
      (hns : d.processor.isSending = false)
      (htodo : d.processor.todo = d.processor.reading?.toList ++ p.todo)
      (hstep : d.processor.Step now s b p s' b') :
    Log.Change now i s log d s'
      { log with
        receipts := log.receipts ++ d.processor.reading?.toList.map fun r =>
          ⟨i, log.last.bind Job.ticket?, d.processor.run, r⟩ }
      { d with processor := p }

/-! ## One desk -/

namespace Processor

variable {ticketed ending : Bool} {now : Instant} {p p' : Processor} {s s' : Sequencer}
  {b b' : Books}

/-- A processor that fails has nothing else to do, and a chunk that belongs to no run. -/
def Doomed (p : Processor) : Prop :=
  Task.crash ∈ p.agenda → p.agenda = [.crash] ∧ p.run = none ∧ p.maker.hasPending = true

theorem crash_mem_step (hs : Step now p s b p' s' b') (h : Task.crash ∈ p'.agenda) :
    p' = p ∨ ∃ t l, p.agenda = t :: l ∧ Task.crash ∈ l := by
  cases hs with
  | rest hl => exact .inl rfl
  | written ha | finish ha | stale ha => exact .inr ⟨_, _, ha, by simpa using h⟩
  | hold ha ht htasks =>
    rcases htasks with rfl | rfl <;> exact .inr ⟨_, _, ha, by simpa using h⟩
  | joinFirst ha | joinSame ha | joinOther ha | adopt ha | filtered ha | unwritten ha | hand ha
  | await ha | forwarded ha | forward ha | allow ha | refrain ha | cleared ha | clear ha
  | complete ha | fresh ha => exact .inr ⟨_, _, ha, by simpa using h⟩

theorem Doomed.step (h : p.Doomed) (hs : Step now p s b p' s' b') : p'.Doomed := by
  intro hc
  rcases crash_mem_step hs hc with rfl | ⟨t, l, ha, hl⟩
  · exact h hc
  · have := (h (by rw [ha]; exact List.mem_cons_of_mem _ hl)).1
    rw [ha] at this
    simp [(List.cons.inj this).2] at hl

/-- The failure is the only task. -/
theorem Doomed.eq (h : p.Doomed) {l : List Task} (ha : p.agenda = .crash :: l) :
    l = [] ∧ p.run = none ∧ p.maker.hasPending = true := by
  obtain ⟨h1, h2⟩ := h (by rw [ha]; exact List.mem_cons_self)
  rw [ha] at h1
  exact ⟨(List.cons.inj h1).2, h2⟩

theorem Doomed.drop (h : p.Doomed) {t : Task} {l : List Task} (ha : p.agenda = t :: l)
    (ht : t ≠ .crash) (hp : ∀ u ∈ p'.agenda, u ∈ l ∨ u ≠ .crash) : p'.Doomed := by
  intro hc
  have hl := (hp _ hc).resolve_right (by simp)
  have := (h (by rw [ha]; exact List.mem_cons_of_mem _ hl)).1
  rw [ha] at this
  exact absurd (List.cons.inj this).1 ht

end Processor

namespace Desk

theorem begin_doomed (now : Instant) (job : Job) (d : Desk) :
    (d.begin now job).processor.Doomed := by
  cases job with
  | batch b timeout =>
    intro hc
    simp only [begin, Processor.receive, List.mem_append, List.mem_map] at hc
    rcases hc with (⟨_, -, h⟩ | ⟨_, -, h⟩) | h
    · cases h
    · cases h
    · split at h <;> simp at h
  | tick => exact fun hc => by simp [begin, Processor.tick] at hc
  | stop =>
    intro hc
    simp only [begin, Processor.stop] at hc ⊢
    split at hc
    · simp at hc
    · split at hc
      · simp at hc
      · split at hc
        · simp_all
        · simp at hc

theorem stages_begin (now : Instant) (job : Job) (d : Desk) :
    (d.begin now job).processor.stages = d.processor.stages := by
  cases job with
  | batch b timeout => rfl
  | tick => rfl
  | stop =>
    simp only [begin, Processor.stop]
    split
    · rfl
    · split
      · rfl
      · split <;> rfl

end Desk

/-- What the account of a desk says of the processor. -/
structure Log.Agrees (g : Stages) (s : Sequencer) (log : Log) (d : Desk) : Prop where
  stages : d.processor.stages = g
  sound : ∀ ticketed, (ticketed = true → ∀ job ∈ log.given, job.Ticketed) →
    d.processor.Sound ticketed (decide (log.last = some .stop)) s
  doomed : d.processor.Doomed
  idle : d.busy = false → d.processor.agenda = []
  arrived : ∃ taken, log.given = taken ++ d.jobs
    ∧ log.receipts.map Receipt.record ++ d.processor.todo = taken.flatMap Job.records
  stored : ∃ sent kept, Stored g log.receipts (joined ((log.handed ++ d.unasked).map Chunk.data))
    d.processor.maker.buffer d.processor.run sent kept

namespace Log.Agrees

variable {g : Stages} {i : Nat} {s s' : Sequencer} {log log' : Log} {d d' : Desk}

theorem plain (h : log.Agrees g s d) :
    d.processor.Sound false (decide (log.last = some .stop)) s := h.sound false (by simp)

theorem begun (h : log.Agrees g s d) (now : Instant) {job : Job} {rest : List Job}
    (hb : d.busy = false) (hj : d.jobs = job :: rest) :
    Agrees g s { log with last := some job } (d.begin now job) := by
  have hnil := h.idle hb
  obtain ⟨taken, hgiven, harrived⟩ := h.arrived
  obtain ⟨htodo, hrun, hns, c, hc, hm⟩ := d.begin_holds now job h.plain hnil
  refine ⟨(d.stages_begin now job).trans h.stages, fun ticketed ht => ?_, d.begin_doomed now job,
    by simp [Desk.begin], ⟨taken ++ [job], ?_, ?_⟩, ?_⟩
  · refine Desk.begin_sound now (h.sound ticketed ht) fun e => ht e job ?_
    change job ∈ log.given
    rw [hgiven, hj]
    simp
  · change log.given = taken ++ [job] ++ d.jobs.drop 1
    rw [hgiven, hj]
    simp
  · change log.receipts.map Receipt.record ++ (d.begin now job).processor.todo = _
    rw [htodo, List.flatMap_append, ← harrived]
    simp [Processor.todo, hnil]
  · obtain ⟨sent, kept, hstored⟩ := h.stored
    have hu : d.unasked = d.processor.chunks := by
      simp [Desk.unasked, Processor.isSending, hnil]
    have hu' : (d.begin now job).unasked = (d.begin now job).processor.chunks := by
      simp [Desk.unasked, hns]
    rw [hu', hc, hrun]
    rw [hu] at hstored
    rcases hm with ⟨rfl, hm⟩ | ⟨rfl, hm⟩ <;> rw [hm]
    · exact ⟨sent, kept, by simpa using hstored⟩
    · obtain ⟨sent', kept', h'⟩ := hstored.flush
      refine ⟨sent', kept', ?_⟩
      simpa [Stored.added, ByteArray.append_assoc] using h'

theorem failed (h : log.Agrees g s d) {l : List Task} (ha : d.processor.agenda = .crash :: l) :
    Agrees g s { log with last := none }
      { d with busy := false, processor := { d.processor with agenda := [] } } := by
  obtain ⟨rfl, hrun, hm⟩ := h.doomed.eq ha
  refine ⟨h.stages, fun ticketed ht => ?_, by simp [Processor.Doomed], fun _ => rfl, ?_, ?_⟩
  · obtain ⟨-, -, hp, hn⟩ := h.sound ticketed ht
    exact ⟨by simp [Fits], .of_calm rfl, hp, hn⟩
  · simpa [Processor.todo, ha, Task.record?, List.filterMap_cons] using h.arrived
  · obtain ⟨sent, kept, hstored⟩ := h.stored
    refine ⟨sent, kept, ?_⟩
    simpa [Desk.unasked, Processor.isSending, Processor.chunks, Processor.front, Processor.back, ha,
      Task.chunk?, List.filterMap_cons] using hstored

theorem asked (h : log.Agrees g s d) {c : Chunk} {l : List Task} {p : Processor} {wakes : Instant}
    (hb : d.busy = true) (ha : d.processor.agenda = .offer c :: l)
    (hp : p = d.processor.handedOver ∨ p = d.processor.asking c) :
    Agrees g s { log with handed := log.handed ++ [c] } { d with processor := p, wakes } := by
  obtain ⟨-, ⟨-, htodo⟩, ⟨hrun, hmaker⟩, hu'⟩ := h.plain.asked ha hp
  have hu : d.unasked = c :: d.processor.handedOver.chunks := by
    have := (Processor.holds_handedOver h.plain.neat (.inl ha)).1
    simp [Desk.unasked, Processor.isSending, ha, this]
  refine ⟨?_, fun ticketed ht => ((h.sound ticketed ht).asked ha hp).1, ?_, by simp [hb], ?_, ?_⟩
  · rcases hp with rfl | rfl <;> exact h.stages
  · refine h.doomed.drop ha (by simp) fun u hu => ?_
    rcases hp with rfl | rfl
    · exact .inl (by simpa [Processor.handedOver, Processor.next, ha] using hu)
    · have hu : u ∈ Task.sending c :: l := by
        simpa [Processor.asking, Processor.next, ha] using hu
      rcases List.mem_cons.1 hu with rfl | hu
      · exact .inr (by simp)
      · exact .inl hu
  · rw [htodo]
    exact h.arrived
  · obtain ⟨sent, kept, hstored⟩ := h.stored
    refine ⟨sent, kept, ?_⟩
    rw [hrun, hmaker]
    have hcs : log.handed ++ d.unasked
        = log.handed ++ [c] ++ Desk.unasked { d with processor := p, wakes } := by
      rw [hu, Desk.unasked, hu']
      simp
    rwa [hcs] at hstored

theorem accepted (h : log.Agrees g s d) {c : Chunk} {l : List Task} (hb : d.busy = true)
    (ha : d.processor.agenda = .sending c :: l) :
    Agrees g s log { d with processor := d.processor.handedOver } := by
  obtain ⟨hcs, htodo, -⟩ := Processor.holds_handedOver h.plain.neat (.inr ha)
  have hns := Processor.isSending_handedOver h.plain.neat (.inr ha)
  refine ⟨h.stages, fun ticketed ht => (h.sound ticketed ht).handedOver (.inr ha), ?_, by simp [hb],
    ?_, ?_⟩
  · exact h.doomed.drop ha (by simp) fun u hu =>
      .inl (by simpa [Processor.handedOver, Processor.next, ha] using hu)
  · rw [htodo]
    exact h.arrived
  · have hu : Desk.unasked { d with processor := d.processor.handedOver } = d.unasked := by
      have hs : d.processor.isSending = true := by simp [Processor.isSending, ha]
      simp [Desk.unasked, hns, hs, hcs]
    rw [hu]
    exact h.stored

theorem task (h : log.Agrees g s d) (hd : s.parked.Nodup) {now : Instant} {b b' : Books}
    {p : Processor} (hb : d.busy = true) (hns : d.processor.isSending = false)
    (htodo : d.processor.todo = d.processor.reading?.toList ++ p.todo)
    (hstep : d.processor.Step now s b p s' b') :
    Agrees g s'
      { log with
        receipts := log.receipts ++ d.processor.reading?.toList.map fun r =>
          ⟨i, log.last.bind Job.ticket?, d.processor.run, r⟩ }
      { d with processor := p } := by
  refine ⟨(Processor.stages_step hstep).trans h.stages,
    fun ticketed ht => (h.sound ticketed ht).step hd hstep, h.doomed.step hstep, by simp [hb],
    ?_, ?_⟩
  · obtain ⟨taken, hgiven, harrived⟩ := h.arrived
    refine ⟨taken, hgiven, ?_⟩
    rw [← harrived, htodo]
    simp [Function.comp_def]
  · obtain ⟨sent, kept, hstored⟩ := h.stored
    have hns' := Processor.isSending_step h.plain.neat hstep hns
    rw [Desk.unasked, hns, if_neg (by simp)] at hstored
    obtain ⟨sent, kept, hstored'⟩ := (Processor.turnover_of_step h.plain.neat hstep).stored h.stages
      hstored htodo i (log.last.bind Job.ticket?)
    rw [Desk.unasked, hns', if_neg (by simp)]
    exact hstored'.settle (h.plain.run_none_step hstep)

theorem change {now : Instant} (h : log.Agrees g s d) (hd : s.parked.Nodup)
    (hc : Log.Change now i s log d s' log' d') : log'.Agrees g s' d' := by
  cases hc with
  | others hs =>
    exact ⟨h.stages, fun ticketed ht => (h.sound ticketed ht).mono hs.next_le, h.doomed, h.idle,
      h.arrived, h.stored⟩
  | given job hs =>
    obtain ⟨taken, hgiven, harrived⟩ := h.arrived
    refine ⟨h.stages, fun ticketed ht => ?_, h.doomed, h.idle, ⟨taken, ?_, harrived⟩, h.stored⟩
    · refine (h.sound ticketed fun e job hj => ht e job ?_).mono hs.next_le
      exact List.mem_append_left _ hj
    · simp [hgiven]
  | begun hb hj => exact h.begun now hb hj
  | ended hb ha => exact ⟨h.stages, h.sound, h.doomed, fun _ => ha, h.arrived, h.stored⟩
  | failed hb ha => exact h.failed ha
  | asked hb ha hp => exact h.asked hb ha hp
  | accepted hb ha => exact h.accepted hb ha
  | task hb hns htodo hstep => exact h.task hd hb hns htodo hstep

theorem start (name : String) (stages : Stages) (settings : ProcessingSettings)
    (sendTimeout : Nat) (s : Sequencer) :
    Agrees stages s {} { processor := .new name stages settings sendTimeout } :=
  ⟨rfl, fun _ _ => Processor.sound_new .., by simp [Processor.Doomed, Processor.new], fun _ => rfl,
    ⟨[], rfl, rfl⟩, [], [], rfl, rfl, rfl, by simp⟩

end Log.Agrees

/-! ## One step of a processor -/

/-- The account of desk `i` after the next step of its processor. -/
def Log.after (i : Nat) (d : Desk) (log : Log) : Log :=
  { given := log.given
    last := d.latest log.last
    receipts := log.receipts ++ d.reading?.toList.map fun r =>
      ⟨i, log.last.bind Job.ticket?, d.processor.run, r⟩
    handed := log.handed ++ d.offered?.toList }

/-- A processor at work stays at its job. -/
theorem Desk.latest_busy (d : Desk) (last : Option Job) (hb : d.busy = true)
    (hc : ∀ l, d.processor.agenda ≠ .crash :: l) : d.latest last = last := by
  rcases ha : d.processor.agenda with _ | ⟨t, l⟩
  · simp [latest, hb, ha]
  · cases t
    case crash => exact absurd ha (hc l)
    all_goals simp [latest, hb, ha]

namespace Desks

variable {x : Desks} {g : Stages} {i : Nat} {d : Desk} {log : Log}

theorem act_crash (hd : x.desks[i]? = some d) (hb : d.busy = true) {l : List Task}
    (ha : d.processor.agenda = .crash :: l) :
    x.act i =
      { x with
        failures := x.failures ++ [(i, d.processor.crashMessage)]
        desks := x.desks.set i
          { d with busy := false, processor := { d.processor with agenda := [] } } } := by
  simp [act, hd, hb, ha]

/-- From `x` to `y` processor `i` makes a step: a change of its desk, and one of the references. -/
def Steps (g : Stages) (i : Nat) (log : Log) (d : Desk) (x y : Desks) : Prop :=
  ∃ d', y.desks = x.desks.set i d' ∧ y.tickets = x.tickets
    ∧ y.books = d.reading?.elim x.books (g.book x.books)
    ∧ Desk.Lets x.sequencer y.sequencer d d'
    ∧ Log.Change x.now i x.sequencer log d y.sequencer (log.after i d) d'

theorem set_self (hd : x.desks[i]? = some d) : x.desks = x.desks.set i d := by
  obtain ⟨hi, rfl⟩ := List.getElem?_eq_some_iff.1 hd
  exact (List.set_getElem_self hi).symm

/-- A processor without a job begins the next one, if there is any. -/
theorem steps_idle (h : log.Agrees g x.sequencer d) (hd : x.desks[i]? = some d)
    (hb : d.busy = false) : x.Steps g i log d (x.act i) := by
  have hread : d.reading? = none := by simp [Desk.reading?, hb]
  have hoff : d.offered? = none := by simp [Desk.offered?, hb]
  unfold Steps
  rcases act_idle hd hb with ⟨hj, ha⟩ | ⟨job, rest, hj, ha⟩
  · have hlog : log.after i d = log := by simp [Log.after, Desk.latest, hread, hoff, hb, hj]
    rw [ha, hlog, hread]
    exact ⟨d, set_self hd, rfl, rfl, .inl ⟨rfl, rfl⟩, .others (.refl _)⟩
  · have hlog : log.after i d = { log with last := some job } := by
      simp [Log.after, Desk.latest, hread, hoff, hb, hj]
    rw [ha, hlog, hread]
    exact ⟨_, rfl, rfl, rfl, .inl ⟨rfl, Desk.tickets_begin _ h.plain (h.idle hb) hj⟩,
      .begun hb hj⟩

/-- A processor that crashes leaves its job. -/
theorem steps_crash (h : log.Agrees g x.sequencer d) (hd : x.desks[i]? = some d)
    (hb : d.busy = true) {l : List Task} (hc : d.processor.agenda = .crash :: l) :
    x.Steps g i log d (x.act i) := by
  obtain ⟨rfl, -⟩ := h.doomed.eq hc
  have hread : d.reading? = none := by
    simp [Desk.reading?, hb, Processor.reading?, hc, Task.record?]
  have hlog : log.after i d = { log with last := none } := by
    simp [Log.after, Desk.latest, hread, Desk.offered?, hb, hc]
  unfold Steps
  rw [act_crash hd hb hc, hlog, hread]
  refine ⟨_, rfl, rfl, rfl, .inl ⟨rfl, ?_⟩, .failed hb hc⟩
  simp [Desk.tickets, Processor.tickets, hc, List.filterMap_cons, Task.ticket?]

/-- A processor at work ends its job, hands a chunk over, or does its next task. -/
theorem steps_busy (h : log.Agrees g x.sequencer d) (hd : x.desks[i]? = some d)
    (hb : d.busy = true) (hc : ∀ l, d.processor.agenda ≠ .crash :: l) :
    x.Steps g i log d (x.act i) := by
  have hreads : d.reading? = d.processor.reading? := by simp [Desk.reading?, hb]
  have hnone : ∀ t l, d.processor.agenda = t :: l → t.record? = none → d.reading? = none :=
    fun t l ha ht => hreads.trans (by simp [Processor.reading?, ha, ht])
  have hlatest := d.latest_busy log.last hb hc
  unfold Steps
  rcases act_busy hd hb hc with
    ⟨hnil, ha⟩ | ⟨c, l, emitted, p, wakes, hc, hp, ha⟩ | ⟨c, l, hc, ha⟩ | ⟨hns, ho, ha⟩
  · have hread : d.reading? = none := by simp [hreads, Processor.reading?, hnil]
    have hlog : log.after i d = log := by
      simp [Log.after, hlatest, hread, Desk.offered?, hb, hnil]
    rw [ha, hlog, hread]
    exact ⟨_, rfl, rfl, rfl, .inl ⟨rfl, rfl⟩, .ended hb hnil⟩
  · have hread := hnone _ _ hc rfl
    have hlog : log.after i d = { log with handed := log.handed ++ [c] } := by
      simp [Log.after, hlatest, hread, Desk.offered?, hb, hc]
    rw [ha, hlog, hread]
    refine ⟨_, rfl, rfl, rfl, .inl ⟨rfl, ?_⟩, .asked hb hc hp⟩
    simp [Desk.tickets, (h.plain.asked hc hp).2.1.1]
  · have hread := hnone _ _ hc rfl
    have hlog : log.after i d = log := by
      simp [Log.after, hlatest, hread, Desk.offered?, hb, hc]
    rw [hlog, hread]
    rcases ha with ha | ha <;> rw [ha]
    · exact ⟨d, set_self hd, rfl, rfl, .inl ⟨rfl, rfl⟩, .others (.refl _)⟩
    · refine ⟨_, rfl, rfl, rfl, .inl ⟨rfl, ?_⟩, .accepted hb hc⟩
      simp [Desk.tickets, (Processor.holds_handedOver h.plain.neat (.inr hc)).2.2]
  · obtain ⟨htodo, hbooks⟩ := Processor.reads x.now d.processor x.sequencer x.books
    have hstep := Processor.step_act x.now d.processor x.sequencer x.books
    have hlog : log.after i d =
        { log with
          receipts := log.receipts ++ d.processor.reading?.toList.map fun r =>
            ⟨i, log.last.bind Job.ticket?, d.processor.run, r⟩ } := by
      simp [Log.after, hlatest, hreads, ho]
    rw [ha, hlog, hreads, ← h.stages]
    refine ⟨_, rfl, rfl, hbooks, ?_, .task hb hns htodo hstep⟩
    rcases h.plain.tickets_step hstep with ⟨hs, ht⟩ | ⟨n, hs, ht⟩
    · exact .inl ⟨hs, by simp [Desk.tickets, ht]⟩
    · exact .inr ⟨n, hs, by simp [Desk.tickets, ht]⟩

theorem steps_act (h : log.Agrees g x.sequencer d) (hd : x.desks[i]? = some d) :
    x.Steps g i log d (x.act i) := by
  cases hb : d.busy with
  | false => exact steps_idle h hd hb
  | true =>
    by_cases hc : ∃ l, d.processor.agenda = .crash :: l
    · obtain ⟨l, hc⟩ := hc
      exact steps_crash h hd hb hc
    · exact steps_busy h hd hb (not_exists.1 hc)

end Desks

/-! ## All desks -/

namespace Logbook

variable {x y : Logbook} {g : Stages} {i : Nat} {d : Desk}

/-- What every move keeps. -/
structure Inv (g : Stages) (x : Logbook) : Prop where
  kept : x.desks.Kept
  agrees : ∀ i d, x.desks.desks[i]? = some d → (x.log i).Agrees g x.desks.sequencer d

/-- What a move does to every desk. -/
def Changes (x y : Logbook) : Prop :=
  ∀ i d', y.desks.desks[i]? = some d' → ∃ d, x.desks.desks[i]? = some d
    ∧ Log.Change x.desks.now i x.desks.sequencer (x.log i) d y.desks.sequencer (y.log i) d'

theorem changes_of_onward {z : Desks} (hdesks : z.desks = x.desks.desks)
    (hs : x.desks.sequencer.Onward z.sequencer) : x.Changes { x with desks := z } :=
  fun _ d' hd => ⟨d', hdesks ▸ hd, .others hs⟩

theorem changes_give {s : Sequencer} (job : Job) (hs : x.desks.sequencer.Onward s) :
    x.Changes ({ x with desks := { x.desks with sequencer := s } }.give i job) := by
  intro k d' hd'
  change (x.desks.desks.modify i _)[k]? = some d' at hd'
  rw [List.getElem?_modify] at hd'
  obtain ⟨d, hd, rfl⟩ := Option.map_eq_some_iff.1 hd'
  refine ⟨d, hd, ?_⟩
  by_cases hk : i = k
  · subst hk
    simpa [Logbook.give, log, Desks.give] using Log.Change.given (i := i) job hs
  · simpa [Logbook.give, log, Desks.give, hk, Function.update_of_ne (Ne.symm hk)] using
      Log.Change.others (i := k) hs

/-- The account of the other desks says nothing new. -/
theorem log_act_of_ne {k : Nat} (hk : k ≠ i) : (x.act i).log k = x.log k := by
  unfold act
  split
  · rfl
  · simp [log, Function.update_of_ne hk, List.filter_map, Function.comp_def, Ne.symm hk]

theorem log_act (hd : x.desks.desks[i]? = some d) : (x.act i).log i = (x.log i).after i d := by
  simp [act, log, Log.after, hd, List.filter_map, Function.comp_def]

theorem desks_act (hd : x.desks.desks[i]? = some d) : (x.act i).desks = x.desks.act i := by
  simp [act, hd]

/-- One step of processor `i`, at all desks. -/
theorem Inv.act (h : x.Inv g) (i : Nat) : (x.act i).desks.Kept ∧ x.Changes (x.act i) := by
  rcases hd : x.desks.desks[i]? with _ | d
  · have hx : x.act i = x := by simp [Logbook.act, hd]
    rw [hx]
    exact ⟨h.kept, changes_of_onward rfl (.refl _)⟩
  obtain ⟨d', hdesks, htickets, -, hlets, hchange⟩ := Desks.steps_act (h.agrees i d hd) hd
  rw [← desks_act hd] at hdesks htickets hlets hchange
  refine ⟨h.kept.of_desk hd d' hdesks htickets hlets, fun k e he => ?_⟩
  rw [hdesks, List.getElem?_set] at he
  split at he
  · rename_i hk
    subst hk
    rw [if_pos (Desks.lt_of_desk hd), Option.some.injEq] at he
    exact ⟨d, hd, by rwa [← he, log_act hd]⟩
  · refine ⟨e, he, ?_⟩
    rw [log_act_of_ne (Ne.symm ‹_›)]
    exact .others (hlets.onward h.kept.valid)

theorem Inv.give_plain (h : x.Inv g) (i : Nat) {job : Job} (hj : job.ticket? = none) :
    (x.give i job).desks.Kept ∧ x.Changes (x.give i job) := by
  refine ⟨?_, changes_give job (.refl _)⟩
  by_cases hi : i < x.desks.desks.length
  · exact (h.kept.give hi (.inl ⟨rfl, hj⟩)).1
  · have hx : (x.give i job).desks = x.desks := by
      simp [Logbook.give, Desks.give, List.modify_eq_self (Nat.le_of_not_lt hi)]
    rw [hx]
    exact h.kept

theorem Inv.changes (h : x.Inv g) (hm : x.Move y) : y.desks.Kept ∧ x.Changes y := by
  have hsame : ∀ z : Desks, z.sequencer = x.desks.sequencer → z.tickets = x.desks.tickets →
      z.desks = x.desks.desks → z.Kept ∧ x.Changes { x with desks := z } := by
    intro z hs ht hd
    obtain ⟨hv, hn, hr⟩ := h.kept
    exact ⟨⟨hs ▸ hv, ht ▸ hn, by rwa [hs, ht, hd]⟩, changes_of_onward hd (hs ▸ .refl _)⟩
  cases hm with
  | issue name =>
    obtain ⟨hk, hs⟩ := h.kept.issue name
    exact ⟨hk, changes_of_onward rfl hs⟩
  | release name =>
    obtain ⟨hk, hs⟩ := h.kept.release name
    exact ⟨hk, changes_of_onward rfl hs⟩
  | batch i run records isLast timeout hi =>
    rcases hn : run.bind x.desks.ticket? with _ | n
    · have hb : x.desks.batch run records isLast = (⟨records, none, isLast⟩, x.desks) := by
        simp [Desks.batch, hn]
      rw [hb]
      exact h.give_plain i rfl
    · have hb : x.desks.batch run records isLast
          = (⟨records, some n, isLast⟩,
            { x.desks with sequencer := x.desks.sequencer.share n }) := by
        simp [Desks.batch, hn]
      obtain ⟨name, -, hname⟩ := Option.bind_eq_some_iff.1 hn
      have hticket : (Job.batch ⟨records, some n, isLast⟩ timeout).ticket? = some n := rfl
      obtain ⟨hk, hs⟩ := h.kept.give hi (.inr ⟨n, h.kept.mem_references hname, rfl, hticket⟩)
      rw [hb]
      exact ⟨hk, changes_give _ hs⟩
  | tick i => exact h.give_plain i rfl
  | stop i => exact h.give_plain i rfl
  | act i => exact h.act i
  | pass t => exact hsame _ rfl rfl rfl
  | pace n => exact hsame _ rfl rfl rfl
  | takeNotes => exact hsame _ rfl rfl rfl

theorem Inv.move (h : x.Inv g) (hm : x.Move y) : y.Inv g := by
  obtain ⟨hk, hc⟩ := h.changes hm
  refine ⟨hk, fun i d' hd' => ?_⟩
  obtain ⟨d, hd, hchange⟩ := hc i d' hd'
  exact (h.agrees i d hd).change h.kept.valid.nodup hchange

section Reaches

variable {names : List String} {stages : Stages} {settings : ProcessingSettings}
  {sendTimeout acceptTime : Nat} {books : Books}

theorem desk_start {names : List String} (hd : (start names stages settings sendTimeout acceptTime
      books).desks.desks[i]? = some d) :
    ∃ name, d = { processor := .new name stages settings sendTimeout } := by
  obtain ⟨name, -, rfl⟩ := List.mem_map.1 (List.mem_of_getElem? hd)
  exact ⟨name, rfl⟩

theorem inv_of_reaches
    (h : Relation.ReflTransGen Move (start names stages settings sendTimeout acceptTime books) x) :
    x.Inv stages := by
  induction h with
  | refl =>
    refine ⟨Desks.kept_start .., fun i d hd => ?_⟩
    obtain ⟨name, rfl⟩ := desk_start hd
    exact .start ..
  | tail _ hm ih => exact ih.move hm

/-- What holds at a new desk and is kept by every change of a desk holds at all desks. -/
theorem desk_of_reaches {P : Nat → Sequencer → Log → Desk → Prop}
    (hstart : ∀ i name, P i {} {} { processor := .new name stages settings sendTimeout })
    (hchange : ∀ now i s log d s' log' d', s.Valid → log.Agrees stages s d → P i s log d →
      Log.Change now i s log d s' log' d' → P i s' log' d')
    (h : Relation.ReflTransGen Move (start names stages settings sendTimeout acceptTime books) x) :
    ∀ i d, x.desks.desks[i]? = some d → P i x.desks.sequencer (x.log i) d := by
  induction h with
  | refl =>
    intro i d hd
    obtain ⟨name, rfl⟩ := desk_start hd
    exact hstart i name
  | tail hx hm ih =>
    intro i d' hd'
    have hinv := inv_of_reaches hx
    obtain ⟨d, hd, hc⟩ := (hinv.changes hm).2 i d' hd'
    exact hchange _ _ _ _ _ _ _ _ hinv.kept.valid (hinv.agrees i d hd) (ih i d hd) hc

end Reaches

end Logbook

/-! ## Settling the account -/

/-- What is so of a processor between two jobs. -/
structure Log.Settled (g : Stages) (log : Log) (d : Desk) : Prop where
  arrived : ∃ taken, log.given = taken ++ d.jobs
    ∧ log.receipts.map Receipt.record = taken.flatMap Job.records
  data : joined (log.handed.map Chunk.data) ++ joined (d.processor.pending.map Chunk.data)
      ++ d.processor.maker.buffer
    = joined ((log.receipts.map Receipt.record).filterMap g.line?)
  ended : log.last = some .stop → d.processor.run = none ∧ d.processor.pending = []
    ∧ d.processor.maker.hasPending = false
    ∧ joined (log.handed.map Chunk.data)
      = joined ((log.receipts.map Receipt.record).filterMap g.line?)

theorem Log.Agrees.settled {g : Stages} {s : Sequencer} {log : Log} {d : Desk}
    (h : log.Agrees g s d) (hb : d.busy = false) : log.Settled g d := by
  have hnil := h.idle hb
  obtain ⟨sent, kept, hstored⟩ := h.stored
  have hu : d.unasked = d.processor.pending := by
    simp [Desk.unasked, Processor.isSending, Processor.chunks, Processor.front, Processor.back,
      hnil]
  have hlines : log.receipts.filterMap (·.line? g)
      = (log.receipts.map Receipt.record).filterMap g.line? := by
    simp [List.filterMap_map, Receipt.line?]
  have hdata := hstored.data
  rw [hu, hlines, List.map_append, joined_append] at hdata
  refine ⟨?_, hdata.symm, fun hl => ?_⟩
  · simpa [Processor.todo, hnil] using h.arrived
  · have hsound := h.plain
    rw [hl, decide_eq_true rfl] at hsound
    obtain ⟨hrun, hpending, hm⟩ := hsound.of_ended hnil
    have hbuffer : d.processor.maker.buffer = .empty :=
      ByteArray.size_eq_zero_iff.1 (by simpa [ChunkMaker.hasPending] using hm)
    refine ⟨hrun, hpending, hm, ?_⟩
    rw [hdata, hpending, hbuffer]
    simp

namespace Logbook

variable {x y : Logbook} {g : Stages} {b : Books}

theorem Inv.booked (h : x.Inv g) (hb : g.Booked b (x.receipts.map Receipt.record) x.desks.books)
    (hm : x.Move y) : g.Booked b (y.receipts.map Receipt.record) y.desks.books := by
  cases hm with
  | act i =>
    rcases hd : x.desks.desks[i]? with _ | d
    · rwa [show x.act i = x by simp [Logbook.act, hd]]
    obtain ⟨-, -, -, hbooks, -⟩ := Desks.steps_act (h.agrees i d hd) hd
    rw [desks_act hd, hbooks]
    rcases hr : d.reading? with _ | r
    · simpa [Logbook.act, hd, hr] using hb
    · simpa [Logbook.act, hd, hr] using hb.book r
  | batch i run records isLast timeout hi =>
    rcases hn : run.bind x.desks.ticket? with _ | n <;>
      simpa [Logbook.give, Desks.give, Desks.batch, hn] using hb
  | _ => exact hb

/-- Every record that a processor was given has been processed, in the order of arrival, counted
once as filtered, serialized or lost, and given back once. Between two jobs, what a processor has
handed over, what it holds back and what it is building say the lines of these records, one after
the other; after a stop it has handed over all of it and no run is left. -/
theorem settled_of_reaches {names : List String} {stages : Stages} {settings : ProcessingSettings}
    {sendTimeout acceptTime : Nat} {books : Books}
    (h : Relation.ReflTransGen Move (start names stages settings sendTimeout acceptTime books) x) :
    stages.Booked books (x.receipts.map Receipt.record) x.desks.books
      ∧ ∀ i d, x.desks.desks[i]? = some d → d.busy = false → (x.log i).Settled stages d := by
  refine ⟨?_, fun i d hd => ((inv_of_reaches h).agrees i d hd).settled⟩
  induction h with
  | refl => exact stages.booked_nil books
  | tail hx hm ih => exact (inv_of_reaches hx).booked ih hm

/-- Processors do their steps one after another. -/
theorem reaches_acts (is : List Nat) (x : Logbook) :
    Relation.ReflTransGen Move x (is.foldl (fun x i => x.act i) x) :=
  reaches_foldl (fun _ i => .single (.act i)) is x

/-- A line without a ticket, one with a ticket, and the end. -/
theorem settled_of_mixed_batches :
    ∃ x, Relation.ReflTransGen Move
        (start ["a"] (.standard ⟨["name"]⟩ []) {} 10 0 {}) x
      ∧ x.last 0 = some .stop ∧ x.desks.desks.map Desk.busy = [false]
      ∧ (x.handed 0).length = 1
      ∧ (Stages.standard ⟨["name"]⟩ []).Booked {} (x.receipts.map Receipt.record) x.desks.books
      ∧ ∀ i d, x.desks.desks[i]? = some d → d.busy = false →
        (x.log i).Settled (.standard ⟨["name"]⟩ []) d := by
  let x₀ := start ["a"] (.standard ⟨["name"]⟩ []) {} 10 0 {}
  have h₁ : Relation.ReflTransGen Move x₀ _ := .tail .refl (.issue "t")
  have h₂ := h₁.tail (.batch 0 none [{}] false 10 (by decide))
  have h₃ := h₂.tail (.batch 0 (some "t") [{}] false 10 (by decide)) |>.tail (.stop 0)
  have h₄ := h₃.trans (reaches_acts (.replicate 16 0) _)
  exact ⟨_, h₄, by decide, by decide, by decide, settled_of_reaches h₄⟩

end Logbook

end LogPipeline
