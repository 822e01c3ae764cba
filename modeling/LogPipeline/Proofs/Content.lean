import LogPipeline.Proofs.Stance

/-!
# What a processor holds

A processor holds chunks on their way to the taker, lines in the chunk being built, and records yet
to be processed. `Processor.chunks` lists the chunks in the order in which they will be handed over.
A task moves what it holds forward and changes it in one of five ways (`Turnover`), and lets go of
at most one ticket (`tickets_step`).
-/

namespace LogPipeline

namespace Processor

variable {ticketed ending : Bool} {now : Instant} {p p' : Processor} {s s' : Sequencer}
  {b b' : Books}

/-- The chunk that the taker is offered or is being sent. -/
def front (p : Processor) : List Chunk :=
  match p.agenda with
  | .offer c :: _ | .sending c :: _ => [c]
  | _ => []

/-- The chunks that later tasks are about. -/
def back (p : Processor) : List Chunk :=
  match p.agenda with
  | .offer _ :: l | .sending _ :: l | l => l.filterMap Task.chunk?

/-- All complete chunks, the one that is handed over next first. -/
def chunks (p : Processor) : List Chunk := p.front ++ p.pending ++ p.back

/-- The records yet to be processed. -/
def todo (p : Processor) : List Record := p.agenda.filterMap Task.record?

/-- The tickets of the processor, once for each reference, in the order of their batches. -/
def tickets (p : Processor) : List Nat := p.run.toList ++ p.agenda.filterMap Task.ticket?

/-- How a task changes what a processor holds. -/
inductive Turnover (p : Processor) (b : Books) (p' : Processor) (b' : Books) : Prop where
  | kept (hc : p'.chunks = p.chunks) (hm : p'.maker = p.maker) (ht : p'.todo = p.todo) (hb : b' = b)
      (hl : p.line? = none)
  | filtered {r r' : Record} (hc : p'.chunks = p.chunks) (hm : p'.maker = p.maker)
      (ht : p.todo = r :: p'.todo) (hv : Rule.applyAll p.stages.rules r = (.drop, r'))
      (hb : b' = { b with pool := b.pool.release r', counters := b.counters.filtered })
      (hl : p.line? = none)
  | unwritten {r r' : Record} (hc : p'.chunks = p.chunks) (hm : p'.maker = p.maker)
      (ht : p.todo = r :: p'.todo) (hv : Rule.applyAll p.stages.rules r = (.pass, r'))
      (hw : p.stages.write r' = none)
      (hb : b' = { b with pool := b.pool.release r', counters := b.counters.lost 1 })
      (hl : p.line? = none)
  | written {r r' : Record} {line : ByteArray} {l : List Task} (ha : p.agenda = .process r :: l)
      (hc : p'.chunks = p.chunks ++ (p.maker.write line).1.toList)
      (hm : p'.maker = (p.maker.write line).2) (ht : p.todo = r :: p'.todo) (hr : p'.run = p.run)
      (hv : Rule.applyAll p.stages.rules r = (.pass, r')) (hw : p.stages.write r' = some line)
      (hb : b' = { b with pool := b.pool.release r', counters := b.counters.serialized })
      (hl : p.line? = some line)
  | flushed (hc : p'.chunks = p.chunks ++ p.maker.flush.1.toList) (hm : p'.maker = p.maker.flush.2)
      (ht : p'.todo = p.todo) (hr : p'.run = p.run) (hb : b' = b) (hl : p.line? = none)

/-- With a calm agenda all chunks are held back. -/
theorem chunks_of_calm (h : p.agenda.filterMap Task.chunk? = []) : p.chunks = p.pending := by
  have hfront : p.front = [] := by
    unfold front
    split
    · simp_all [Task.chunk?]
    · simp_all [Task.chunk?]
    · rfl
  have hback : p.back = [] := by
    unfold back
    split
    · simp_all [Task.chunk?]
    · simp_all [Task.chunk?]
    · exact h
  simp [chunks, hfront, hback]

theorem chunks_of_emits {c : Option Chunk} {l : List Task}
    (ha : p.agenda = c.toList.map Task.emit ++ l) (hl : l.filterMap Task.chunk? = []) :
    p.chunks = p.pending ++ c.toList := by
  rcases c with _ | c
  · rw [chunks_of_calm (by rw [ha]; exact hl), Option.toList_none, List.append_nil]
  · have ha : p.agenda = .emit c :: l := ha
    simp [chunks, front, back, ha, Task.chunk?, hl]

theorem todo_emits {c : Option Chunk} {l : List Task} :
    (c.toList.map Task.emit ++ l).filterMap Task.record? = l.filterMap Task.record? := by
  rcases c with _ | c <;> rfl

/-- Whether more chunks follow behind those held back or not, the rest of the agenda says. -/
theorem chunks_behind_forward {l : List Task} {p₀ : Processor} (hn : Neat (.forward :: l))
    (hp : p.pending = []) (ha : p.agenda = l) (ha₀ : p₀.agenda = .forward :: l)
    (hp₀ : p₀.pending = []) : p.chunks = p₀.chunks := by
  have h₀ : p₀.chunks = l.filterMap Task.chunk? := by
    simp only [chunks, front, back, ha₀, hp₀, List.nil_append]
    rfl
  rw [h₀]
  rcases l with _ | ⟨t, l⟩
  · simp [chunks, front, back, ha, hp]
  · cases t
    case offer c => simp [chunks, front, back, ha, hp, Task.chunk?]
    case sending c => simp [chunks, front, back, ha, hp, Task.chunk?]
    all_goals simp only [chunks, front, back, ha, hp, List.nil_append]

/-- Before a task that is about no chunk all chunks are held back, and none is behind it. -/
theorem chunks_of_neat {t : Task} {l : List Task} (hn : Neat p.agenda) (ha : p.agenda = t :: l)
    (ht : t.chunk? = none) (hf : t ≠ .forward) :
    l.filterMap Task.chunk? = [] ∧ p.chunks = p.pending := by
  have hc := (ha ▸ hn).calm ht hf
  exact ⟨hc, chunks_of_calm (by rw [ha, List.filterMap_cons_none ht, hc])⟩

/-- A task that is about no chunk and no record, and leads to no such task, keeps everything. -/
theorem kept_of_calm {t : Task} {l : List Task} (tasks : List Task) (hn : Neat p.agenda)
    (ha : p.agenda = t :: l) (ht : t.chunk? = none ∧ t ≠ .forward ∧ t.record? = none)
    (ha' : p'.agenda = tasks ++ l)
    (hts : tasks.filterMap Task.chunk? = [] ∧ tasks.filterMap Task.record? = [])
    (hp : p'.pending = p.pending) (hm : p'.maker = p.maker) : Turnover p b p' b := by
  obtain ⟨hc, hpend⟩ := chunks_of_neat hn ha ht.1 ht.2.1
  refine .kept ?_ hm ?_ rfl ?_
  · rw [chunks_of_calm (by rw [ha', List.filterMap_append, hts.1, hc, List.append_nil]), hp, hpend]
  · rw [todo, todo, ha', ha, List.filterMap_append, hts.2, List.filterMap_cons_none ht.2.2,
      List.nil_append]
  · cases t <;> simp_all [line?, Task.record?]

theorem turnover_of_step (hn : Neat p.agenda) (hs : Step now p s b p' s' b') :
    Turnover p b p' b' := by
  cases hs with
  | @joinFirst l n ha hr =>
    exact kept_of_calm [.adopt n] hn ha ⟨rfl, by simp, rfl⟩ rfl ⟨rfl, rfl⟩ rfl rfl
  | joinSame ha hr => exact kept_of_calm [] hn ha ⟨rfl, by simp, rfl⟩ rfl ⟨rfl, rfl⟩ rfl rfl
  | @joinOther l m n ha hr hne =>
    exact kept_of_calm [.finish, .adopt n] hn ha ⟨rfl, by simp, rfl⟩ rfl ⟨rfl, rfl⟩ rfl rfl
  | adopt ha => exact kept_of_calm [] hn ha ⟨rfl, by simp, rfl⟩ rfl ⟨rfl, rfl⟩ rfl rfl
  | filtered ha hv =>
    obtain ⟨hc, hp⟩ := chunks_of_neat hn ha rfl (by simp)
    exact .filtered ((chunks_of_calm hc).trans hp.symm) rfl (by simp only [todo, ha]; rfl) hv rfl
      (by simp [line?, Stages.line?, ha, hv])
  | unwritten ha hv hw =>
    obtain ⟨hc, hp⟩ := chunks_of_neat hn ha rfl (by simp)
    exact .unwritten ((chunks_of_calm hc).trans hp.symm) rfl (by simp only [todo, ha]; rfl) hv hw
      rfl
      (by simp [line?, Stages.line?, ha, hv, hw])
  | written ha hv hw =>
    obtain ⟨hc, hp⟩ := chunks_of_neat hn ha rfl (by simp)
    refine .written ha (by rw [chunks_of_emits rfl hc, hp]) rfl ?_ rfl hv hw rfl
      (by simp [line?, Stages.line?, ha, hv, hw])
    simp only [todo, ha, todo_emits]
    rfl
  | @hand l c ha ht =>
    rw [ha] at hn
    refine .kept ?_ rfl (by simp only [todo, ha]; rfl) rfl (by simp [line?, ha])
    simp only [chunks, front, back, ha]
    rfl
  | @hold l c tasks ha ht htasks =>
    rw [ha] at hn
    have hc : (tasks ++ l).filterMap Task.chunk? = [] := by
      rcases htasks with rfl | rfl
      · exact hn
      · rw [List.cons_append, List.cons_append, List.filterMap_cons_none rfl,
          List.filterMap_cons_none rfl, List.nil_append, hn]
    refine .kept ?_ rfl ?_ rfl (by simp [line?, ha])
    · rw [chunks_of_calm hc, chunks_of_emits (c := some c) ha hn]
      rfl
    · rcases htasks with rfl | rfl <;> simp only [todo, ha] <;> rfl
  | await ha ht => exact kept_of_calm [] hn ha ⟨rfl, by simp, rfl⟩ rfl ⟨rfl, rfl⟩ rfl rfl
  | forwarded ha hp =>
    rw [ha] at hn
    exact .kept (chunks_behind_forward hn hp rfl ha hp) rfl (by simp only [todo, ha]; rfl) rfl
      (by simp [line?, ha])
  | forward ha hp =>
    refine .kept ?_ rfl (by simp only [todo, ha]; rfl) rfl (by simp [line?, ha])
    simp only [chunks, front, back, ha, hp]
    rfl
  | allow ha ht => exact kept_of_calm [.forward] hn ha ⟨rfl, by simp, rfl⟩ rfl ⟨rfl, rfl⟩ rfl rfl
  | refrain ha => exact kept_of_calm [] hn ha ⟨rfl, by simp, rfl⟩ rfl ⟨rfl, rfl⟩ rfl rfl
  | finish ha =>
    obtain ⟨hc, hp⟩ := chunks_of_neat hn ha rfl (by simp)
    refine .flushed ?_ rfl ?_ rfl rfl (by simp [line?, ha])
    · rw [hp]
      exact chunks_of_emits rfl (by
        rw [List.filterMap_cons_none rfl, List.filterMap_cons_none rfl, hc])
    · simp only [todo, ha, todo_emits]
      rfl
  | cleared ha hp => exact kept_of_calm [] hn ha ⟨rfl, by simp, rfl⟩ rfl ⟨rfl, rfl⟩ rfl rfl
  | clear ha hp =>
    exact kept_of_calm [.awaitTurn, .forward] hn ha ⟨rfl, by simp, rfl⟩ rfl ⟨rfl, rfl⟩ rfl rfl
  | complete ha => exact kept_of_calm [] hn ha ⟨rfl, by simp, rfl⟩ rfl ⟨rfl, rfl⟩ rfl rfl
  | fresh ha => exact kept_of_calm [] hn ha ⟨rfl, by simp, rfl⟩ rfl ⟨rfl, rfl⟩ rfl rfl
  | stale ha =>
    obtain ⟨hc, hp⟩ := chunks_of_neat hn ha rfl (by simp)
    refine .flushed ?_ rfl ?_ rfl rfl (by simp [line?, ha])
    · rw [hp]
      exact chunks_of_emits rfl hc
    · simp only [todo, ha, todo_emits]
      rfl
  | rest hl => exact .kept rfl rfl rfl rfl hl

theorem Turnover.todo_suffix (h : p.Turnover b p' b') : p'.todo <:+ p.todo := by
  cases h with
  | kept _ _ ht _ _ => exact ht ▸ List.suffix_rfl
  | filtered _ _ ht _ _ _ => rw [ht]; exact List.suffix_cons _ _
  | unwritten _ _ ht _ _ _ _ => rw [ht]; exact List.suffix_cons _ _
  | written _ _ _ ht _ _ _ _ _ => rw [ht]; exact List.suffix_cons _ _
  | flushed _ _ ht _ _ _ => exact ht ▸ List.suffix_rfl

theorem isSending_of_calm (h : p.agenda.filterMap Task.chunk? = []) : p.isSending = false := by
  unfold isSending
  split
  · simp_all [Task.chunk?]
  · rfl

theorem isSending_of_emits {c : Option Chunk} {l : List Task}
    (ha : p.agenda = c.toList.map Task.emit ++ l) (hl : l.filterMap Task.chunk? = []) :
    p.isSending = false := by
  rcases c with _ | c
  · exact isSending_of_calm (by rw [ha]; exact hl)
  · simp [isSending, ha]

theorem isSending_step (hn : Neat p.agenda) (hs : Step now p s b p' s' b')
    (hp : p.isSending = false) : p'.isSending = false := by
  cases hs with
  | joinFirst ha hr => rfl
  | joinSame ha hr => exact isSending_of_calm (chunks_of_neat hn ha rfl (by simp)).1
  | joinOther ha hr hne => rfl
  | adopt ha => exact isSending_of_calm (chunks_of_neat hn ha rfl (by simp)).1
  | filtered ha hv => exact isSending_of_calm (chunks_of_neat hn ha rfl (by simp)).1
  | unwritten ha hv hw => exact isSending_of_calm (chunks_of_neat hn ha rfl (by simp)).1
  | written ha hv hw => exact isSending_of_emits rfl (chunks_of_neat hn ha rfl (by simp)).1
  | hand ha ht => rfl
  | hold ha ht htasks =>
    rw [ha] at hn
    rcases htasks with rfl | rfl
    · exact isSending_of_calm hn
    · rfl
  | await ha ht => exact isSending_of_calm (chunks_of_neat hn ha rfl (by simp)).1
  | @forwarded l ha hp =>
    rw [ha] at hn
    rcases l with _ | ⟨t, l⟩
    · rfl
    · cases t
      case sending c => simp [Neat, Trailing, Task.chunk?] at hn
      all_goals rfl
  | forward ha hp => rfl
  | allow ha ht => rfl
  | refrain ha => exact isSending_of_calm (chunks_of_neat hn ha rfl (by simp)).1
  | finish ha =>
    have hc := (chunks_of_neat hn ha rfl (by simp)).1
    exact isSending_of_emits rfl (by
      rw [List.filterMap_cons_none rfl, List.filterMap_cons_none rfl, hc])
  | cleared ha hp => exact isSending_of_calm (chunks_of_neat hn ha rfl (by simp)).1
  | clear ha hp => rfl
  | complete ha => exact isSending_of_calm (chunks_of_neat hn ha rfl (by simp)).1
  | fresh ha => exact isSending_of_calm (chunks_of_neat hn ha rfl (by simp)).1
  | stale ha => exact isSending_of_emits rfl (chunks_of_neat hn ha rfl (by simp)).1
  | rest hl => exact hp

/-! ## Tickets -/

theorem tickets_emits {c : Option Chunk} {l : List Task} :
    (c.toList.map Task.emit ++ l).filterMap Task.ticket? = l.filterMap Task.ticket? := by
  rcases c with _ | c <;> rfl

/-- A task lets go of the first ticket, or of none. -/
theorem Sound.tickets_step (h : p.Sound ticketed ending s) (hs : Step now p s b p' s' b') :
    (s' = s ∧ p'.tickets = p.tickets) ∨ ∃ n, s' = s.release n ∧ p.tickets = n :: p'.tickets := by
  cases hs with
  | joinFirst ha hr => exact .inl ⟨rfl, by simp only [tickets, ha]; rfl⟩
  | joinSame ha hr => exact .inr ⟨_, rfl, by simp only [tickets, ha, hr]; rfl⟩
  | joinOther ha hr hne => exact .inl ⟨rfl, by simp only [tickets, ha]; rfl⟩
  | adopt ha =>
    have hf := h.fits
    rw [ha] at hf
    have hr : p.run = none := by simpa [stance] using hf.1
    exact .inl ⟨rfl, by simp only [tickets, ha, hr]; rfl⟩
  | filtered ha hv => exact .inl ⟨rfl, by simp only [tickets, ha]; rfl⟩
  | unwritten ha hv hw => exact .inl ⟨rfl, by simp only [tickets, ha]; rfl⟩
  | written ha hv hw => exact .inl ⟨rfl, by simp only [tickets, ha, tickets_emits]; rfl⟩
  | hand ha ht => exact .inl ⟨rfl, by simp only [tickets, ha]; rfl⟩
  | hold ha ht htasks =>
    rcases htasks with rfl | rfl <;> exact .inl ⟨rfl, by simp only [tickets, ha]; rfl⟩
  | await ha ht => exact .inl ⟨rfl, by simp only [tickets, ha]; rfl⟩
  | forwarded ha hp => exact .inl ⟨rfl, by simp only [tickets, ha]; rfl⟩
  | forward ha hp => exact .inl ⟨rfl, by simp only [tickets, ha]; rfl⟩
  | allow ha ht => exact .inl ⟨rfl, by simp only [tickets, ha]; rfl⟩
  | refrain ha => exact .inl ⟨rfl, by simp only [tickets, ha]; rfl⟩
  | finish ha => exact .inl ⟨rfl, by simp only [tickets, ha, tickets_emits]; rfl⟩
  | cleared ha hp => exact .inl ⟨rfl, by simp only [tickets, ha]; rfl⟩
  | clear ha hp => exact .inl ⟨rfl, by simp only [tickets, ha]; rfl⟩
  | complete ha =>
    rcases hr : p.run with _ | n
    · exact .inl ⟨rfl, by simp only [tickets, ha, hr]; rfl⟩
    · exact .inr ⟨n, rfl, by simp only [tickets, ha, hr]; rfl⟩
  | fresh ha => exact .inl ⟨rfl, by simp only [tickets, ha]; rfl⟩
  | stale ha => exact .inl ⟨rfl, by simp only [tickets, ha, tickets_emits]; rfl⟩
  | rest hl => exact .inl ⟨rfl, rfl⟩

/-- The run changes only while the processor holds nothing of it. -/
theorem Sound.run_step (h : p.Sound true ending s) (hs : Step now p s b p' s' b') :
    p'.run = p.run ∨ p.chunks = [] ∧ p.maker.hasPending = false := by
  cases hs with
  | adopt ha =>
    obtain ⟨-, hp⟩ := chunks_of_neat h.neat ha rfl (by simp)
    have hf := h.fits
    rw [ha] at hf
    obtain ⟨-, h2, h3, -⟩ := hf
    exact .inr ⟨by simpa [hp, stance] using h2, by simpa [stance] using h3 rfl⟩
  | complete ha =>
    obtain ⟨-, hp⟩ := chunks_of_neat h.neat ha rfl (by simp)
    have hf := h.fits
    rw [ha] at hf
    obtain ⟨h1, h2, -⟩ := hf
    exact .inr ⟨by simpa [hp, stance] using h2, by simpa [stance] using h1⟩
  | _ => exact .inl rfl

theorem stages_step (hs : Step now p s b p' s' b') : p'.stages = p.stages := by
  cases hs <;> rfl

/-- Records are processed only once the batch's ticket is the one in hand. -/
theorem Sound.tickets_of_process (h : p.Sound ticketed ending s) {r : Record} {l : List Task}
    (ha : p.agenda = .process r :: l) : p.tickets = p.run.toList := by
  have hf := h.fits
  rw [ha] at hf
  obtain ⟨-, h2, -⟩ := hf
  have h2 : l.filterMap Task.ticket? = [] := h2
  simp only [tickets, ha]
  rw [List.filterMap_cons_none rfl, h2, List.append_nil]

theorem fits_todo {l : List Task} {x : Stance} (hl : Fits true ending x l) (hx : x.held = false)
    (ht : l.filterMap Task.ticket? = []) : l.filterMap Task.record? = [] := by
  induction l generalizing x with
  | nil => rfl
  | cons t l ih =>
    cases t with
    | join n => simp [Task.ticket?] at ht
    | adopt n => simp [Task.ticket?] at ht
    | process r => exact absurd (hl.1 rfl) (by simp [hx])
    | emit c => exact absurd (hl.1 rfl) (by simp [hx])
    | awaitTurn => exact absurd hl.1 (by simp [hx])
    | forward => exact ih hl.2 hx ht
    | forwardInTurn => exact ih hl hx ht
    | offer c => exact absurd (hl.1 rfl) (by simp [hx])
    | sending c => exact absurd (hl.1 rfl) (by simp [hx])
    | finish => exact absurd (hl.1 rfl) (by simp [hx])
    | clear => exact ih hl.2 hx ht
    | complete => exact ih hl.2.2 rfl ht
    | flushStale t => exact ih hl hx ht
    | crash => simp [Fits] at hl

/-- A ticketed processor without a ticket holds nothing. -/
theorem Sound.todo_of_tickets (h : p.Sound true ending s) (ht : p.tickets = []) : p.todo = [] := by
  obtain ⟨h1, h2⟩ := List.append_eq_nil_iff.1 ht
  exact fits_todo h.fits (by simpa [stance] using h1) h2

/-- A ticketed processor outside a run holds no line. -/
theorem Sound.chunks_of_run (h : p.Sound true ending s) (hr : p.run = none) :
    p.chunks = [] ∧ p.maker.hasPending = false := by
  have hx : p.stance.held = false := by simp [stance, hr]
  obtain ⟨h1, h2⟩ := h.proper hx
  have hf := h.fits
  have hcalm : p.agenda.filterMap Task.chunk? = [] := by
    have hn := h.neat
    rcases ha : p.agenda with _ | ⟨t, l⟩
    · rfl
    · rw [ha] at hf hn
      cases t with
      | emit c => exact absurd (hf.1 rfl) (by simp [hx])
      | offer c => exact absurd (hf.1 rfl) (by simp [hx])
      | sending c => exact absurd (hf.1 rfl) (by simp [hx])
      | forward =>
        rcases l with _ | ⟨t, l⟩
        · rfl
        · cases t
          case offer c => exact absurd (hf.2.1 rfl) (by simp [hx])
          all_goals exact hn
      | _ => exact hn
  rw [chunks_of_calm hcalm]
  exact ⟨by simpa [stance] using h1, by simpa [stance] using h2 rfl⟩

/-! ## Handing over -/

theorem holds_asking {c : Chunk} {l : List Task} (ha : p.agenda = .offer c :: l) :
    (p.asking c).chunks = p.chunks ∧ (p.asking c).todo = p.todo
      ∧ (p.asking c).tickets = p.tickets := by
  have hl : (p.asking c).agenda = .sending c :: l := by simp [asking, next, ha]
  refine ⟨?_, ?_, ?_⟩
  · simp only [chunks, front, back, hl, ha]
    rfl
  · simp only [todo, hl, ha]
    rfl
  · simp only [tickets, hl, ha]
    rfl

theorem isSending_handedOver {c : Chunk} {l : List Task} (hn : Neat p.agenda)
    (ha : p.agenda = .offer c :: l ∨ p.agenda = .sending c :: l) :
    p.handedOver.isSending = false := by
  have hl : p.handedOver.agenda = l := by
    rcases ha with ha | ha <;> simp [handedOver, next, ha]
  have htr : Trailing l := by
    rcases ha with ha | ha <;> rw [ha] at hn <;> exact hn
  rcases l with _ | ⟨t, l⟩
  · simp [isSending, hl]
  · cases t
    case sending d => simp [Trailing, Task.chunk?] at htr
    all_goals simp [isSending, hl]

theorem holds_handedOver {c : Chunk} {l : List Task} (hn : Neat p.agenda)
    (ha : p.agenda = .offer c :: l ∨ p.agenda = .sending c :: l) :
    p.chunks = c :: p.handedOver.chunks ∧ p.handedOver.todo = p.todo
      ∧ p.handedOver.tickets = p.tickets := by
  have hl : p.handedOver.agenda = l := by
    rcases ha with ha | ha <;> simp [handedOver, next, ha]
  have hc : p.chunks = c :: (p.pending ++ l.filterMap Task.chunk?) := by
    rcases ha with ha | ha <;> simp [chunks, front, back, ha]
  have htr : Trailing l := by
    rcases ha with ha | ha <;> rw [ha] at hn <;> exact hn
  have hp : p.handedOver.pending = p.pending := rfl
  refine ⟨?_, ?_, ?_⟩
  · rw [hc]
    rcases l with _ | ⟨t, l⟩
    · simp [chunks, front, back, hl, hp]
    · cases t
      case offer d => simp [Trailing, Task.chunk?] at htr
      case sending d => simp [Trailing, Task.chunk?] at htr
      all_goals simp [chunks, front, back, hl, hp]
  · rcases ha with ha | ha <;> simp only [todo, hl, ha] <;> rfl
  · rcases ha with ha | ha <;> simp only [tickets, hl, ha] <;> rfl

/-- Once the taker was asked to accept a chunk, the others are what is left after it. -/
theorem Sound.asked (h : p.Sound ticketed ending s) {c : Chunk} {l : List Task}
    (ha : p.agenda = .offer c :: l) (hp : p' = p.handedOver ∨ p' = p.asking c) :
    p'.Sound ticketed ending s ∧ (p'.tickets = p.tickets ∧ p'.todo = p.todo)
      ∧ (p'.run = p.run ∧ p'.maker = p.maker)
      ∧ (if p'.isSending then p'.chunks.tail else p'.chunks) = p.handedOver.chunks := by
  obtain ⟨hchunks, htodo, htickets⟩ := holds_handedOver h.neat (.inl ha)
  rcases hp with rfl | rfl
  · have hs := isSending_handedOver h.neat (.inl ha)
    exact ⟨h.handedOver (.inl ha), ⟨htickets, htodo⟩, ⟨rfl, rfl⟩, by simp [hs]⟩
  · obtain ⟨hchunks', htodo', htickets'⟩ := holds_asking ha
    have hs : (p.asking c).isSending = true := by simp [isSending, Processor.asking, next]
    refine ⟨h.asking ha, ⟨htickets', htodo'⟩, ⟨rfl, rfl⟩, ?_⟩
    rw [if_pos hs, hchunks', hchunks, List.tail_cons]

/-! ## Callbacks -/

@[simp] theorem maker_receive (batch : OrderedBatch) (deadline : Instant) (p : Processor) :
    (p.receive batch deadline).maker = p.maker := rfl

@[simp] theorem run_receive (batch : OrderedBatch) (deadline : Instant) (p : Processor) :
    (p.receive batch deadline).run = p.run := rfl

@[simp] theorem maker_tick (now : Instant) (p : Processor) : (p.tick now).maker = p.maker := rfl

@[simp] theorem run_tick (now : Instant) (p : Processor) : (p.tick now).run = p.run := rfl

@[simp] theorem run_stop (now : Instant) (p : Processor) : (p.stop now).run = p.run := by
  unfold Processor.stop
  dsimp only
  split
  · rfl
  · split
    · rfl
    · split <;> rfl

@[simp] theorem isSending_receive (batch : OrderedBatch) (deadline : Instant) (p : Processor) :
    (p.receive batch deadline).isSending = false := by
  obtain ⟨rs, run, isLast⟩ := batch
  rcases run with _ | n
  · rcases rs with _ | ⟨r, rs⟩
    · cases isLast <;> rfl
    · rfl
  · rfl

@[simp] theorem isSending_tick (now : Instant) (p : Processor) :
    (p.tick now).isSending = false := rfl

@[simp] theorem isSending_stop (now : Instant) (p : Processor) :
    (p.stop now).isSending = false := by
  unfold Processor.stop
  dsimp only
  split
  · rfl
  · split
    · rfl
    · split
      · rfl
      · rcases p.maker.flush.1 with _ | c <;> rfl

theorem holds_receive (batch : OrderedBatch) (deadline : Instant) (ha : p.agenda = []) :
    (p.receive batch deadline).chunks = p.chunks ∧ (p.receive batch deadline).todo = batch.records
      ∧ (p.receive batch deadline).tickets = p.tickets ++ batch.run.toList := by
  obtain ⟨rs, run, isLast⟩ := batch
  have htodo : ∀ rs : Batch, (rs.map Task.process).filterMap Task.record? = rs := by
    intro rs
    rw [List.filterMap_map]
    exact List.filterMap_some
  have htickets : ∀ rs : Batch, (rs.map Task.process).filterMap Task.ticket? = [] := by
    intro rs
    rw [List.filterMap_map]
    exact List.filterMap_eq_nil_iff.2 fun _ _ => rfl
  have hcalm : (p.receive ⟨rs, run, isLast⟩ deadline).agenda.filterMap Task.chunk? = [] := by
    have hrs := neat_records rs (l := []) rfl
    rw [List.append_nil] at hrs
    simp only [receive, List.filterMap_append, hrs]
    rcases run with _ | n <;> cases isLast <;> rfl
  refine ⟨?_, ?_, ?_⟩
  · rw [chunks_of_calm hcalm, chunks_of_calm (p := p) (by rw [ha]; rfl)]
    rfl
  · simp only [todo, receive, List.filterMap_append, htodo]
    rcases run with _ | n <;> cases isLast <;> simp [List.filterMap_cons, Task.record?]
  · simp only [tickets, receive, List.filterMap_append, htickets, ha]
    rcases run with _ | n <;> cases isLast <;> simp [Task.ticket?]

theorem holds_tick (now : Instant) (ha : p.agenda = []) :
    (p.tick now).chunks = p.chunks ∧ (p.tick now).todo = p.todo
      ∧ (p.tick now).tickets = p.tickets := by
  refine ⟨?_, ?_, ?_⟩
  · rw [chunks_of_calm (p := p) (by rw [ha]; rfl)]
    exact chunks_of_calm (p := p.tick now) rfl
  · simp only [todo, ha]
    rfl
  · simp only [tickets, ha]
    rfl

/-- The end of a processor may flush the chunk being built, but only outside the runs. -/
theorem Sound.holds_stop (h : p.Sound ticketed ending s) (now : Instant) (ha : p.agenda = []) :
    (p.stop now).todo = p.todo ∧ (p.stop now).tickets = p.tickets
      ∧ ((p.stop now).chunks = p.chunks ∧ (p.stop now).maker = p.maker
        ∨ ticketed = false ∧ (p.stop now).chunks = p.chunks ++ p.maker.flush.1.toList
          ∧ (p.stop now).maker = p.maker.flush.2) := by
  have hp : p.chunks = p.pending := chunks_of_calm (by rw [ha]; rfl)
  have htodo : p.todo = [] := by simp [todo, ha]
  have htickets : p.tickets = p.run.toList := by simp [tickets, ha]
  unfold Processor.stop
  dsimp only
  split
  · refine ⟨htodo.symm ▸ rfl, ?_, .inl ⟨?_, rfl⟩⟩
    · rw [htickets]
      simp [tickets, Task.ticket?]
    · rw [hp, chunks_of_calm rfl]
  · rename_i hr
    obtain ⟨h1, h2⟩ := h.proper (by simpa [stance] using hr)
    have hpend : p.pending = [] := by simpa [stance] using h1
    split
    · refine ⟨htodo.symm ▸ rfl, ?_, .inl ⟨?_, rfl⟩⟩
      · rw [htickets]
        simp [tickets]
      · rw [hp, chunks_of_calm rfl]
    · rename_i hm
      split
      · refine ⟨htodo.symm ▸ rfl, ?_, .inl ⟨?_, rfl⟩⟩
        · rw [htickets]
          simp [tickets, Task.ticket?]
        · rw [hp, chunks_of_calm rfl]
      · refine ⟨?_, ?_, .inr ⟨?_, ?_, rfl⟩⟩
        · rw [htodo]
          rcases p.maker.flush.1 with _ | c <;> rfl
        · rw [htickets]
          rcases p.maker.flush.1 with _ | c <;> simp [tickets, Task.ticket?]
        · by_contra hc
          exact hm (h2 (by simpa using hc))
        · rw [hp]
          rcases p.maker.flush.1 with _ | c <;> simp [chunks, front, back, hpend]

end Processor

end LogPipeline
