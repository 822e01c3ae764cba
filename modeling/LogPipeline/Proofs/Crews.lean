import LogPipeline.Proofs.Content
import LogPipeline.Proofs.Moves

/-!
# Crews that do their work

What is always so of a pipeline: a worker that is past serving has nothing left in its queue, an
idle worker has nothing left to do, the members rely on nothing that is not so, and every ticket
that is open is held by the distributor, a queue or a member. The run being filled is the latest,
and goes to the member whose number it has modulo the number of members.
-/

namespace LogPipeline

/-! ## Workers and their queues -/

namespace Worker

variable {α : Type}

/-- The stop has begun. -/
def ended (w : Worker) : Bool := w.phase = .stopping ∨ w.phase = .stopped

/-- Nothing comes to a worker that is past serving, and a worker never fails. -/
structure Tends (q : Queue α) (w : Worker) : Prop where
  emptied : w.phase ≠ .serving → q.isOpen = false ∧ q.items = []
  idle : w.phase = .stopped → w.busy = false
  busy : w.phase = .stopping → w.busy = true
  sane : ∀ message, w.phase ≠ .failed message

variable {now : Instant} {ended : Bool} {q q' : Queue α} {w w' : Worker} {cb : Callback α}

theorem Tends.call (h : w.Tends q) (hc : w.Calls now ended q cb w' q')
    (he : ended = true → q.isOpen = false) : w'.Tends q' := by
  cases hc with
  | input hp hq => exact ⟨fun hne => absurd hp hne, by simp [hp], by simp, h.sane⟩
  | tick hp => exact ⟨fun hne => absurd hp hne, by simp [hp], by simp, h.sane⟩
  | lastTick hp hq hend => exact ⟨fun _ => ⟨he hend, hq⟩, by simp, by simp, by simp⟩
  | stop hp => exact ⟨fun _ => h.emptied (by simp [hp]), by simp, by simp, by simp⟩

theorem Tends.stopped (h : w.Tends q) (hs : w.isStopped = true) : w.phase = .stopped := by
  have hsane := h.sane
  unfold isStopped at hs
  cases hp : w.phase <;> simp_all

theorem Tends.running (h : w.Tends q) (hb : w.busy = true) : w.phase ≠ .stopped := fun hp => by
  simp [h.idle hp] at hb

theorem Tends.leave_eq (h : w.Tends q) (hb : w.busy = true) : w.leave q = q :=
  if_neg fun hs => h.running hb (h.stopped hs)

theorem Tends.finish (h : w.Tends q) (hb : w.busy = true) : w.finish.Tends (w.finish.leave q) := by
  by_cases hs : w.phase = .stopping
  · have hw : w.finish = { w with busy := false, phase := .stopped } := by simp [Worker.finish, hs]
    rw [hw]
    refine ⟨fun _ => ?_, fun _ => rfl, by simp, by simp⟩
    exact ⟨(h.emptied (by simp [hs])).1, rfl⟩
  · have hw : w.finish = { w with busy := false } := by simp [Worker.finish, hs]
    have hl : w.finish.leave q = q := by
      rw [hw]
      exact h.leave_eq hb
    rw [hl, hw]
    exact ⟨h.emptied, fun _ => rfl, fun hp => absurd hp hs, h.sane⟩

theorem Tends.close (h : w.Tends q) : w.Tends q.close :=
  ⟨fun hp => ⟨rfl, (h.emptied hp).2⟩, h.idle, h.busy, h.sane⟩

theorem Tends.push {a : α} (h : w.Tends q) (ho : q.isOpen = true) : w.Tends (q.push a) := by
  refine ⟨fun hp => ?_, h.idle, h.busy, h.sane⟩
  simp [(h.emptied hp).1] at ho

theorem tends_spawn {settings : WorkerSettings} (hs : settings.tickInterval ≠ 0) :
    (spawn settings now).Tends q := by
  simp only [spawn, hs, ↓reduceIte]
  exact ⟨by simp, by simp, by simp, by simp⟩

theorem isOpen_leave (w : Worker) (q : Queue α) : (w.leave q).isOpen = q.isOpen := by
  unfold leave
  split <;> rfl

theorem Calls.isOpen (hc : w.Calls now ended q cb w' q') : q'.isOpen = q.isOpen := by
  cases hc <;> rfl

theorem Calls.busy (hc : w.Calls now ended q cb w' q') : w'.busy = true := by
  cases hc <;> rfl

theorem Calls.phase (hc : w.Calls now ended q cb w' q') : w.phase ≠ .stopped := by
  cases hc <;> simp_all

theorem items_leave_nil (w : Worker) (hq : q.items = []) : (w.leave q).items = [] := by
  unfold leave
  split
  · rfl
  · exact hq

theorem Calls.items_nil (hc : w.Calls now ended q cb w' q') (hq : q.items = []) :
    q'.items = [] := by
  cases hc <;> simp_all

theorem ended_finish (w : Worker) : w.finish.ended = w.ended := by
  unfold finish Worker.ended
  cases w.phase <;> simp

end Worker

/-! ## Members -/

/-- A processor that never saw a ticket. -/
structure Processor.Plain (p : Processor) : Prop where
  run : p.run = none
  ordered : p.ordered = false
  calm : ∀ t ∈ p.agenda, t.ticket? = none ∧ t ≠ .crash

namespace Member

variable {α : Type} {ticketed : Bool} {now : Instant} {s s' : Sequencer} {q q' : Queue α}
  {m : Member} {x x' : Place}

/-- What is always so of a member with its queue. -/
structure Sound (ticketed : Bool) (s : Sequencer) (q : Queue α) (m : Member) : Prop where
  tends : m.worker.Tends q
  idle : m.worker.busy = false → m.processor.agenda = []
  sound : m.processor.Sound ticketed m.worker.ended s

theorem Sound.mono (h : m.Sound ticketed s q) (hs : s.next ≤ s'.next) : m.Sound ticketed s' q :=
  ⟨h.tends, h.idle, h.sound.mono hs⟩

theorem Sound.begin (h : m.Sound ticketed s q) {ended : Bool} {cb : Callback OrderedBatch}
    {w : Worker} (hend : ended = true → q.isOpen = false)
    {cb₀ : Callback α} (hc : m.worker.Calls now ended q cb₀ w q')
    (hcb : (∃ b deadline a, cb = .input b deadline ∧ cb₀ = .input a deadline
        ∧ (ticketed = true → b.run.isSome = true))
      ∨ (cb = .tick ∧ cb₀ = .tick) ∨ (cb = .stop ∧ cb₀ = .stop)) :
    (m.begin now cb w).Sound ticketed s q' := by
  have htends := h.tends.call hc hend
  have hbusy := hc.busy
  rcases hcb with ⟨b, deadline, a, rfl, rfl, hb⟩ | ⟨rfl, rfl⟩ | ⟨rfl, rfl⟩
  · refine ⟨htends, fun hf => absurd hbusy (by simpa [Member.begin] using hf), ?_⟩
    cases hc with
    | input hp hq =>
      have hreceive : (m.processor.receive b (now + m.worker.settings.sendTimeout)).Sound
          ticketed false s := h.sound.receive hb
      simpa [Member.begin, Worker.ended, hp] using hreceive
  · refine ⟨htends, fun hf => absurd hbusy (by simpa [Member.begin] using hf), ?_⟩
    cases hc with
    | tick hp => simpa [Member.begin, Worker.ended, hp] using h.sound.tick
    | lastTick hp => simpa [Member.begin, Worker.ended] using h.sound.tick
  · refine ⟨htends, fun hf => absurd hbusy (by simpa [Member.begin] using hf), ?_⟩
    cases hc with
    | stop hp => simpa [Member.begin, Worker.ended] using h.sound.stop

/-- Nothing is left with a member that has stopped. -/
theorem Sound.of_stopped (h : m.Sound ticketed s q) (hp : m.worker.phase = .stopped) :
    m.processor.agenda = [] ∧ m.processor.run = none ∧ m.processor.pending = []
      ∧ m.processor.maker.hasPending = false ∧ q.items = [] := by
  have ha := h.idle (h.tends.idle hp)
  have hend := h.sound
  rw [show m.worker.ended = true by simp [Worker.ended, hp]] at hend
  obtain ⟨hrun, hpending, hmaker⟩ := hend.of_ended ha
  exact ⟨ha, hrun, hpending, hmaker, (h.tends.emptied (by simp [hp])).2⟩

/-- A member in a callback stays sound, unless it fails. -/
theorem Sound.acts (h : x.member.Sound ticketed x.sequencer q) (hb : x.member.worker.busy = true)
    (hcrash : ∀ l, x.member.processor.agenda ≠ .crash :: l) (hd : x.sequencer.parked.Nodup)
    (hx : Acts now x x') :
    x'.member.Sound ticketed x'.sequencer (x'.member.worker.leave q) := by
  obtain ⟨htends, hidle, hsound⟩ := h
  have hleave : x.member.worker.leave q = q := htends.leave_eq hb
  have hbusy : x.member.worker.busy = false → False := by simp [hb]
  cases hx with
  | finish ha =>
    refine ⟨htends.finish hb, fun _ => ha, ?_⟩
    rw [Worker.ended_finish]
    exact hsound
  | crash ha => exact absurd ha (hcrash _)
  | ask ha ho =>
    rw [hleave]
    exact ⟨htends, fun hf => (hbusy hf).elim, hsound.asking ha⟩
  | refuse ha =>
    rw [hleave]
    exact ⟨htends, fun hf => (hbusy hf).elim, hsound.handedOver (.inl ha)⟩
  | give ha hr =>
    rw [hleave]
    exact ⟨htends, fun hf => (hbusy hf).elim, hsound.handedOver (.inr ha)⟩
  | giveUp ha =>
    rw [hleave]
    exact ⟨htends, fun hf => (hbusy hf).elim, hsound.handedOver (.inr ha)⟩
  | task hs =>
    rw [hleave]
    exact ⟨htends, fun hf => (hbusy hf).elim, hsound.step hd hs⟩

/-- A worker stops only once its queue is empty, so nothing is dropped with the queue. -/
theorem Sound.items_leave (h : x.member.Sound ticketed x.sequencer q)
    (hb : x.member.worker.busy = true) (hcrash : ∀ l, x.member.processor.agenda ≠ .crash :: l)
    (hx : Acts now x x') : (x'.member.worker.leave q).items = q.items := by
  cases hx with
  | finish ha =>
    by_cases hp : x.member.worker.phase = .serving
    · simp [Worker.leave, Worker.isStopped, Worker.finish, hp]
    · have hnil := (h.tends.emptied hp).2
      simp only [Worker.leave]
      split <;> simp [Queue.abandon, hnil]
  | crash ha => exact absurd ha (hcrash _)
  | _ => exact congrArg Queue.items (h.tends.leave_eq hb)

/-- A member lets go of its first ticket, or of none. -/
theorem Sound.tickets_acts (h : x.member.Sound ticketed x.sequencer q) (hx : Acts now x x') :
    x'.sequencer = x.sequencer ∧ x'.member.processor.tickets = x.member.processor.tickets
      ∨ ∃ n, x'.sequencer = x.sequencer.release n
        ∧ x.member.processor.tickets = n :: x'.member.processor.tickets := by
  cases hx with
  | finish ha => exact .inl ⟨rfl, rfl⟩
  | crash ha => exact .inl ⟨rfl, rfl⟩
  | ask ha ho => exact .inl ⟨rfl, (Processor.holds_asking ha).2.2⟩
  | refuse ha => exact .inl ⟨rfl, (Processor.holds_handedOver h.sound.neat (.inl ha)).2.2⟩
  | give ha hr => exact .inl ⟨rfl, (Processor.holds_handedOver h.sound.neat (.inr ha)).2.2⟩
  | giveUp ha => exact .inl ⟨rfl, (Processor.holds_handedOver h.sound.neat (.inr ha)).2.2⟩
  | task hs => exact h.sound.tickets_step hs

theorem Sound.issued_acts (h : x.member.Sound ticketed x.sequencer q) (hx : Acts now x x') :
    x'.sequencer.issued = x.sequencer.issued := by
  rcases h.tickets_acts hx with ⟨hs, -⟩ | ⟨n, hs, -⟩ <;> simp [hs]

end Member

/-! ## Outputs -/

/-- What is always so of an output. -/
structure Output.Sound (o : Output) : Prop where
  tends : o.consumer.Tends o.queue
  idle : o.consumer.busy = false → o.held = none

/-! ## Distributors -/

/-- The deliveries find what they rely on, and lead to a state in which the next run may be opened:
with `n` members and the member at `current` to be sent to, if any is there, the run that is sent to
it is the latest. -/
def Delivers (n issued : Nat) (ending : Bool) :
    Bool → Nat → Option Nat → List Delivery → Prop
  | there, current, opened, [] =>
    (∀ r, opened = some r → r + 1 = issued ∧ current = r % n)
      ∧ (opened = none → ending = false → current = issued % n)
      ∧ there = !ending ∧ (ending = true → opened = none)
  | there, current, opened, .offer b :: l =>
    there = true ∧ (∃ r, b.run = some r ∧ r + 1 = issued ∧ current = r % n)
      ∧ Delivers n issued ending there current opened l
  | there, current, opened, .rotate :: l =>
    there = true ∧ opened = none ∧ Delivers n issued ending there ((current + 1) % n) opened l
  | there, current, opened, .closeChildren :: l =>
    there = true ∧ opened = none ∧ .awaitChildren ∈ l
      ∧ Delivers n issued ending false current opened l
  | there, current, opened, .awaitChildren :: l =>
    there = false ∧ Delivers n issued ending there current opened l

/-- The ticket that goes with a delivery. -/
def Delivery.ticket? : Delivery → Option Nat
  | offer b => b.run
  | _ => none

/-- The tickets of a distributor, once for each reference. -/
def Distributor.tickets (d : Distributor) : List Nat :=
  d.openRun.toList.map OpenRun.run ++ d.agenda.filterMap Delivery.ticket?

/-- The tickets of a member and of what is queued for it. -/
def Child.tickets (c : Child) : List Nat :=
  c.member.processor.tickets ++ c.queue.items.filterMap OrderedBatch.run

/-- What is always so of the member with number `k` of `n`. -/
structure Child.Sound (s : Sequencer) (n k : Nat) (c : Child) : Prop where
  member : c.member.Sound true s c.queue
  runs : ∀ b ∈ c.queue.items, b.run.isSome = true
  lane : ∀ r ∈ c.tickets, r % n = k
  sorted : c.tickets.Pairwise (· ≤ ·)

/-- What is always so of a distributor with its members. -/
structure TeamSound (s : Sequencer) (input : Queue Batch) (w : Worker) (d : Distributor)
    (cs : List Child) : Prop where
  tends : w.Tends input
  idle : w.busy = false → d.agenda = []
  many : 0 < cs.length
  size : d.children ≠ 0 → d.children = cs.length
  delivers : Delivers cs.length s.issued w.ended (decide (d.children ≠ 0)) d.current
    (d.openRun.map OpenRun.run) d.agenda
  awaited : d.children = 0 → .awaitChildren ∉ d.agenda →
    ∀ c ∈ cs, c.member.worker.phase = .stopped
  queues : ∀ c ∈ cs, c.queue.isOpen = decide (d.children ≠ 0)
  valid : s.Valid
  references : s.references.Perm (d.tickets ++ cs.flatMap Child.tickets)
  child : ∀ (k : Nat) (c : Child), cs[k]? = some c → c.Sound s cs.length k

/-- What is always so of the workers of a pipeline. -/
def Crew.Sound (s : Sequencer) (input : Queue Batch) : Crew → Prop
  | .alone m => s = {} ∧ m.processor.Plain ∧ m.Sound false s input
  | .team w d cs => TeamSound s input w d cs

/-! ## Steps of a team -/

theorem Child.Sound.mono {s s' : Sequencer} {n k : Nat} {c : Child} (h : c.Sound s n k)
    (hs : s.next ≤ s'.next) : c.Sound s' n k :=
  ⟨h.member.mono hs, h.runs, h.lane, h.sorted⟩

namespace TeamSound

variable {s s' : Sequencer} {input : Queue Batch} {w : Worker} {d : Distributor}
  {cs : List Child} {k : Nat} {c c' : Child} {b : OrderedBatch} {l : List Delivery}

theorem distributed (h : TeamSound s input w d cs) (hb : w.busy = true) (ha : d.agenda = []) :
    TeamSound s (w.finish.leave input) w.finish d cs :=
  ⟨h.tends.finish hb, fun _ => ha, h.many, h.size, (Worker.ended_finish w).symm ▸ h.delivers,
    h.awaited, h.queues, h.valid, h.references, h.child⟩

theorem rotate (h : TeamSound s input w d cs) (hb : w.busy = true)
    (ha : d.agenda = .rotate :: l) : TeamSound s input w d.rotate cs := by
  have hdel := h.delivers
  rw [ha] at hdel
  obtain ⟨ht, ho, hl⟩ := hdel
  have hd : d.children ≠ 0 := by simpa using ht
  have hag : d.rotate.agenda = l := by simp [Distributor.rotate, Distributor.next, ha]
  refine ⟨h.tends, fun hf => by simp [hf] at hb, h.many, h.size, ?_, fun h0 => absurd h0 hd,
    h.queues, h.valid, ?_, h.child⟩
  · have hcur : d.rotate.current = (d.current + 1) % cs.length := by
      rw [← h.size hd]
      simp [Distributor.rotate, Distributor.next, hd]
    rw [hag, hcur]
    exact hl
  · have : d.rotate.tickets = d.tickets := by
      simp only [Distributor.tickets, hag, ha]
      rfl
    rw [this]
    exact h.references

theorem letGo (h : TeamSound s input w d cs) (hb : w.busy = true)
    (ha : d.agenda = .closeChildren :: l) :
    TeamSound s input w d.letGo (cs.map fun c => { c with queue := c.queue.close }) := by
  have hdel := h.delivers
  rw [ha] at hdel
  obtain ⟨ht, ho, haw, hl⟩ := hdel
  have hag : d.letGo.agenda = l := by simp [Distributor.letGo, Distributor.next, ha]
  refine ⟨h.tends, fun hf => by simp [hf] at hb, by simpa using h.many, fun h0 => absurd rfl h0, ?_,
    fun _ hna => absurd (hag ▸ haw) hna, ?_, h.valid, ?_, fun k c hk => ?_⟩
  · rw [hag, List.length_map]
    exact hl
  · intro c hc
    obtain ⟨c, -, rfl⟩ := List.mem_map.1 hc
    rfl
  · have hd : d.letGo.tickets = d.tickets := by
      simp only [Distributor.tickets, hag, ha]
      rfl
    rw [hd, List.flatMap_map]
    exact h.references
  · rw [List.getElem?_map] at hk
    obtain ⟨c, hc, rfl⟩ := Option.map_eq_some_iff.1 hk
    obtain ⟨⟨h1, h2, h3⟩, h4, h5, h6⟩ := h.child k c hc
    rw [List.length_map]
    exact ⟨⟨h1.close, h2, h3⟩, h4, h5, h6⟩

theorem awaitedAll (h : TeamSound s input w d cs) (hb : w.busy = true)
    (ha : d.agenda = .awaitChildren :: l)
    (hs : cs.all (·.member.worker.isStopped) = true) : TeamSound s input w d.next cs := by
  have hdel := h.delivers
  rw [ha] at hdel
  obtain ⟨ht, hl⟩ := hdel
  have hag : d.next.agenda = l := by simp [Distributor.next, ha]
  refine ⟨h.tends, fun hf => by simp [hf] at hb, h.many, h.size, ?_, fun _ _ c hc => ?_, h.queues,
    h.valid, ?_, h.child⟩
  · rw [hag]
    exact hl
  · obtain ⟨k, hk⟩ := List.getElem?_of_mem hc
    exact (h.child k c hk).member.tends.stopped (List.all_eq_true.1 hs c hc)
  · have hd : d.next.tickets = d.tickets := by
      simp only [Distributor.tickets, hag, ha]
      rfl
    rw [hd]
    exact h.references

theorem tickets_offer {r : Nat} (ha : d.agenda = .offer b :: l) (hr : b.run = some r) :
    d.tickets.Perm (r :: d.next.tickets) := by
  have hag : d.next.agenda = l := by simp [Distributor.next, ha]
  simp only [Distributor.tickets, ha, hag]
  rw [List.filterMap_cons_some (by simpa [Delivery.ticket?] using hr)]
  exact List.perm_middle

theorem sent (h : TeamSound s input w d cs) (hb : w.busy = true)
    (ha : d.agenda = .offer b :: l) (hd : d.children ≠ 0) (hk : cs[d.current]? = some c) :
    TeamSound s input w d.next (cs.set d.current { c with queue := c.queue.push b }) := by
  have hdel := h.delivers
  rw [ha] at hdel
  obtain ⟨ht, ⟨r, hr, hlast, hcur⟩, hl⟩ := hdel
  have hag : d.next.agenda = l := by simp [Distributor.next, ha]
  have hopen : c.queue.isOpen = true := by
    rw [h.queues c (List.mem_of_getElem? hk)]
    simpa using hd
  obtain ⟨⟨h1, h2, h3⟩, h4, h5, h6⟩ := h.child _ c hk
  have htk : Child.tickets { c with queue := c.queue.push b } = c.tickets ++ [r] := by
    simp [Child.tickets, hr]
  refine ⟨h.tends, fun hf => by simp [hf] at hb, by simpa using h.many,
    fun h0 => (h.size h0).trans List.length_set.symm, ?_, fun h0 => absurd h0 hd, fun e he => ?_,
    h.valid, ?_, fun j e hj => ?_⟩
  · rw [hag, List.length_set]
    exact hl
  · rcases List.mem_or_eq_of_mem_set he with he | rfl
    · exact h.queues e he
    · exact h.queues c (List.mem_of_getElem? hk)
  · obtain ⟨pre, post, rfl, hpre⟩ := exists_seat hk
    rw [← hpre, set_seat]
    have hperm : (Child.tickets { c with queue := c.queue.push b }).Perm (r :: c.tickets) := by
      rw [htk]
      exact List.perm_append_singleton _ _
    refine h.references.trans (((tickets_offer ha hr).append_right _).trans ?_)
    exact (List.perm_middle.symm).trans
      ((perm_flatMap_seat (f := Child.tickets) pre post hperm).append_left _).symm
  · rw [List.length_set]
    rw [List.getElem?_set] at hj
    split at hj
    · rename_i hkj
      subst hkj
      obtain rfl : _ = e := by simpa [(List.getElem?_eq_some_iff.1 hk).1] using hj
      refine ⟨⟨h1.push hopen, h2, h3⟩, ?_, ?_, ?_⟩
      · intro b' hb'
        rcases List.mem_append.1 hb' with hb' | hb'
        · exact h4 b' hb'
        · rw [List.mem_singleton.1 hb', hr]
          rfl
      · intro r' hr'
        rw [htk] at hr'
        rcases List.mem_append.1 hr' with hr' | hr'
        · exact h5 r' hr'
        · rw [List.mem_singleton.1 hr', hcur]
      · -- no ticket is later than that of the latest run
        rw [htk]
        refine List.pairwise_append.2 ⟨h6, List.pairwise_singleton _ _, fun r' hr' t ht => ?_⟩
        rw [List.mem_singleton.1 ht]
        have hmem : r' ∈ s.references := h.references.mem_iff.2 (List.mem_append_right _
          (List.mem_flatMap.2 ⟨c, List.mem_of_getElem? hk, hr'⟩))
        have := h.valid.lt_issued r' hmem
        omega
    · exact h.child j e hj

theorem unsent (h : TeamSound s input w d cs) (hb : w.busy = true)
    (ha : d.agenda = .offer b :: l) :
    TeamSound (b.run.elim s s.release) input w d.next cs := by
  have hdel := h.delivers
  rw [ha] at hdel
  obtain ⟨ht, ⟨r, hr, hlast, hcur⟩, hl⟩ := hdel
  have hag : d.next.agenda = l := by simp [Distributor.next, ha]
  rw [hr, Option.elim_some]
  refine ⟨h.tends, fun hf => by simp [hf] at hb, h.many, h.size, ?_, ?_, h.queues,
    h.valid.release r, ?_, fun k c hk => (h.child k c hk).mono (s.next_le_release h.valid.nodup)⟩
  · rw [hag, Sequencer.issued_release]
    exact hl
  · have hd : d.children ≠ 0 := by simpa using ht
    exact fun h0 => absurd h0 hd
  · rw [Sequencer.references_release]
    exact perm_erase_of_perm_cons (h.references.trans ((tickets_offer ha hr).append_right _))

/-- What an idle distributor that still serves is like. -/
theorem of_idle (h : TeamSound s input w d cs) (hb : w.busy = false) (he : w.ended = false) :
    d.agenda = [] ∧ d.children ≠ 0
      ∧ (∀ r, d.openRun = some r → r.run + 1 = s.issued ∧ d.current = r.run % cs.length)
      ∧ (d.openRun = none → d.current = s.issued % cs.length) := by
  have ha := h.idle hb
  have hdel := h.delivers
  rw [ha, he] at hdel
  obtain ⟨h1, h2, h3, -⟩ := hdel
  refine ⟨ha, by simpa using h3, fun r hr => h1 r.run (by simp [hr]), fun hn => ?_⟩
  exact h2 (by simp [hn]) rfl

theorem begun (h : TeamSound s input w d cs) (s' : Sequencer) (d' : Distributor) {q : Queue Batch}
    {w' : Worker} (hd : d.children ≠ 0) (htends : w'.Tends q) (hbusy : w'.busy = true)
    (hch : d'.children = d.children)
    (hdel : Delivers cs.length s'.issued w'.ended true d'.current (d'.openRun.map OpenRun.run)
      d'.agenda)
    (hv : s'.Valid) (href : s'.references.Perm (d'.tickets ++ cs.flatMap Child.tickets))
    (hle : s.next ≤ s'.next) : TeamSound s' q w' d' cs := by
  have hd' : d'.children ≠ 0 := hch ▸ hd
  refine ⟨htends, fun hf => by simp [hf] at hbusy, h.many, fun _ => hch ▸ h.size hd, ?_,
    fun h0 => absurd h0 hd', fun c hc => ?_, hv, href, fun k c hk => (h.child k c hk).mono hle⟩
  · simpa [hd'] using hdel
  · rw [hch]
    exact h.queues c hc

/-- The distributor is called and has nothing to send. -/
theorem unoccupied (h : TeamSound s input w d cs) (hb : w.busy = false) (he : w.ended = false)
    {d' : Distributor} {q : Queue Batch} {w' : Worker} (htends : w'.Tends q)
    (hbusy : w'.busy = true) (he' : w'.ended = false) (hch : d'.children = d.children)
    (hcur : d'.current = d.current) (hrun : d'.openRun = d.openRun) (ha' : d'.agenda = []) :
    TeamSound s q w' d' cs := by
  obtain ⟨ha, hd, hsome, hnone⟩ := h.of_idle hb he
  have href := h.references
  simp only [Distributor.tickets, ha] at href
  refine h.begun s d' hd htends hbusy hch ?_ h.valid ?_ (Nat.le_refl _)
  · rw [he', hcur, hrun, ha']
    refine ⟨fun r hr => ?_, fun hn _ => ?_, rfl, by simp⟩
    · obtain ⟨o, ho, rfl⟩ := Option.map_eq_some_iff.1 hr
      exact hsome o ho
    · exact hnone (by simpa using hn)
  · simpa [Distributor.tickets, hrun, ha'] using href

/-- A batch of the open run, or of a new one, is to be sent. -/
theorem receive (h : TeamSound s input w d cs) (hb : w.busy = false) {now deadline : Instant}
    {batch : Batch} {w' : Worker} {q : Queue Batch}
    (hc : w.Calls now (!input.isOpen) input (.input batch deadline) w' q) :
    TeamSound (d.receive now deadline batch s).2 q w' (d.receive now deadline batch s).1 cs := by
  have htends := h.tends.call hc (by simp)
  have hend : w.ended = false ∧ w'.ended = false := by
    cases hc with
    | input hp hq => simp [Worker.ended, hp]
  obtain ⟨ha, hd, hsome, hnone⟩ := h.of_idle hb hend.1
  have href := h.references
  simp only [Distributor.tickets, ha] at href
  have hbegun := fun {s' : Sequencer} {d' : Distributor} =>
    h.begun s' d' hd htends hc.busy
  rw [hend.2] at hbegun
  unfold Distributor.receive
  split
  · exact h.unoccupied hb hend.1 htends hc.busy hend.2 rfl rfl rfl rfl
  · rcases hr : d.openRun with _ | r
    · have hcur := hnone hr
      rw [hr] at href
      simp only [Distributor.runFor, hr]
      -- a new run, which is the latest and goes to the member whose turn it is
      have hlast : ∃ r, some s.issued = some r ∧ r + 1 = s.issued + 1 ∧ d.current = r % cs.length :=
        ⟨_, rfl, rfl, hcur⟩
      split
      · refine hbegun rfl ⟨rfl, hlast, rfl, rfl, by simp, fun _ _ => ?_, rfl, by simp⟩ h.valid.issue
          ?_ (Nat.le_refl _)
        · simp [hcur]
        · simpa [Distributor.tickets, List.filterMap_cons, Delivery.ticket?]
            using href.cons s.issued
      · refine hbegun rfl ⟨rfl, hlast, ?_, by simp, rfl, by simp⟩
          (h.valid.issue.share (by simp)) ?_ (Nat.le_refl _)
        · rintro _ ⟨⟩
          exact ⟨rfl, hcur⟩
        · simpa [Distributor.tickets, List.filterMap_cons, Delivery.ticket?]
            using (href.cons s.issued).cons s.issued
    · obtain ⟨hlast, hcur⟩ := hsome r hr
      rw [hr] at href
      simp only [Distributor.runFor, hr]
      have hlast' : ∃ k, some r.run = some k ∧ k + 1 = s.issued ∧ d.current = k % cs.length :=
        ⟨_, rfl, hlast, hcur⟩
      split
      · refine hbegun rfl ⟨rfl, hlast', rfl, rfl, by simp, fun _ _ => ?_, rfl, by simp⟩ h.valid ?_
          (Nat.le_refl _)
        · simp [hcur, ← hlast]
        · simpa [Distributor.tickets, List.filterMap_cons, Delivery.ticket?] using href
      · refine hbegun rfl ⟨rfl, hlast', ?_, by simp, rfl, by simp⟩ (h.valid.share ?_) ?_
          (Nat.le_refl _)
        · rintro _ ⟨⟩
          exact ⟨hlast, hcur⟩
        · exact href.symm.mem_iff.1 (by simp)
        · simpa [Distributor.tickets, List.filterMap_cons, Delivery.ticket?] using href.cons r.run

theorem tick (h : TeamSound s input w d cs) (hb : w.busy = false) {now : Instant} {w' : Worker}
    {q : Queue Batch} (hc : w.Calls now (!input.isOpen) input .tick w' q) :
    TeamSound s q w' (d.tick now) cs := by
  have htends := h.tends.call hc (by simp)
  have hend : w.ended = false ∧ w'.ended = false := by
    cases hc with
    | tick hp => simp [Worker.ended, hp]
    | lastTick hp => simp [Worker.ended, hp]
  obtain ⟨ha, hd, hsome, -⟩ := h.of_idle hb hend.1
  have href := h.references
  simp only [Distributor.tickets, ha] at href
  have hbegun := fun {d' : Distributor} => h.begun s d' hd htends hc.busy
  rw [hend.2] at hbegun
  unfold Distributor.tick
  dsimp only
  split
  · rename_i hstale
    obtain ⟨r, hr, -⟩ := (Option.any_eq_true _ _).1 hstale
    obtain ⟨hlast, hcur⟩ := hsome r hr
    rw [hr] at href
    simp only [Distributor.closing, hr]
    refine hbegun rfl ⟨rfl, ⟨_, rfl, hlast, hcur⟩, rfl, rfl, by simp, fun _ _ => ?_, rfl, by simp⟩
      h.valid ?_ (Nat.le_refl _)
    · simp [hcur, ← hlast]
    · simpa [Distributor.tickets, List.filterMap_cons, Delivery.ticket?] using href
  · exact h.unoccupied hb hend.1 htends hc.busy hend.2 rfl rfl rfl rfl

theorem stop (h : TeamSound s input w d cs) (hb : w.busy = false) {now : Instant} {w' : Worker}
    {q : Queue Batch} (hc : w.Calls now (!input.isOpen) input .stop w' q) :
    TeamSound s q w' (d.stop now) cs := by
  have htends := h.tends.call hc (by simp)
  have hend : w.ended = false ∧ w'.ended = true := by
    cases hc with
    | stop hp => simp [Worker.ended, hp]
  obtain ⟨ha, hd, hsome, -⟩ := h.of_idle hb hend.1
  have href := h.references
  simp only [Distributor.tickets, ha] at href
  have hbegun := fun {d' : Distributor} => h.begun s d' hd htends hc.busy
  rw [hend.2] at hbegun
  unfold Distributor.stop
  have hclose : ∀ cur, Delivers cs.length s.issued true true cur none
      [.closeChildren, .awaitChildren] := fun cur =>
    ⟨rfl, rfl, by simp, rfl, by simp, by simp, rfl, fun _ => rfl⟩
  rcases hr : d.openRun with _ | r
  · rw [hr] at href
    simp only [Distributor.closing, hr, List.nil_append]
    refine hbegun rfl (hclose _) h.valid ?_ (Nat.le_refl _)
    simpa [Distributor.tickets, List.filterMap_cons, Delivery.ticket?] using href
  · obtain ⟨hlast, hcur⟩ := hsome r hr
    rw [hr] at href
    simp only [Distributor.closing, hr]
    refine hbegun rfl ⟨rfl, ⟨_, rfl, hlast, hcur⟩, rfl, rfl, hclose _⟩ h.valid ?_ (Nat.le_refl _)
    simpa [Distributor.tickets, List.filterMap_cons, Delivery.ticket?] using href

/-- A member has changed, and with it at most the references to one ticket. -/
theorem of_child (h : TeamSound s input w d cs) (hk : cs[k]? = some c)
    (hs : s' = s ∧ c'.tickets = c.tickets ∨ ∃ n, s' = s.release n ∧ c.tickets = n :: c'.tickets)
    (hopen : c'.queue.isOpen = c.queue.isOpen) (hmember : c'.member.Sound true s' c'.queue)
    (hruns : ∀ b ∈ c'.queue.items, b.run.isSome = true)
    (hstop : c.member.worker.phase = .stopped → c'.member.worker.phase = .stopped) :
    TeamSound s' input w d (cs.set k c') := by
  have hle : s.next ≤ s'.next := by
    rcases hs with ⟨rfl, -⟩ | ⟨n, rfl, -⟩
    · exact Nat.le_refl _
    · exact s.next_le_release h.valid.nodup
  have hsub : ∀ r ∈ c'.tickets, r ∈ c.tickets := by
    rcases hs with ⟨-, ht⟩ | ⟨n, -, ht⟩ <;> rw [ht]
    · exact fun _ => id
    · exact fun _ => List.mem_cons_of_mem _
  have hsorted : c'.tickets.Pairwise (· ≤ ·) := by
    have := (h.child k c hk).sorted
    rcases hs with ⟨-, ht⟩ | ⟨n, -, ht⟩
    · exact ht ▸ this
    · rw [ht] at this
      exact this.of_cons
  have hmem := List.mem_of_getElem? hk
  refine ⟨h.tends, h.idle, by simpa using h.many, fun h0 => (h.size h0).trans List.length_set.symm,
    ?_, fun h0 hna e he => ?_, fun e he => ?_, ?_, ?_, fun j e hj => ?_⟩
  · have hissued : s'.issued = s.issued := by
      rcases hs with ⟨rfl, -⟩ | ⟨n, rfl, -⟩ <;> simp
    rw [List.length_set, hissued]
    exact h.delivers
  · rcases List.mem_or_eq_of_mem_set he with he | rfl
    · exact h.awaited h0 hna e he
    · exact hstop (h.awaited h0 hna c hmem)
  · rcases List.mem_or_eq_of_mem_set he with he | rfl
    · exact h.queues e he
    · rw [hopen]
      exact h.queues c hmem
  · rcases hs with ⟨rfl, -⟩ | ⟨n, rfl, -⟩
    · exact h.valid
    · exact h.valid.release n
  · have href := h.references
    obtain ⟨pre, post, rfl, rfl⟩ := exists_seat hk
    rw [set_seat]
    rcases hs with ⟨rfl, ht⟩ | ⟨n, rfl, ht⟩
    · rwa [flatMap_seat pre post ht]
    · rw [Sequencer.references_release]
      refine perm_erase_of_perm_cons (href.trans ?_)
      exact ((perm_flatMap_seat pre post (.of_eq ht)).append_left _).trans List.perm_middle
  · rw [List.length_set]
    rw [List.getElem?_set] at hj
    split at hj
    · rename_i hkj
      subst hkj
      obtain rfl : c' = e := by simpa [(List.getElem?_eq_some_iff.1 hk).1] using hj
      exact ⟨hmember, hruns, fun r hr => (h.child k c hk).lane r (hsub r hr), hsorted⟩
    · exact (h.child j e hj).mono hle

theorem childActs (h : TeamSound s input w d cs) (hk : cs[k]? = some c)
    (hb : c.member.worker.busy = true) {now : Instant} {o : Output} {books : Books}
    {x : Member.Place} (hx : Member.Acts now ⟨c.member, s, o, books⟩ x) :
    TeamSound x.sequencer input w d (cs.set k ⟨x.member.worker.leave c.queue, x.member⟩) := by
  obtain ⟨hm, hruns, -, -⟩ := h.child k c hk
  have hmember := Member.Sound.acts (x := ⟨c.member, s, o, books⟩) hm hb hm.sound.no_crash
    h.valid.nodup hx
  have hitems := Member.Sound.items_leave (x := ⟨c.member, s, o, books⟩) hm hb hm.sound.no_crash hx
  refine h.of_child hk ?_ (Worker.isOpen_leave _ _) hmember (fun b hb => hruns b (hitems ▸ hb)) ?_
  · simp only [Child.tickets, hitems]
    rcases Member.Sound.tickets_acts (x := ⟨c.member, s, o, books⟩) hm hx with
      ⟨hs, ht⟩ | ⟨n, hs, ht⟩
    · exact .inl ⟨hs, by rw [ht]⟩
    · exact .inr ⟨n, hs, by simp only [ht, List.cons_append]⟩
  · exact fun hp => absurd hp (hm.tends.running hb)

theorem childCall (h : TeamSound s input w d cs) (hk : cs[k]? = some c)
    (hb : c.member.worker.busy = false) {now : Instant} {cb : Callback OrderedBatch} {w' : Worker}
    {q : Queue OrderedBatch}
    (hc : c.member.worker.Calls now (!c.queue.isOpen) c.queue cb w' q) :
    TeamSound s input w d (cs.set k ⟨q, c.member.begin now cb w'⟩) := by
  obtain ⟨hm, hruns, -, -⟩ := h.child k c hk
  have hidle := hm.idle hb
  have hruns' : ∀ b ∈ q.items, b.run.isSome = true := by
    cases hc with
    | input hp hq => exact fun b hb => hruns b (by rw [hq]; exact List.mem_cons_of_mem _ hb)
    | _ => exact hruns
  refine h.of_child hk (.inl ⟨rfl, ?_⟩) hc.isOpen (hm.begin (by simp) hc ?_) hruns'
    fun hp => absurd hp hc.phase
  · cases hc with
    | input hp hq =>
      rename_i b rest
      have hr := hruns b (by rw [hq]; exact List.mem_cons_self)
      obtain ⟨n, hn⟩ := Option.isSome_iff_exists.1 hr
      simp only [Child.tickets, Member.begin, (Processor.holds_receive b _ hidle).2.2, hq, hn,
        List.filterMap_cons, Option.toList_some, List.append_assoc, List.cons_append,
        List.nil_append]
    | tick hp => simp only [Child.tickets, Member.begin, (Processor.holds_tick _ hidle).2.2]
    | lastTick hp => simp only [Child.tickets, Member.begin, (Processor.holds_tick _ hidle).2.2]
    | stop hp => simp only [Child.tickets, Member.begin, (hm.sound.holds_stop _ hidle).2.1]
  · cases hc with
    | input hp hq =>
      rename_i b rest
      exact .inl ⟨b, _, b, rfl, rfl, fun _ => hruns b (by rw [hq]; exact List.mem_cons_self)⟩
    | tick hp => exact .inr (.inl ⟨rfl, rfl⟩)
    | lastTick hp => exact .inr (.inl ⟨rfl, rfl⟩)
    | stop hp => exact .inr (.inr ⟨rfl, rfl⟩)

end TeamSound
/-! ## Steps of a single member and of an output -/

namespace Processor
variable {now : Instant} {s s' : Sequencer} {b b' : Books} {p p' : Processor}

theorem Plain.of_tail (h : p.Plain) {t : Task} {l : List Task} (tasks : List Task)
    (ha : p.agenda = t :: l) (hr : p'.run = none) (ho : p'.ordered = p.ordered)
    (ha' : p'.agenda = tasks ++ l) (ht : ∀ t ∈ tasks, t.ticket? = none ∧ t ≠ .crash) :
    p'.Plain := by
  refine ⟨hr, ho.trans h.ordered, fun u hu => ?_⟩
  rw [ha', List.mem_append] at hu
  rcases hu with hu | hu
  · exact ht u hu
  · exact h.calm u (by rw [ha]; exact List.mem_cons_of_mem _ hu)

theorem plain_emits (c : Option Chunk) {tasks : List Task}
    (ht : ∀ t ∈ tasks, t.ticket? = none ∧ t ≠ .crash) :
    ∀ t ∈ c.toList.map Task.emit ++ tasks, t.ticket? = none ∧ t ≠ .crash := by
  rcases c with _ | c
  · exact ht
  · exact List.forall_mem_cons.2 ⟨⟨rfl, by simp⟩, ht⟩

/-- A processor that never saw a ticket does not come by one. -/
theorem Plain.step (h : p.Plain) (hs : p.Step now s b p' s' b') : p'.Plain := by
  have hno : ∀ {t l}, p.agenda = t :: l → t.ticket? = none := fun ha =>
    (h.calm _ (by rw [ha]; exact List.mem_cons_self)).1
  cases hs with
  | joinFirst ha hr => exact absurd (hno ha) (by simp [Task.ticket?])
  | joinSame ha hr => exact absurd (hno ha) (by simp [Task.ticket?])
  | joinOther ha hr hne => exact absurd (hno ha) (by simp [Task.ticket?])
  | adopt ha => exact absurd (hno ha) (by simp [Task.ticket?])
  | written ha hv hw =>
    exact h.of_tail _ ha h.run rfl (by rw [List.append_nil]) (plain_emits _ (by simp))
  | hand ha ht =>
    rename_i l c
    exact h.of_tail [.forward, .offer c] ha h.run rfl rfl (by simp [Task.ticket?])
  | hold ha ht htasks =>
    rcases htasks with rfl | rfl <;> exact h.of_tail _ ha h.run rfl rfl (by simp [Task.ticket?])
  | forward ha hp =>
    rename_i l c rest
    exact h.of_tail [.offer c, .forward] ha h.run rfl rfl (by simp [Task.ticket?])
  | allow ha ht => exact h.of_tail [.forward] ha h.run rfl rfl (by simp [Task.ticket?])
  | finish ha =>
    refine h.of_tail (p.maker.flush.1.toList.map Task.emit ++ [.clear, .complete]) ha h.run rfl
      (by simp) (plain_emits _ (by simp [Task.ticket?]))
  | clear ha hp => exact h.of_tail [.awaitTurn, .forward] ha h.run rfl rfl (by simp [Task.ticket?])
  | complete ha => exact h.of_tail [] ha rfl rfl rfl (by simp)
  | stale ha =>
    exact h.of_tail _ ha h.run rfl (by rw [List.append_nil]) (plain_emits _ (by simp))
  | rest hl => exact h
  | _ ha => exact h.of_tail [] ha h.run rfl rfl (by simp)

theorem Plain.no_crash (h : p.Plain) (l : List Task) : p.agenda ≠ .crash :: l := fun ha =>
  (h.calm .crash (by rw [ha]; exact List.mem_cons_self)).2 rfl

theorem Plain.tickets (h : p.Plain) : p.tickets = [] := by
  simp only [Processor.tickets, h.run, Option.toList_none, List.nil_append]
  exact List.filterMap_eq_nil_iff.2 fun t ht => (h.calm t ht).1

theorem Plain.asking (h : p.Plain) (c : Chunk) : (p.asking c).Plain := by
  refine ⟨h.run, h.ordered, fun t ht => ?_⟩
  rcases List.mem_append.1 ht with ht | ht
  · rw [List.mem_singleton.1 ht]
    exact ⟨rfl, by simp⟩
  · exact h.calm t (List.mem_of_mem_drop ht)

theorem Plain.handedOver (h : p.Plain) : p.handedOver.Plain :=
  ⟨h.run, h.ordered, fun t ht => h.calm t (List.mem_of_mem_drop ht)⟩

theorem Plain.begin (h : p.Plain) {w : Worker} {w' : Worker} (cb : Callback Batch) :
    (Member.begin now cb.unordered w' ⟨w, p⟩).processor.Plain := by
  cases cb with
  | input batch deadline =>
    refine ⟨h.run, h.ordered, fun t ht => ?_⟩
    have ht : t ∈ batch.map Task.process := by
      simpa [Member.begin, Callback.unordered, receive, OrderedBatch.unordered] using ht
    obtain ⟨r, -, rfl⟩ := List.mem_map.1 ht
    exact ⟨rfl, by simp⟩
  | tick => exact ⟨h.run, h.ordered, by simp [Member.begin, Callback.unordered, tick, Task.ticket?]⟩
  | stop =>
    have hr := h.run
    have ho := h.ordered
    simp only [Member.begin, Callback.unordered, stop, hr, Option.isSome_none, Bool.false_eq_true,
      ↓reduceIte, ho]
    split
    · exact ⟨rfl, rfl, by simp⟩
    · refine ⟨rfl, rfl, fun t ht => ?_⟩
      obtain ⟨c, -, rfl⟩ := List.mem_map.1 ht
      exact ⟨rfl, by simp⟩

end Processor

namespace Crew

variable {s : Sequencer} {input q : Queue Batch} {m : Member} {now : Instant}

theorem Sound.acts (h : (Crew.alone m).Sound s input) (hb : m.worker.busy = true) {o : Output}
    {books : Books} {x : Member.Place} (hx : Member.Acts now ⟨m, s, o, books⟩ x) :
    (Crew.alone x.member).Sound x.sequencer (x.member.worker.leave input)
      ∧ (x.member.worker.leave input).items = input.items := by
  obtain ⟨rfl, hplain, hm⟩ := h
  have hd : ({} : Sequencer).parked.Nodup := List.nodup_nil
  have hitems := Member.Sound.items_leave (x := ⟨m, {}, o, books⟩) hm hb hplain.no_crash hx
  refine ⟨⟨?_, ?_, Member.Sound.acts (x := ⟨m, {}, o, books⟩) hm hb hplain.no_crash hd hx⟩, hitems⟩
  · rcases Member.Sound.tickets_acts (x := ⟨m, {}, o, books⟩) hm hx with ⟨hs, -⟩ | ⟨n, -, ht⟩
    · exact hs
    · rw [hplain.tickets] at ht
      simp at ht
  · cases hx with
    | finish ha => exact hplain
    | crash ha => exact absurd ha (hplain.no_crash _)
    | ask ha ho => exact hplain.asking _
    | refuse ha => exact hplain.handedOver
    | give ha hr => exact hplain.handedOver
    | giveUp ha => exact hplain.handedOver
    | task hs => exact hplain.step hs

theorem Sound.call (h : (Crew.alone m).Sound s input) {cb : Callback Batch} {w : Worker}
    (hc : m.worker.Calls now (!input.isOpen) input cb w q) :
    (Crew.alone (m.begin now cb.unordered w)).Sound s q := by
  obtain ⟨rfl, hplain, hm⟩ := h
  refine ⟨rfl, hplain.begin cb, hm.begin (by simp) hc ?_⟩
  cases cb with
  | input b deadline => exact .inl ⟨_, deadline, b, rfl, rfl, by simp⟩
  | tick => exact .inr (.inl ⟨rfl, rfl⟩)
  | stop => exact .inr (.inr ⟨rfl, rfl⟩)

end Crew

namespace Output

variable {o : Output} {now : Instant} {sending : Bool}

theorem Sound.finish (h : o.Sound) (hb : o.consumer.busy = true) : o.finish.Sound :=
  ⟨h.tends.finish hb, fun _ => rfl⟩

theorem Sound.busy (h : o.Sound) {c : Chunk × Instant} (hh : o.held = some c) :
    o.consumer.busy = true := by
  by_contra hb
  simp [h.idle (by simpa using hb)] at hh

theorem Sound.items_finish (h : o.Sound) : o.finish.queue.items = o.queue.items := by
  simp only [Output.finish, Worker.leave]
  split
  · rename_i hs
    have hp : o.consumer.phase ≠ .serving := by
      intro hp
      simp [Worker.isStopped, Worker.finish, hp] at hs
    simp [Queue.abandon, (h.tends.emptied hp).2]
  · rfl

theorem Sound.call (h : o.Sound) {w : Worker} {cb : Callback Chunk} {q : Queue Chunk}
    {held : Option (Chunk × Instant)}
    (hc : o.consumer.Calls now (o.isEnded sending) o.queue cb w q) :
    Sound { o with consumer := w, queue := q, held } := by
  refine ⟨h.tends.call hc fun he => ?_, fun hb => absurd hc.busy (by simpa using hb)⟩
  simp only [isEnded, Bool.and_eq_true, Bool.not_eq_true'] at he
  exact he.1

theorem Sound.shutDown (h : o.Sound) : o.shutDown.Sound := ⟨h.tends.close, h.idle⟩

theorem Sound.push (h : o.Sound) (ho : o.queue.isOpen = true) (c : Chunk) :
    Sound { o with queue := o.queue.push c } := ⟨h.tends.push ho, h.idle⟩

end Output

end LogPipeline
