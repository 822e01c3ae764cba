import LogPipeline.Proofs.Attendance
import LogPipeline.Proofs.Shutdowns

/-!
# Backpressure resolves by itself

Where the destination has room and no batch was lost on its way to a member, nobody is left in a
callback once nobody can do anything (`Pipeline.Sound.quiet`). Nothing waits in the output then, so
no member waits for room in it. A member that is done has tickets for the run being filled only, so
none waits for its turn, and the distributor finds room. Full queues stop nobody for good, and no
deadline has to pass.
-/

namespace LogPipeline

/-- The destination is open and has room, and nobody waits for it. -/
structure Destination.Ready (d : Destination) : Prop where
  isRead : d.queue.isRead = true
  hasRoom : d.queue.hasRoom = true
  claims : d.claims = []

theorem Destination.Ready.hasRoomFor {d : Destination} (h : d.Ready) (i : Nat) :
    d.hasRoomFor i = true := by
  have hroom := h.hasRoom
  simpa [Destination.hasRoomFor, h.claims, Queue.hasRoom] using hroom

/-- No worker is in a callback. -/
def Crew.Quiet : Crew → Prop
  | .alone m => m.worker.busy = false
  | .team w _ cs => w.busy = false ∧ ∀ c ∈ cs, c.member.worker.busy = false

/-- Nobody is in a callback, and no chunk is being forwarded. -/
structure Pipeline.Quiet (p : Pipeline) : Prop where
  crew : ∀ c, p.crew = some c → c.Quiet
  output : ∀ o, p.output = some o → o.held = none

/-- Every batch that was offered to a member was taken. -/
def Pipeline.Lossless (p : Pipeline) : Prop :=
  ∃ l, p.Dispatched l ∧ ∀ o ∈ l, o.taken = true

/-- An idle worker with nothing to do has an empty queue, which is open unless it has stopped. -/
theorem Worker.Tends.rests {α : Type} {w : Worker} {q : Queue α} (h : w.Tends q)
    (hb : w.busy = false) {now : Instant} {ended : Bool} (hn : w.hasNext now ended q = false) :
    q.items = [] ∧ (w.phase = .stopped ∨ w.phase = .serving ∧ ended = false) := by
  unfold Worker.hasNext at hn
  cases hp : w.phase with
  | serving =>
    simp only [hp, Bool.or_eq_false_iff] at hn
    exact ⟨by simpa using hn.1.1, .inr ⟨rfl, hn.1.2⟩⟩
  | lastTick => simp [hp] at hn
  | stopping => simp [h.busy hp] at hb
  | stopped => exact ⟨(h.emptied (by simp [hp])).2, .inl rfl⟩
  | failed message => exact absurd hp (h.sane message)

namespace Pipeline

variable {p : Pipeline} {g : Ground} {i : Nat} {o : Output} {w : Worker} {d : Distributor}
  {cs : List Child}

/-- Nobody in a quiet pipeline sends. -/
theorem Quiet.sending_eq_none (h : p.Quiet) (hp : p.Sound) (r : Role) : p.sending? r = none := by
  cases r with
  | supervisor => rfl
  | consumer =>
    rcases ho : p.output with _ | o
    · simp [sending?, ho]
    · simp [sending?, ho, h.output o ho]
  | root =>
    rcases hc : p.crew with _ | (m | ⟨w, d, cs⟩)
    · simp [sending?, hc]
    · have hb : m.worker.busy = false := h.crew _ hc
      simp only [sending?, hc]
      exact Member.sending?_eq_none ((hp.crew _ hc).2.2.idle hb)
    · have hb : w.busy = false := (h.crew _ hc).1
      simp [sending?, hc, Distributor.sending?, TeamSound.idle (hp.crew _ hc) hb]
  | child k =>
    rcases hc : p.crew with _ | (m | ⟨w, d, cs⟩)
    · simp [sending?, hc]
    · simp [sending?, hc]
    · rcases hk : cs[k]? with _ | c
      · simp [sending?, hc, hk]
      · have hb := (h.crew _ hc).2 c (List.mem_of_getElem? hk)
        simp only [sending?, hc, hk, Option.bind_some]
        exact Member.sending?_eq_none
          ((TeamSound.child (hp.crew _ hc) k c hk).member.idle hb)

/-- A quiet pipeline is attended at any time. -/
theorem Quiet.attended (h : p.Quiet) {now : Instant} (ha : p.Attended now) (t : Instant) :
    p.Attended t := by
  refine ⟨ha.input, fun c hc => ?_, ha.output, ha.room⟩
  have hcrew := ha.crew c hc
  have hq := h.crew c hc
  cases c with
  | alone m =>
    have hm : m.Attended now p.input := hcrew
    exact ⟨hm.reads, fun hb => by simp [show m.worker.busy = false from hq] at hb⟩
  | team w d cs =>
    obtain ⟨h1, -, h3⟩ := hcrew
    refine ⟨h1, fun hb => by simp [hq.1] at hb, fun c hmem => ⟨(h3 c hmem).reads, fun hb => ?_⟩⟩
    simp [hq.2 c hmem] at hb

/-- With room at the destination nothing is left in the output. -/
theorem Sound.output_rests (h : p.Sound) (hd : g.destination.Ready) (ho : p.output = some o)
    (hable : p.able g i .consumer = false) : o.held = none ∧ o.queue.items = [] := by
  simp only [able, ho, Option.any_some, Output.consumerAble] at hable
  rcases hh : o.held with _ | ⟨c, deadline⟩
  · simp only [hh, Bool.or_eq_false_iff] at hable
    exact ⟨rfl, ((h.output o ho).tends.rests hable.1 hable.2).1⟩
  · simp [hh, Destination.concerns, Destination.decides, hd.hasRoomFor] at hable

/-- A member with nothing to do is idle or waits for its turn. -/
theorem Sound.idle_or_waiting {α : Type} {q : Queue α} {m : Member} (ho : p.output = some o)
    (hroom : 0 < o.queue.capacity) (hq : o.queue.items = [])
    (hable : p.memberAble g.now q m = false) :
    m.worker.busy = false ∧ m.worker.hasNext g.now (!q.isOpen) q = false
      ∨ m.processor.isWaiting p.sequencer = true := by
  unfold memberAble at hable
  split at hable
  · rw [ho, Option.any_some] at hable
    unfold Member.busyAble at hable
    split at hable
    · simp [Queue.decides, Queue.hasRoom, hq, hroom] at hable
    · exact .inr (by simpa using hable)
  · exact .inl ⟨by simpa using ‹¬m.worker.busy = true›, hable⟩

/-- A member that is done has tickets for nothing but what the distributor has one for. -/
theorem Sound.tickets_subset (h : p.Sound) (hl : p.Lossless) (hc : p.crew = some (.team w d cs))
    {c : Child} (hmem : c ∈ cs) (hb : c.member.worker.busy = false) (hq : c.queue.items = []) :
    ∀ r ∈ c.tickets, r ∈ d.tickets := by
  intro r hr
  obtain ⟨l, hd, htaken⟩ := hl
  obtain ⟨k, hk⟩ := List.getElem?_of_mem hmem
  obtain ⟨h1, h2⟩ := (TeamSound.child (h.crew _ hc) k c hk).of_idle hb hq
  have hs : c.settled = some r := by
    rw [h2]
    simpa [h1] using hr
  refine ((hd.team _ _ _ hc).pinned_of_settled hmem hs).resolve_right ?_
  rintro ⟨o, ho, hf, -⟩
  simp [htaken o ho] at hf

/-- A distributor that can do nothing is idle when its members are: the queue it sends to is empty,
and members that were let go have stopped. -/
theorem Sound.distributor_idle (h : p.Sound) (hc : p.crew = some (.team w d cs))
    (hroom : ∀ c ∈ cs, 0 < c.queue.capacity)
    (hidle : ∀ c ∈ cs, c.member.worker.busy = false
      ∧ c.member.worker.hasNext g.now (!c.queue.isOpen) c.queue = false)
    (hable : p.distributorAble g.now w d cs = false) : w.busy = false := by
  have hteam : TeamSound p.sequencer p.input w d cs := h.crew _ hc
  have hrests : ∀ c ∈ cs, c.queue.items = []
      ∧ (c.member.worker.phase = .stopped
        ∨ c.member.worker.phase = .serving ∧ (!c.queue.isOpen) = false) := by
    intro c hmem
    obtain ⟨k, hk⟩ := List.getElem?_of_mem hmem
    exact (hteam.child k c hk).member.tends.rests (hidle c hmem).1 (hidle c hmem).2
  by_contra hb
  have hb : w.busy = true := by simpa using hb
  unfold distributorAble at hable
  simp only [hb, ↓reduceIte] at hable
  split at hable
  · rcases hq : currentQueue d cs with _ | q
    · simp [hq] at hable
    · unfold currentQueue at hq
      split at hq
      · simp at hq
      · obtain ⟨c, hk, rfl⟩ := Option.map_eq_some_iff.1 hq
        have hmem := List.mem_of_getElem? hk
        simp [currentQueue, ‹¬d.children = 0›, hk, Queue.decides, Queue.hasRoom, (hrests c hmem).1,
          hroom c hmem] at hable
  · rename_i l ha
    have hdel := hteam.delivers
    rw [ha] at hdel
    have hgone : d.children = 0 := by simpa using hdel.1
    have hall : cs.all (·.member.worker.isStopped) = true := by
      refine List.all_eq_true.2 fun c hmem => ?_
      have hopen : c.queue.isOpen = false := by simp [hteam.queues c hmem, hgone]
      simp [Worker.isStopped, (hrests c hmem).2.resolve_right (by simp [hopen])]
    simp [hall] at hable
  · simp at hable

/-- Nobody in a team is in a callback when nobody can do anything. -/
theorem Sound.team_quiet (h : p.Sound) (hl : p.Lossless) (hf : p.Fitted g.blueprint)
    (hcap : 0 < g.blueprint.settings.queueCapacity) (hd : g.destination.Ready)
    (hc : p.crew = some (.team w d cs)) (hable : ∀ r, p.able g i r = false) :
    (∀ c ∈ cs, c.member.worker.busy = false) ∧ w.busy = false
      ∧ w.hasNext g.now (!p.input.isOpen) p.input = false := by
  have hteam : TeamSound p.sequencer p.input w d cs := h.crew _ hc
  obtain ⟨o, ho⟩ := Option.ne_none_iff_exists'.1 (h.manned (by simp [hc]))
  obtain ⟨-, hitems⟩ := h.output_rests hd ho (hable .consumer)
  have hrest : ∀ c ∈ cs, c.member.worker.busy = false
        ∧ c.member.worker.hasNext g.now (!c.queue.isOpen) c.queue = false
      ∨ c.member.processor.isWaiting p.sequencer = true := by
    intro c hmem
    obtain ⟨k, hk⟩ := List.getElem?_of_mem hmem
    have hck := hable (.child k)
    simp only [able, hc, hk, Option.any_some] at hck
    exact idle_or_waiting ho (hf.output o ho).capacity hitems hck
  -- a member that does not wait holds nothing back, so that nobody waits
  have hfree := hteam.not_waiting fun c hmem => by
    rcases hrest c hmem with ⟨hb, hn⟩ | hw
    · obtain ⟨k, hk⟩ := List.getElem?_of_mem hmem
      have hnil := ((hteam.child k c hk).member.tends.rests hb hn).1
      exact .inl (h.tickets_subset hl hc hmem hb hnil)
    · exact .inr hw
  have hidle : ∀ c ∈ cs, c.member.worker.busy = false
      ∧ c.member.worker.hasNext g.now (!c.queue.isOpen) c.queue = false :=
    fun c hmem => (hrest c hmem).resolve_right (by simp [hfree c hmem])
  have hroom : ∀ c ∈ cs, 0 < c.queue.capacity := fun c hmem =>
    ((hf.crew _ hc).2.2 c hmem).capacity ▸ hcap
  have hroot := hable .root
  simp only [able, hc] at hroot
  have hb := h.distributor_idle hc hroom hidle hroot
  refine ⟨fun c hmem => (hidle c hmem).1, hb, ?_⟩
  simpa [distributorAble, hb] using hroot

/-- Nobody is left in a callback when nobody can do anything, the input is empty, and a pipeline
whose input is closed has stopped. -/
theorem Sound.quiet (h : p.Sound) (hst : p.status ≠ .collecting ∧ p.status ≠ .draining)
    (hl : p.Lossless) (hf : p.Fitted g.blueprint)
    (hcap : 0 < g.blueprint.settings.queueCapacity) (hd : g.destination.Ready)
    (hable : ∀ r, p.able g i r = false) :
    p.Quiet ∧ p.input.items = [] ∧ (p.input.isOpen = false → p.status = .stopped) := by
  have hroot : ∀ c, p.crew = some c → c.Quiet ∧ c.root.busy = false
      ∧ c.root.hasNext g.now (!p.input.isOpen) p.input = false := by
    intro c hc
    cases c with
    | alone m =>
      obtain ⟨-, hplain, hm⟩ := h.crew _ hc
      obtain ⟨o, ho⟩ := Option.ne_none_iff_exists'.1 (h.manned (by simp [hc]))
      obtain ⟨-, hitems⟩ := h.output_rests hd ho (hable .consumer)
      have hck := hable .root
      simp only [able, hc] at hck
      have hrest := (idle_or_waiting ho (hf.output o ho).capacity hitems hck).resolve_right ?_
      · exact ⟨hrest.1, hrest⟩
      · simp only [Processor.isWaiting, Processor.inTurn, hplain.run]
        split <;> simp
    | team w d cs =>
      obtain ⟨h1, h2, h3⟩ := h.team_quiet hl hf hcap hd hc hable
      exact ⟨⟨h2, h1⟩, h2, h3⟩
  have hquiet : p.Quiet :=
    ⟨fun c hc => (hroot c hc).1, fun o ho => (h.output_rests hd ho (hable .consumer)).1⟩
  refine ⟨hquiet, ?_, fun hi => ?_⟩
  · cases hs : p.status with
    | starting =>
      have hsup := hable .supervisor
      simp [able, supervisorAble, hs] at hsup
    | collecting => exact absurd hs hst.1
    | draining => exact absurd hs hst.2
    | running =>
      obtain ⟨c, hc⟩ := Option.ne_none_iff_exists'.1 (h.crewed hs)
      obtain ⟨-, hb, hn⟩ := hroot c hc
      exact ((h.crew c hc).tends.rests hb hn).1
    | stopping => exact (h.finished (.inl hs)).1
    | stopped => exact (h.finished (.inr hs)).1
  · refine (h.stopped_or_sending hst.1 hi hable).resolve_right ?_
    rintro ⟨r, t, hs⟩
    simp [hquiet.sending_eq_none h r] at hs

end Pipeline

end LogPipeline
