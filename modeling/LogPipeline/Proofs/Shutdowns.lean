import LogPipeline.Proofs.Effort
import LogPipeline.Proofs.Standstill

/-!
# What keeps a pipeline from stopping

A pipeline whose input is closed and in which nobody can do anything has stopped, or else a send is
under way (`Pipeline.Sound.stopped_or_sending`). A member that waits for its turn waits for a run
that someone else holds, and whoever holds the lowest run that has not completed does not wait
(`TeamSound.not_waiting`). So nobody waits for ever: all that is left is sends, which have
deadlines. Once the pipeline has stopped it rests for good (`Pipeline.Sound.able_of_stopped`).
-/

namespace LogPipeline

/-! ## Turns -/

section Turns

variable {s : Sequencer} {input : Queue Batch} {w : Worker} {d : Distributor} {cs : List Child}
  {n k : Nat} {c : Child}

/-- The run in hand is at most that of anything queued. -/
theorem Child.Sound.run_le (h : c.Sound s n k) {r : Nat} (hr : c.member.processor.run = some r)
    {b : OrderedBatch} (hb : b ∈ c.queue.items) : ∃ r', b.run = some r' ∧ r ≤ r' := by
  obtain ⟨r', hr'⟩ := Option.isSome_iff_exists.1 (h.runs b hb)
  have hsorted := h.sorted
  simp only [Child.tickets, Processor.tickets, hr, Option.toList_some, List.cons_append,
    List.nil_append] at hsorted
  refine ⟨r', hr', (List.pairwise_cons.1 hsorted).1 r' (List.mem_append_right _ ?_)⟩
  exact List.mem_filterMap.2 ⟨b, hb, hr'⟩

/-- The member with the lowest run that has not completed does not wait. -/
theorem Child.Sound.not_waiting (h : c.Sound s n k) (hv : s.Valid) {r : Nat}
    (hr : c.member.processor.run = some r) (hr' : r < s.issued) (hlow : ∀ q < r, s.Completed q) :
    c.member.processor.isWaiting s = false := by
  refine Bool.eq_false_iff.2 fun hw => ?_
  have hmem : r ∈ c.tickets := by simp [Child.tickets, Processor.tickets, hr]
  have hlt := (h.lt_of_waiting hw).2 r hmem
  have hopen := hv.next_mem (Nat.lt_of_lt_of_le hlt (Nat.le_of_lt hr'))
  exact (hlow s.next hlt).2 hopen

/-- A member that has stopped holds no ticket. -/
theorem Child.Sound.tickets_of_stopped (h : c.Sound s n k)
    (hp : c.member.worker.phase = .stopped) : c.tickets = [] := by
  obtain ⟨ha, hrun, -, -, hq⟩ := h.member.of_stopped hp
  simp [Child.tickets, Processor.tickets, hrun, ha, hq]

end Turns

/-! ## Nobody can do anything -/

/-- An idle worker whose input has ended has more to do, unless it has stopped. -/
theorem Worker.Tends.hasNext {α : Type} {w : Worker} {q : Queue α} (h : w.Tends q)
    (hb : w.busy = false) (now : Instant) : w.hasNext now true q = true ∨ w.phase = .stopped := by
  unfold Worker.hasNext
  cases hp : w.phase with
  | serving => simp
  | lastTick => simp
  | stopping => simp [h.busy hp] at hb
  | stopped => simp
  | failed message => exact absurd hp (h.sane message)

/-- A worker that has stopped has nothing more to do. -/
theorem Worker.Tends.of_stopped {α : Type} {w : Worker} {q : Queue α} (h : w.Tends q)
    (hs : w.phase = .stopped) (now : Instant) (ended : Bool) :
    w.busy = false ∧ w.hasNext now ended q = false := by
  refine ⟨h.idle hs, ?_⟩
  unfold Worker.hasNext
  rw [hs]

namespace Pipeline

variable {p : Pipeline} {g : Ground} {i : Nat} {r : Role} {t : Instant}

theorem memberAble_of_sending {α : Type} {ticketed : Bool} {q : Queue α} {m : Member} {o : Output}
    (ho : p.output = some o) (hm : m.Sound ticketed p.sequencer q) (hs : m.sending? = some t)
    {now : Instant} (ht : t ≤ now) : p.memberAble now q m = true := by
  unfold Member.sending? at hs
  split at hs
  · rename_i hsend
    obtain ⟨c, l, ha⟩ := Processor.isSending_iff.1 hsend
    have hb : m.worker.busy = true := by
      by_contra hb
      simp [hm.idle (by simpa using hb)] at ha
    obtain rfl := Option.some.inj hs
    simp [memberAble, hb, ho, Member.busyAble, ha, Queue.decides, ht]
  · simp at hs

/-- A send whose deadline has passed is decided. -/
theorem Sound.able_of_sending (h : p.Sound) (hs : p.sending? r = some t) (ht : t ≤ g.now) :
    p.able g i r = true := by
  cases r with
  | supervisor => simp [sending?] at hs
  | consumer =>
    obtain ⟨o, ho, hh⟩ := Option.bind_eq_some_iff.1 hs
    obtain ⟨⟨c, t'⟩, hheld, rfl⟩ := Option.map_eq_some_iff.1 hh
    simp only at ht
    simp [able, ho, Output.consumerAble, hheld, Destination.concerns, Destination.decides, ht]
  | root =>
    simp only [sending?] at hs
    split at hs
    · rename_i m hc
      obtain ⟨o, ho⟩ := Option.ne_none_iff_exists'.1 (h.manned (by simp [hc]))
      simp only [able, hc]
      exact memberAble_of_sending ho (h.crew _ hc).2.2 hs ht
    · rename_i w d cs hc
      have hcrew := h.crew _ hc
      unfold Distributor.sending? at hs
      split at hs
      · rename_i b l ha
        obtain rfl := Option.some.inj hs
        have hb : w.busy = true := by
          by_contra hb
          simp [TeamSound.idle hcrew (by simpa using hb)] at ha
        simp only [able, hc, distributorAble, hb, ha, ↓reduceIte]
        cases currentQueue d cs <;> simp [Queue.decides, ht]
      · simp at hs
    · simp at hs
  | child k =>
    simp only [sending?] at hs
    split at hs
    · rename_i w d cs hc
      obtain ⟨c, hk, hs⟩ := Option.bind_eq_some_iff.1 hs
      obtain ⟨o, ho⟩ := Option.ne_none_iff_exists'.1 (h.manned (by simp [hc]))
      simp only [able, hc, hk, Option.any_some]
      exact memberAble_of_sending ho (TeamSound.child (h.crew _ hc) k c hk).member hs ht
    · simp at hs

/-- A member that can do nothing has stopped, sends or waits, if nothing more comes to it. -/
theorem Sound.member_rests {α : Type} {ticketed : Bool} {q : Queue α} {m : Member} {o : Output}
    (ho : p.output = some o) (hm : m.Sound ticketed p.sequencer q) (hq : q.isOpen = false)
    (hable : p.memberAble g.now q m = false) (hs : m.sending? = none) :
    m.worker.phase = .stopped ∨ m.processor.isWaiting p.sequencer = true := by
  unfold memberAble at hable
  split at hable
  · refine .inr ?_
    rw [ho, Option.any_some] at hable
    unfold Member.busyAble at hable
    split at hable
    · rename_i ha
      simp [Member.sending?, Processor.isSending, ha] at hs
    · simpa using hable
  · rename_i hb
    rw [hq] at hable
    refine .inl ((hm.tends.hasNext (by simpa using hb) g.now).resolve_left ?_)
    simpa using hable

/-- A consumer that can do nothing has stopped or forwards, if nothing more comes to it. -/
theorem Sound.consumer_rests (h : p.Sound) {o : Output} (ho : p.output = some o)
    (hable : p.able g i .consumer = false) (hs : p.sending? .consumer = none)
    (hend : o.isEnded p.isSending = true) : o.consumer.phase = .stopped := by
  have hh : o.held = none := by simpa [sending?, ho] using hs
  simp only [able, ho, Option.any_some, Output.consumerAble, hh, Bool.or_eq_false_iff, hend]
    at hable
  exact ((h.output o ho).tends.hasNext hable.1 g.now).resolve_left (by simp [hable.2])

/-- In a team that can do nothing the members have stopped once they were let go. -/
theorem Sound.team_rests (h : p.Sound) {w : Worker} {d : Distributor} {cs : List Child}
    (hc : p.crew = some (.team w d cs)) (hi : p.input.isOpen = false)
    (hable : ∀ r, p.able g i r = false) (hs : ∀ r, p.sending? r = none) : w.phase = .stopped := by
  have hcrew : TeamSound p.sequencer p.input w d cs := h.crew _ hc
  obtain ⟨o, ho⟩ := Option.ne_none_iff_exists'.1 (h.manned (by simp [hc]))
  have hroot := hable .root
  have hsend := hs .root
  simp only [able, hc, distributorAble, hi, Bool.not_false] at hroot
  simp only [sending?, hc, Distributor.sending?] at hsend
  by_cases hb : w.busy = true
  · simp only [hb, ↓reduceIte] at hroot
    split at hroot
    · simp_all
    · -- the distributor waits for its members
      rename_i l ha
      have hdel := hcrew.delivers
      rw [ha] at hdel
      have hd : d.children = 0 := by simpa using hdel.1
      have hrest : ∀ c ∈ cs, c.member.worker.phase = .stopped
          ∨ c.member.processor.isWaiting p.sequencer = true := by
        intro c hmem
        obtain ⟨k, hk⟩ := List.getElem?_of_mem hmem
        have hck := hable (.child k)
        have hsk := hs (.child k)
        simp only [able, hc, hk, Option.any_some] at hck
        simp only [sending?, hc, hk, Option.bind_some] at hsk
        have hq : c.queue.isOpen = false := by simp [hcrew.queues c hmem, hd]
        exact member_rests ho (hcrew.child k c hk).member hq hck hsk
      have hfree := hcrew.not_waiting fun c hmem => (hrest c hmem).imp_left fun hp => by
        obtain ⟨k, hk⟩ := List.getElem?_of_mem hmem
        simp [(hcrew.child k c hk).tickets_of_stopped hp]
      have hstopped : cs.all (·.member.worker.isStopped) = true := by
        refine List.all_eq_true.2 fun c hmem => ?_
        simp [Worker.isStopped, (hrest c hmem).resolve_right (by simp [hfree c hmem])]
      simp [hstopped] at hroot
    · simp at hroot
  · have hb := Bool.eq_false_iff.2 hb
    simp only [hb, Bool.false_eq_true, ↓reduceIte] at hroot
    exact (hcrew.tends.hasNext hb g.now).resolve_left (by simp [hroot])

/-- No chunk is on its way to the output once the workers have stopped. -/
theorem Sound.isSending_of_stopped (h : p.Sound)
    (hcrew : ∀ c, p.crew = some c → c.root.phase = .stopped) : p.isSending = false := by
  have hidle : ∀ {α : Type} {ticketed : Bool} {q : Queue α} {m : Member},
      m.Sound ticketed p.sequencer q → m.worker.phase = .stopped →
      m.processor.isSending = false := by
    intro α ticketed q m hm hp
    simp [Processor.isSending, hm.idle (hm.tends.idle hp)]
  unfold isSending
  cases hc : p.crew with
  | none => rfl
  | some c =>
    have hp := hcrew c hc
    cases c with
    | alone m => simp [Crew.isSending, Crew.members, hidle (h.crew _ hc).2.2 hp]
    | team w d cs =>
      have hteam : TeamSound p.sequencer p.input w d cs := h.crew _ hc
      simp only [Option.any_some, Crew.isSending, Crew.members, List.any_map, List.any_eq_false]
      intro c hmem
      obtain ⟨k, hk⟩ := List.getElem?_of_mem hmem
      simp [hidle (hteam.child k c hk).member (hteam.stopped hp c hmem)]

/-- If the input is closed and nobody can do anything, the pipeline has stopped or something is
being sent. -/
theorem Sound.stopped_or_sending (h : p.Sound) (hst : p.status ≠ .collecting)
    (hi : p.input.isOpen = false) (hable : ∀ r, p.able g i r = false) :
    p.status = .stopped ∨ ∃ r t, p.sending? r = some t := by
  by_contra hno
  obtain ⟨hns, hno⟩ := not_or.1 hno
  have hs : ∀ r, p.sending? r = none := fun r =>
    Option.eq_none_iff_forall_ne_some.2 fun t ht => hno ⟨r, t, ht⟩
  have hsup := hable .supervisor
  simp only [able] at hsup
  unfold supervisorAble at hsup
  split at hsup
  · simp at hsup
  · exact absurd ‹_› hst
  · cases hq : p.input.items <;> simp [Queue.isFinished, hq, hi] at hsup
  · -- the workers are not done, although they can do nothing
    rename_i hrun
    obtain ⟨c, hc⟩ := Option.ne_none_iff_exists'.1 (h.crewed hrun)
    have hroot : c.root.phase ≠ .stopped := by
      intro hp
      simp [hc, Worker.isStopped, hp] at hsup
    cases c with
    | alone m =>
      obtain ⟨o, ho⟩ := Option.ne_none_iff_exists'.1 (h.manned (by simp [hc]))
      obtain ⟨-, hplain, hm⟩ := h.crew _ hc
      have hck := hable .root
      have hsk := hs .root
      simp only [able, hc] at hck
      simp only [sending?, hc] at hsk
      rcases member_rests ho hm hi hck hsk with hp | hw
      · exact hroot hp
      · simp [Processor.isWaiting, Processor.inTurn, hplain.run] at hw
        split at hw <;> simp at hw
    | team w d cs => exact hroot (h.team_rests hc hi hable hs)
  · -- the output is not drained, although its consumer can do nothing
    rename_i hstop
    cases ho : p.output with
    | none => simp [ho] at hsup
    | some o =>
      obtain ⟨-, -, hcrew, hopen⟩ := h.finished (.inl hstop)
      have hsending := h.isSending_of_stopped hcrew
      have hp := h.consumer_rests ho (hable .consumer) (hs .consumer)
        (by simp [Output.isEnded, hopen o ho, hsending])
      simp [ho, Output.isDrained, Worker.isStopped, hp] at hsup
  · exact hns ‹_›

/-- Nobody can do anything in a pipeline that has stopped. -/
theorem Sound.able_of_stopped (h : p.Sound) (hs : p.isStopped = true) (g : Ground) (i : Nat)
    (r : Role) : p.able g i r = false := by
  have hst : p.status = .stopped := by simpa [isStopped] using hs
  obtain ⟨-, -, hcrew, -⟩ := h.finished (.inr hst)
  cases r with
  | supervisor => simp [able, supervisorAble, hst]
  | consumer =>
    rcases ho : p.output with _ | o
    · simp [able, ho]
    · have hsound := h.output o ho
      obtain ⟨hb, hn⟩ := hsound.tends.of_stopped (h.drained hst o ho) g.now (o.isEnded p.isSending)
      simp [able, ho, Output.consumerAble, hsound.idle hb, hb, hn]
  | root =>
    rcases hc : p.crew with _ | m | ⟨w, d, cs⟩
    · simp [able, hc]
    · obtain ⟨hb, hn⟩ := (h.crew _ hc).2.2.tends.of_stopped (hcrew _ hc) g.now !p.input.isOpen
      simp [able, hc, memberAble, hb, hn]
    · have hteam : TeamSound p.sequencer p.input w d cs := h.crew _ hc
      obtain ⟨hb, hn⟩ := hteam.tends.of_stopped (hcrew _ hc) g.now !p.input.isOpen
      simp [able, hc, distributorAble, hb, hn]
  | child k =>
    rcases hc : p.crew with _ | m | ⟨w, d, cs⟩
    · simp [able, hc]
    · simp [able, hc]
    · have hteam : TeamSound p.sequencer p.input w d cs := h.crew _ hc
      rcases hk : cs[k]? with _ | c
      · simp [able, hc, hk]
      · have hstop := hteam.stopped (hcrew _ hc) c (List.mem_of_getElem? hk)
        obtain ⟨hb, hn⟩ := (hteam.child k c hk).member.tends.of_stopped hstop g.now !c.queue.isOpen
        simp [able, hc, hk, memberAble, hb, hn]

end Pipeline

end LogPipeline
