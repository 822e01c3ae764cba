import LogPipeline.Proofs.Lifetimes

/-!
# Records inside a pipeline

A record in a pipeline waits in a queue, is on its way to one, or is yet to be processed; `load`
counts them. A step moves records or lets some of them leave, and as many as leave are counted and
given back (`Pipeline.Sound.load_step`). Nothing is left in a pipeline that has stopped.
-/

namespace LogPipeline

/-! ## The books -/

/-- `n` records leave: they are counted on one way out or another, and given back. -/
structure Books.Leave (n : Nat) (b b' : Books) : Prop where
  entered : b'.counters.recordsIn = b.counters.recordsIn
  counted : b'.counters.recordsAccounted = b.counters.recordsAccounted + n
  returned : b'.pool.returns + b'.pool.drops = b.pool.returns + b.pool.drops + n

theorem RecordPool.releaseAll_returns_drops (l : Batch) (p : RecordPool) :
    (p.releaseAll l).returns + (p.releaseAll l).drops = p.returns + p.drops + l.length := by
  induction l generalizing p with
  | nil => rfl
  | cons r l ih =>
    have h := p.release_returns_drops r
    rw [releaseAll_cons, ih, h, List.length_cons]
    omega

namespace Books

theorem Leave.refl (b : Books) : Leave 0 b b := ⟨rfl, rfl, rfl⟩

theorem leave_count {f : Counters → Counters} (b : Books)
    (h : (f b.counters).recordsIn = b.counters.recordsIn
      ∧ (f b.counters).recordsAccounted = b.counters.recordsAccounted) :
    Leave 0 b (b.count f) := ⟨h.1, h.2, rfl⟩

theorem leave_lose (l : Batch) (b : Books) : Leave l.length b (b.lose l) := by
  refine ⟨rfl, ?_, b.pool.releaseAll_returns_drops l⟩
  simp only [lose, Counters.lost, Counters.recordsAccounted]
  omega

theorem leave_loseSend (timedOut : Bool) (l : Batch) (b : Books) :
    Leave l.length b (b.loseSend timedOut l) := by
  cases timedOut with
  | false => exact b.leave_lose l
  | true => exact ⟨rfl, ((b.count Counters.timedOut).leave_lose l).counted,
      ((b.count Counters.timedOut).leave_lose l).returned⟩

theorem leave_loseChunk (timedOut : Bool) (b : Books) : Leave 0 b (b.loseChunk timedOut) := by
  cases timedOut <;> exact ⟨rfl, rfl, rfl⟩

theorem leave_release {f : Counters → Counters} (b : Books) (r : Record)
    (h : (f b.counters).recordsIn = b.counters.recordsIn
      ∧ (f b.counters).recordsAccounted = b.counters.recordsAccounted + 1) :
    Leave 1 b { b with pool := b.pool.release r, counters := f b.counters } :=
  ⟨h.1, h.2, b.pool.release_returns_drops r⟩

end Books

/-! ## Processors -/

/-- A record whose processing is done has left. -/
theorem Processor.Turnover.leave {p p' : Processor} {b b' : Books} (h : p.Turnover b p' b') :
    ∃ n, Books.Leave n b b' ∧ p.todo.length = p'.todo.length + n := by
  cases h with
  | kept _ _ ht hb _ => exact ⟨0, hb ▸ .refl b, by rw [ht]; rfl⟩
  | @filtered r r' _ _ ht _ hb _ =>
    refine ⟨1, hb ▸ b.leave_release r' ⟨rfl, ?_⟩, by rw [ht]; rfl⟩
    simp only [Counters.filtered, Counters.recordsAccounted]
    omega
  | @unwritten r r' _ _ ht _ _ hb _ =>
    refine ⟨1, hb ▸ b.leave_release r' ⟨rfl, ?_⟩, by rw [ht]; rfl⟩
    simp only [Counters.lost, Counters.recordsAccounted]
    omega
  | @written r r' line l _ _ _ ht _ _ _ hb _ =>
    refine ⟨1, hb ▸ b.leave_release r' ⟨rfl, ?_⟩, by rw [ht]; rfl⟩
    simp only [Counters.serialized, Counters.recordsAccounted]
    omega
  | flushed _ _ ht _ hb _ => exact ⟨0, hb ▸ .refl b, by rw [ht]; rfl⟩

/-- What a member has yet to process and no longer has, has left. -/
theorem Member.leave_acts {now : Instant} {x x' : Place} (hn : Neat x.member.processor.agenda)
    (hx : Acts now x x') :
    ∃ n, Books.Leave n x.books x'.books
      ∧ x.member.processor.todo.length = x'.member.processor.todo.length + n := by
  cases hx with
  | finish ha => exact ⟨0, .refl _, rfl⟩
  | crash ha => exact ⟨0, .refl _, rfl⟩
  | ask ha ho => exact ⟨0, .refl _, by rw [(Processor.holds_asking ha).2.1]; rfl⟩
  | refuse ha =>
    exact ⟨0, x.books.leave_count ⟨rfl, rfl⟩,
      by rw [(Processor.holds_handedOver hn (.inl ha)).2.1]; rfl⟩
  | give ha hr =>
    exact ⟨0, x.books.leave_count ⟨rfl, rfl⟩,
      by rw [(Processor.holds_handedOver hn (.inr ha)).2.1]; rfl⟩
  | giveUp ha =>
    exact ⟨0, x.books.leave_loseChunk _,
      by rw [(Processor.holds_handedOver hn (.inr ha)).2.1]; rfl⟩
  | task hs => exact (Processor.turnover_of_step hn hs).leave

/-- An idle member that begins a callback has the records of its batch to process. -/
theorem Member.Sound.load_begin {α : Type} {ticketed : Bool} {s : Sequencer} {q : Queue α}
    {m : Member} {now : Instant} {w : Worker} {cb : Callback OrderedBatch}
    (h : m.Sound ticketed s q) (hb : m.worker.busy = false) :
    (m.begin now cb w).processor.todo.length
      = match cb with
        | .input b _ => b.records.length
        | _ => 0 := by
  have ha := h.idle hb
  have htodo : m.processor.todo = [] := by simp [Processor.todo, ha]
  cases cb with
  | input b deadline => simp only [Member.begin, (Processor.holds_receive b _ ha).2.1]
  | tick => simp only [Member.begin, (Processor.holds_tick _ ha).2.1, htodo, List.length_nil]
  | stop => simp only [Member.begin, (h.sound.holds_stop _ ha).1, htodo, List.length_nil]

/-! ## Pipelines -/

/-- The records that are to be sent to a member. -/
def Delivery.load : Delivery → Nat
  | offer b => b.records.length
  | _ => 0

/-- The records of a member and of its queue. -/
def Child.load (c : Child) : Nat :=
  total (fun b => b.records.length) c.queue.items + c.member.processor.todo.length

/-- The records in the hands of the workers. -/
def Crew.load : Crew → Nat
  | alone m => m.processor.todo.length
  | team _ d cs => total Delivery.load d.agenda + total Child.load cs

/-- The records inside a pipeline. -/
def Pipeline.load (p : Pipeline) : Nat :=
  total List.length p.input.items + (p.crew.map Crew.load).getD 0

namespace Distributor

variable {d : Distributor} {s : Sequencer} {now deadline : Instant}

theorem load_receive (b : Batch) :
    total Delivery.load (d.receive now deadline b s).1.agenda = b.length := by
  unfold receive
  split
  · simp_all
  · dsimp only
    split <;> simp [Delivery.load]

theorem load_closing : total Delivery.load d.closing = 0 := by
  unfold closing
  split <;> rfl

theorem load_tick : total Delivery.load (d.tick now).agenda = 0 := by
  unfold tick
  dsimp only
  split
  · exact load_closing
  · rfl

theorem load_stop : total Delivery.load (d.stop now).agenda = 0 := by
  simp only [stop, total_append, load_closing]
  rfl

end Distributor

namespace TeamSound

variable {s : Sequencer} {input : Queue Batch} {w : Worker} {d : Distributor} {cs : List Child}
  {k : Nat} {c : Child} {now : Instant}

/-- A member that has stopped has nothing left, and nothing is queued for it. -/
theorem load_child (h : TeamSound s input w d cs) (hc : c ∈ cs)
    (hp : c.member.worker.phase = .stopped) : c.load = 0 := by
  obtain ⟨k, hk⟩ := List.getElem?_of_mem hc
  have hm := (h.child k c hk).member
  have ha := hm.idle (hm.tends.idle hp)
  have hq := (hm.tends.emptied (by simp [hp])).2
  simp [Child.load, hq, Processor.todo, ha]

theorem load_stopped (h : TeamSound s input w d cs) (hp : w.phase = .stopped) :
    (Crew.team w d cs).load = 0 := by
  have ha := h.idle (h.tends.idle hp)
  simp only [Crew.load, ha, total_nil, Nat.zero_add]
  exact total_eq_zero fun c hc => h.load_child hc (h.stopped hp c hc)

theorem load_childActs (h : TeamSound s input w d cs) (hk : cs[k]? = some c)
    (hb : c.member.worker.busy = true) {o : Output} {books : Books} {x : Member.Place}
    (hx : Member.Acts now ⟨c.member, s, o, books⟩ x) :
    ∃ n, Books.Leave n books x.books
      ∧ total Child.load cs
        = total Child.load (cs.set k ⟨x.member.worker.leave c.queue, x.member⟩) + n := by
  have hm := (h.child k c hk).member
  obtain ⟨n, hleave, hn⟩ := Member.leave_acts hm.sound.neat hx
  have hitems := Member.Sound.items_leave (x := ⟨c.member, s, o, books⟩) hm hb hm.sound.no_crash hx
  refine ⟨n, hleave, ?_⟩
  have htotal := total_set Child.load hk ⟨x.member.worker.leave c.queue, x.member⟩
  simp only [Child.load, hitems] at htotal
  dsimp only at hn
  omega

/-- What a member takes from its queue it has to process. -/
theorem load_childCall (h : TeamSound s input w d cs) (hk : cs[k]? = some c)
    (hb : c.member.worker.busy = false) {ended : Bool} {cb : Callback OrderedBatch} {w' : Worker}
    {q : Queue OrderedBatch} (hc : c.member.worker.Calls now ended c.queue cb w' q) :
    total Child.load (cs.set k ⟨q, c.member.begin now cb w'⟩) = total Child.load cs := by
  have hm := (h.child k c hk).member
  have htodo : c.member.processor.todo = [] := by simp [Processor.todo, hm.idle hb]
  have htotal := total_set Child.load hk ⟨q, c.member.begin now cb w'⟩
  simp only [Child.load, hm.load_begin hb, htodo, List.length_nil] at htotal
  cases hc with
  | input hp hq =>
    simp only [hq, total_cons] at htotal
    omega
  | tick hp => exact Nat.add_right_cancel htotal
  | lastTick hp => exact Nat.add_right_cancel htotal
  | stop hp => exact Nat.add_right_cancel htotal

end TeamSound

namespace Pipeline

variable {i : Nat} {role : Role} {p p' : Pipeline} {g g' : Ground}

theorem load_alone {m : Member} (hc : p.crew = some (.alone m)) :
    p.load = total List.length p.input.items + m.processor.todo.length := by
  simp [load, hc, Crew.load]

theorem load_team {w : Worker} {d : Distributor} {cs : List Child}
    (hc : p.crew = some (.team w d cs)) :
    p.load = total List.length p.input.items
      + (total Delivery.load d.agenda + total Child.load cs) := by
  simp [load, hc, Crew.load]

/-- Nothing is left in a pipeline that winds down or has stopped. -/
theorem Sound.load_finished (h : p.Sound) (hs : p.status = .stopping ∨ p.status = .stopped) :
    p.load = 0 := by
  obtain ⟨hi, -, hroot, -⟩ := h.finished hs
  rcases hc : p.crew with _ | (m | ⟨w, d, cs⟩)
  · simp [load, hi, hc]
  · obtain ⟨-, -, hm⟩ := h.crew _ hc
    have ha := hm.idle (hm.tends.idle (hroot _ hc))
    simp [load_alone hc, hi, Processor.todo, ha]
  · have := TeamSound.load_stopped (h.crew _ hc) (hroot _ hc)
    simpa [load_team hc, hi, Crew.load] using this

theorem Sound.items_leave (h : p.Sound) {w : Worker} {d : Distributor} {cs : List Child}
    (hc : p.crew = some (.team w d cs)) : (w.finish.leave p.input).items = p.input.items := by
  have htends : w.Tends p.input := TeamSound.tends (h.crew _ hc)
  simp only [Worker.leave]
  split
  · rename_i hs
    have hp : w.phase ≠ .serving := by
      intro hp
      simp [Worker.isStopped, Worker.finish, hp] at hs
    simp [Queue.abandon, (htends.emptied hp).2]
  · rfl

/-- As many records as are no longer inside after a step have left. -/
theorem Sound.load_step (h : p.Sound) (hst : p.status ≠ .collecting) (hs : Step i p g role p' g') :
    ∃ n, Books.Leave n g.books g'.books ∧ p.load = p'.load + n := by
  cases hs with
  | collect hs hb => exact ⟨0, .refl _, rfl⟩
  | noOutput hs => exact ⟨0, .refl _, rfl⟩
  | noStages hs ho => exact ⟨0, .refl _, rfl⟩
  | @launch o capacity stages hs ho hstages =>
    refine ⟨0, .refl _, ?_⟩
    have hcrew : (Crew.start g.blueprint stages p.tag g.now).load = 0 := by
      unfold Crew.start
      split
      · rfl
      · simp only [Crew.load, total_nil, total_map, Nat.zero_add]
        exact total_eq_zero fun k hk => rfl
    simp [load, h.crewless (.inl hs), hcrew]
  | report hs hq => exact absurd hs hst
  | reported hs hq => exact absurd hs hst
  | @drain b rest hs hq =>
    refine ⟨b.length, g.books.leave_lose b, ?_⟩
    simp only [load, hq, total_cons]
    omega
  | drained hs hq => exact ⟨0, .refl _, by unfold Pipeline.windDown load; split <;> rfl⟩
  | crewGone hs hc => exact ⟨0, .refl _, by unfold Pipeline.windDown load; split <;> rfl⟩
  | outputGone hs ho => exact ⟨0, .refl _, rfl⟩
  | deliver ho hh => exact ⟨0, .refl _, rfl⟩
  | giveUp ho hh => exact ⟨0, g.books.leave_loseChunk _, rfl⟩
  | claim => exact ⟨0, .refl _, rfl⟩
  | consumed ho hh hb => exact ⟨0, .refl _, rfl⟩
  | consume ho hh hb hc => exact ⟨0, .refl _, rfl⟩
  | consumerCall ho hh hb hc hcb => exact ⟨0, .refl _, rfl⟩
  | @member m o x hc ho hb hx =>
    have hcrew := h.crew _ hc
    obtain ⟨n, hleave, hn⟩ := Member.leave_acts hcrew.2.2.sound.neat hx
    refine ⟨n, hleave, ?_⟩
    rw [load_alone hc, load_alone rfl, (hcrew.acts hb hx).2]
    dsimp only at hn
    omega
  | @memberCall m cb w q hc hb hcb =>
    refine ⟨0, .refl _, ?_⟩
    have hm := (h.crew _ hc).2.2
    have htodo : m.processor.todo = [] := by simp [Processor.todo, hm.idle hb]
    rw [load_alone hc, load_alone rfl, hm.load_begin hb, htodo]
    cases hcb with
    | input hp hq =>
      simp only [hq, total_cons, Callback.unordered, OrderedBatch.unordered, List.length_nil]
      omega
    | tick hp => rfl
    | lastTick hp => rfl
    | stop hp => rfl
  | distributed hc hb ha =>
    refine ⟨0, .refl _, ?_⟩
    rw [load_team hc, load_team rfl]
    simp only [h.items_leave hc]
    rfl
  | @sent w d cs b l c hc hb ha hd hq hr hroom =>
    refine ⟨0, .refl _, ?_⟩
    rw [load_team hc, load_team rfl]
    have htotal := total_set Child.load hq { c with queue := c.queue.push b }
    simp only [Child.load, Queue.push_items, total_append, total_cons, total_nil] at htotal
    simp only [Distributor.next, withTeam, ha, List.drop_one, List.tail_cons, total_cons,
      Delivery.load]
    omega
  | @unsent w d cs b l timedOut hc hb ha =>
    refine ⟨b.records.length, g.books.leave_loseSend _ _, ?_⟩
    rw [load_team hc, load_team rfl]
    simp only [Distributor.next, withTeam, ha, List.drop_one, List.tail_cons, total_cons,
      Delivery.load]
    omega
  | rotate hc hb ha =>
    refine ⟨0, .refl _, ?_⟩
    rw [load_team hc, load_team rfl]
    simp [Distributor.rotate, Distributor.next, withTeam, ha, Delivery.load]
  | letGo hc hb ha =>
    refine ⟨0, .refl _, ?_⟩
    rw [load_team hc, load_team rfl]
    simp only [Distributor.letGo, Distributor.next, withTeam, ha, List.drop_one, List.tail_cons,
      total_cons, Delivery.load, total_map, Nat.zero_add]
    rfl
  | awaited hc hb ha hs =>
    refine ⟨0, .refl _, ?_⟩
    rw [load_team hc, load_team rfl]
    simp [Distributor.next, withTeam, ha, Delivery.load]
  | receive hc hb hcb =>
    refine ⟨0, .refl _, ?_⟩
    have ha := TeamSound.idle (h.crew _ hc) hb
    rw [load_team hc, load_team rfl, ha, Distributor.load_receive]
    cases hcb with
    | input hp hq =>
      simp only [hq, total_cons, total_nil]
      omega
  | tick hc hb hcb =>
    refine ⟨0, .refl _, ?_⟩
    have ha := TeamSound.idle (h.crew _ hc) hb
    rw [load_team hc, load_team rfl, ha, Distributor.load_tick]
    cases hcb <;> rfl
  | stop hc hb hcb =>
    refine ⟨0, .refl _, ?_⟩
    have ha := TeamSound.idle (h.crew _ hc) hb
    rw [load_team hc, load_team rfl, ha, Distributor.load_stop]
    cases hcb
    rfl
  | child hc hk ho hb hx =>
    obtain ⟨n, hleave, hn⟩ := TeamSound.load_childActs (h.crew _ hc) hk hb hx
    refine ⟨n, hleave, ?_⟩
    rw [load_team hc, load_team rfl, hn]
    simp only [withTeam]
    omega
  | childCall hc hk hb hcb =>
    refine ⟨0, .refl _, ?_⟩
    rw [load_team hc, load_team rfl, TeamSound.load_childCall (h.crew _ hc) hk hb hcb]
    rfl
  | rest => exact ⟨0, .refl _, rfl⟩

/-! ## What a step leaves as it is -/

theorem blueprint_step (hs : Step i p g role p' g') : g'.blueprint = g.blueprint := by
  cases hs <;> rfl

theorem now_step (hs : Step i p g role p' g') : g'.now = g.now := by
  cases hs <;> rfl

/-- Nobody inside a pipeline opens or closes its input. -/
theorem isOpen_step (hs : Step i p g role p' g') : p'.input.isOpen = p.input.isOpen := by
  cases hs with
  | drained | crewGone =>
    unfold windDown
    split <;> rfl
  | member | distributed => exact Worker.isOpen_leave _ _
  | memberCall hc hb hcb => exact hcb.isOpen
  | receive hc hb hcb | tick hc hb hcb | stop hc hb hcb => exact hcb.isOpen
  | _ => rfl

theorem status_step (hst : p.status ≠ .collecting) (hb : g.blueprint.collects = false)
    (hs : Step i p g role p' g') : p'.status ≠ .collecting := by
  cases hs with
  | collect hs hc => simp [hb] at hc
  | noOutput hs => simp
  | noStages hs ho => simp
  | launch hs ho hstages => simp
  | reported hs hq => simp
  | drained hs hq => unfold windDown; split <;> simp
  | crewGone hs hc => unfold windDown; split <;> simp
  | outputGone hs ho => simp
  | _ => exact hst

theorem isStopped_step (hp : p.isStopped = true) (hs : Step i p g role p' g') :
    p'.isStopped = true := by
  have hst : p.status = .stopped := by simpa [isStopped] using hp
  cases hs with
  | collect hs hc => simp [hst] at hs
  | noOutput hs => simp [hst] at hs
  | noStages hs ho => simp [hst] at hs
  | launch hs ho hstages => simp [hst] at hs
  | reported hs hq => simp [hst] at hs
  | drained hs hq => simp [hst] at hs
  | crewGone hs hc => simp [hst] at hs
  | outputGone hs ho => simp [hst] at hs
  | _ => exact hp

end Pipeline

end LogPipeline
