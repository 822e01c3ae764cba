import LogPipeline.Proofs.Clocks
import LogPipeline.Proofs.Rotations
import LogPipeline.Rig.Fan

/-!
# How long runs stay open

A distributor among workers of which nothing is assumed, with a note of the time at which each run
was opened. The run that is open knows its time (`Roster.Dated`), so a tick ends it once it has been
open for the flush interval (`Roster.closed_of_tick`). A callback sends at most one batch, and under
a clock it returns by its deadline (`Roster.returns`).
-/

namespace LogPipeline

open Relation

/-! ## Steps of a callback -/

/-- What a callback has to do, short of the end, in which workers are waited for. -/
def Delivery.IsBrief : Delivery → Prop
  | .offer _ | .rotate => True
  | .closeChildren | .awaitChildren => False

namespace Fan

variable {x : Fan}

/-- What a step of a callback leaves alone. -/
structure GoesOn (x y : Fan) : Prop where
  openRun : y.distributor.openRun = x.distributor.openRun
  limits : y.distributor.limits = x.distributor.limits
  deadline : y.distributor.deadline = x.distributor.deadline
  agenda : ∀ t ∈ y.distributor.agenda, t ∈ x.distributor.agenda
  issued : y.sequencer.issued = x.sequencer.issued
  now : y.now = x.now

theorem GoesOn.refl (x : Fan) : x.GoesOn x := ⟨rfl, rfl, rfl, fun _ => id, rfl, rfl⟩

/-- A step that has done the first item of the agenda. -/
theorem goesOn_next {y : Fan} {d : Distributor} (hd : y.distributor = d.next)
    (ho : d.openRun = x.distributor.openRun) (hl : d.limits = x.distributor.limits)
    (ht : d.deadline = x.distributor.deadline) (ha : d.agenda = x.distributor.agenda)
    (hs : y.sequencer.issued = x.sequencer.issued) (hn : y.now = x.now) : x.GoesOn y := by
  refine ⟨?_, ?_, ?_, fun t hmem => ?_, hs, hn⟩
  · rw [hd]
    exact ho
  · rw [hd]
    exact hl
  · rw [hd]
    exact ht
  · rw [hd] at hmem
    exact ha ▸ List.mem_of_mem_drop hmem

theorem goesOn_callAct (x : Fan) : x.GoesOn x.callAct := by
  unfold callAct
  dsimp only
  split
  · exact ⟨rfl, rfl, rfl, fun _ => id, rfl, rfl⟩
  · split
    · exact .refl x
    · rename_i y hy
      exact goesOn_next (Distributor.next_of_offer hy) rfl rfl rfl rfl
        (Distributor.issued_of_offer hy) rfl
  · exact goesOn_next (d := { x.distributor with current := _ }) rfl rfl rfl rfl rfl rfl rfl
  · exact goesOn_next (d := { x.distributor with children := 0 }) rfl rfl rfl rfl rfl rfl rfl
  · split
    · exact goesOn_next rfl rfl rfl rfl rfl rfl rfl
    · exact .refl x

/-- What the callback under way has left to do. -/
def chores (x : Fan) : Nat := x.distributor.agenda.length + if x.calling then 1 else 0

theorem chores_callAct (ha : x.callAble = true) : x.callAct.chores < x.chores := by
  obtain ⟨hcalling, hable⟩ := Bool.and_eq_true_iff.1 ha
  have hnext : ∀ (y : Fan) (t : Delivery) (l : List Delivery), x.distributor.agenda = t :: l →
      y.distributor.agenda = l → y.calling = x.calling → y.chores < x.chores := by
    intro y t l hx hy hc
    simp only [chores, hx, hy, hc, List.length_cons]
    omega
  rcases hl : x.distributor.agenda with _ | ⟨t, l⟩
  · simp [chores, callAct, hl, hcalling]
  · cases t with
    | offer b =>
      simp only [hl] at hable
      have hy : ∃ y, x.distributor.offer x.now x.currentQueue b x.sequencer x.books = some y := by
        cases hq : x.currentQueue with
        | none => exact ⟨_, rfl⟩
        | some q =>
          rw [hq, Option.all_some] at hable
          unfold Distributor.offer
          dsimp only
          split
          · exact ⟨_, rfl⟩
          · exact ⟨_, rfl⟩
          · rename_i hblocked
            simp [Queue.trySend_eq_blocked_iff.1 hblocked] at hable
      obtain ⟨y, hy⟩ := hy
      refine hnext _ _ l hl ?_ ?_
      · simp only [callAct, hl, hy, Distributor.next_of_offer hy, Distributor.next, List.drop_one,
          List.tail_cons]
      · simp only [callAct, hl, hy]
    | rotate =>
      refine hnext _ _ l hl ?_ ?_
      · simp [callAct, hl, Distributor.rotate, Distributor.next]
      · simp [callAct, hl]
    | closeChildren =>
      refine hnext _ _ l hl ?_ ?_
      · simp [callAct, hl, Distributor.letGo, Distributor.next]
      · simp [callAct, hl]
    | awaitChildren =>
      simp only [hl] at hable
      refine hnext _ _ l hl ?_ ?_
      · simp [callAct, hl, hable, Distributor.next]
      · simp [callAct, hl, hable]

/-- A callback that has a batch to send and cannot go on waits for room, and not past its
deadline. -/
theorem lt_of_unable (hc : x.calling = true) (hb : ∀ t ∈ x.distributor.agenda, t.IsBrief)
    (ha : x.callAble = false) : x.now < x.distributor.deadline := by
  simp only [callAble, hc, Bool.true_and] at ha
  split at ha
  · rw [Option.all_eq_false] at ha
    obtain ⟨q, -, hq⟩ := ha
    refine Nat.lt_of_not_le fun hle => ?_
    simp [Queue.decides, hle] at hq
  · rename_i hl
    exact (hb .awaitChildren (hl ▸ List.mem_cons_self)).elim
  · simp at ha

end Fan

/-- What a batch makes of a distributor: its run goes on, or is a new one that was opened now. -/
structure Distributor.Receives (now deadline : Instant) (d : Distributor) (s : Sequencer)
    (r : Distributor × Sequencer) : Prop where
  limits : r.1.limits = d.limits
  deadline : r.1.deadline = deadline
  agenda : ∀ t ∈ r.1.agenda, t.IsBrief
  issued : s.issued ≤ r.2.issued
  openRun : ∀ o, r.1.openRun = some o →
    (∃ o', d.openRun = some o' ∧ o.run = o'.run ∧ o.opened = o'.opened)
      ∨ (s.issued ≤ o.run ∧ o.run < r.2.issued) ∧ o.opened = now

theorem Distributor.receives (now deadline : Instant) (b : Batch) (d : Distributor)
    (s : Sequencer) : Receives now deadline d s (d.receive now deadline b s) := by
  have hrun : s.issued ≤ (d.runFor now s).2.issued
      ∧ ((∃ o', d.openRun = some o' ∧ (d.runFor now s).1 = o')
        ∨ (s.issued ≤ (d.runFor now s).1.run ∧ (d.runFor now s).1.run < (d.runFor now s).2.issued)
          ∧ (d.runFor now s).1.opened = now) := by
    unfold runFor
    cases d.openRun with
    | some o => exact ⟨Nat.le_refl _, .inl ⟨o, rfl, rfl⟩⟩
    | none => exact ⟨Nat.le_succ _, .inr ⟨⟨Nat.le_refl _, Nat.lt_succ_self _⟩, rfl⟩⟩
  unfold receive
  split
  · exact ⟨rfl, rfl, List.forall_mem_nil _, Nat.le_refl _, fun o ho => .inl ⟨o, ho, rfl, rfl⟩⟩
  · dsimp only
    split
    · exact ⟨rfl, rfl, by simp [Delivery.IsBrief], hrun.1, nofun⟩
    · refine ⟨rfl, rfl, by simp [Delivery.IsBrief], hrun.1, fun o ho => ?_⟩
      obtain rfl := Option.some.inj ho
      rcases hrun.2 with ⟨o', ho', heq⟩ | hnew
      · exact .inl ⟨o', ho', by rw [← heq], by rw [← heq]⟩
      · exact .inr hnew

theorem Distributor.isBrief_closing (d : Distributor) : ∀ t ∈ d.closing, t.IsBrief := by
  unfold closing
  split <;> simp [Delivery.IsBrief]

/-! ## Rosters -/

/-- A distributor among workers. Noted is when each run was opened. -/
structure Roster where
  fan : Fan
  opened : List (Nat × Instant) := []

namespace Roster

variable {x y : Roster} {deadline : Instant}

def now (x : Roster) : Instant := x.fan.now

/-- A callback has not returned. -/
def IsBusy (x : Roster) : Prop := x.fan.calling = true

instance (x : Roster) : Decidable x.IsBusy := inferInstanceAs (Decidable (_ = _))

/-- A batch is handed to the distributor. The run numbers that are given out are those of the runs
that it opens. -/
def receive (b : Batch) (deadline : Instant) (x : Roster) : Roster :=
  let r := x.fan.distributor.receive x.now deadline b x.fan.sequencer
  { fan := { x.fan with distributor := r.1, sequencer := r.2, calling := true }
    opened := x.opened ++ (List.range' x.fan.sequencer.issued
      (r.2.issued - x.fan.sequencer.issued)).map (·, x.now) }

def tick (x : Roster) : Roster := { x with fan := x.fan.tick }

/-- Callbacks of the distributor that end without the workers, with the time by which they do. -/
inductive Call (x : Roster) : Instant → Roster → Prop where
  | receive (b : Batch) (deadline : Instant) : Call x deadline (x.receive b deadline)
  | tick : Call x (x.now + x.fan.distributor.sendTimeout) x.tick

/-- What may happen: a callback begins once the one before has returned, or goes on; the workers do
anything to their queues and to the tickets they hold; time passes. -/
inductive Move (x : Roster) : Roster → Prop where
  | call {deadline : Instant} {y : Roster} (hc : Call x deadline y) (hi : ¬x.IsBusy) : Move x y
  | stop (hi : ¬x.IsBusy) : Move x { x with fan := x.fan.stop }
  | goOn : Move x { x with fan := x.fan.callAct }
  | others (children : List GatedChild) (sequencer : Sequencer) (books : Books)
    (seen : List (Nat × Sighting)) (hs : sequencer.issued = x.fan.sequencer.issued) :
    Move x { x with fan := { x.fan with children, sequencer, books, seen } }
  | pass (t : Instant) (ht : x.now ≤ t) : Move x { x with fan := { x.fan with now := t } }

/-- What happens until the callback under way returns. -/
def Wait (x y : Roster) : Prop := x.IsBusy ∧ Move x y

/-- A new distributor over `n` workers. -/
def start (limits : RunLimits) (sendTimeout n : Nat) (children : List GatedChild) (now : Instant) :
    Roster :=
  { fan := { distributor := { limits, sendTimeout, children := n }, children, now } }

/-! ### Notes -/

/-- Every run was opened once, and the open run knows when. -/
structure Dated (limits : RunLimits) (x : Roster) : Prop where
  fixed : x.fan.distributor.limits = limits
  issued : ∀ e ∈ x.opened, e.1 < x.fan.sequencer.issued
  once : (x.opened.map Prod.fst).Nodup
  current : ∀ o, x.fan.distributor.openRun = some o → (o.run, o.opened) ∈ x.opened

variable {limits : RunLimits}

/-- Of runs with one number there is one opening. -/
theorem Dated.unique (h : x.Dated limits) {n : Nat} {s t : Instant} (hs : (n, s) ∈ x.opened)
    (ht : (n, t) ∈ x.opened) : s = t :=
  congrArg Prod.snd (List.inj_on_of_nodup_map h.once hs ht rfl)

/-- The note stays right if no run is opened and none is taken up again. -/
theorem Dated.keep (h : x.Dated limits) {fan : Fan} (hl : fan.distributor.limits = limits)
    (hi : fan.sequencer.issued = x.fan.sequencer.issued)
    (ho : ∀ o, fan.distributor.openRun = some o → x.fan.distributor.openRun = some o) :
    Dated limits { x with fan } :=
  ⟨hl, fun e he => hi ▸ h.issued e he, h.once, fun o hopen => h.current o (ho o hopen)⟩

theorem Dated.receive (h : x.Dated limits) (b : Batch) (deadline : Instant) :
    (x.receive b deadline).Dated limits := by
  obtain ⟨hl, -, -, hissued, hopen⟩ :=
    x.fan.distributor.receives x.now deadline b x.fan.sequencer
  have hnew : ∀ n, n ∈ List.range' x.fan.sequencer.issued
      ((x.fan.distributor.receive x.now deadline b x.fan.sequencer).2.issued
        - x.fan.sequencer.issued) ↔ x.fan.sequencer.issued ≤ n
      ∧ n < (x.fan.distributor.receive x.now deadline b x.fan.sequencer).2.issued := fun n => by
    rw [List.mem_range'_1]
    omega
  refine ⟨hl.trans h.fixed, fun e he => ?_, ?_, fun o ho => ?_⟩
  · rcases List.mem_append.1 he with he | he
    · exact Nat.lt_of_lt_of_le (h.issued e he) hissued
    · obtain ⟨n, hn, rfl⟩ := List.mem_map.1 he
      exact ((hnew n).1 hn).2
  · show ((x.opened ++ List.map (·, x.now) _).map Prod.fst).Nodup
    rw [List.map_append, List.map_map]
    refine List.nodup_append.2 ⟨h.once, ?_, fun n hn m hm => ?_⟩
    · simpa [Function.comp_def] using List.nodup_range'
    · obtain ⟨e, he, rfl⟩ := List.mem_map.1 hn
      obtain ⟨k, hk, rfl⟩ := List.mem_map.1 hm
      exact Nat.ne_of_lt (Nat.lt_of_lt_of_le (h.issued e he) ((hnew k).1 hk).1)
  · rcases hopen o ho with ⟨o', ho', hrun, hopened⟩ | ⟨hrun, hopened⟩
    · rw [hrun, hopened]
      exact List.mem_append_left _ (h.current o' ho')
    · rw [hopened]
      exact List.mem_append_right _ (List.mem_map.2 ⟨o.run, (hnew o.run).2 hrun, rfl⟩)

theorem Dated.tick (h : x.Dated limits) : x.tick.Dated limits := by
  refine h.keep ?_ rfl fun o ho => ?_
  · unfold Fan.tick Distributor.tick
    dsimp only
    split <;> exact h.fixed
  · unfold Fan.tick Distributor.tick at ho
    dsimp only at ho
    split at ho
    · cases ho
    · exact ho

theorem Dated.move (h : x.Dated limits) (hm : Move x y) : y.Dated limits := by
  cases hm with
  | call hc =>
    cases hc with
    | receive b => exact h.receive b _
    | tick => exact h.tick
  | stop => exact h.keep h.fixed rfl nofun
  | goOn =>
    have hgo := x.fan.goesOn_callAct
    exact h.keep (hgo.limits.trans h.fixed) hgo.issued fun o ho => hgo.openRun ▸ ho
  | others children sequencer books seen hs => exact h.keep h.fixed hs fun _ => id
  | pass t ht => exact h.keep h.fixed rfl fun _ => id

theorem dated_start (limits : RunLimits) (sendTimeout n : Nat) (children : List GatedChild)
    (now : Instant) : (start limits sendTimeout n children now).Dated limits :=
  ⟨rfl, List.forall_mem_nil _, List.nodup_nil, nofun⟩

theorem dated_reaches {sendTimeout n : Nat} {children : List GatedChild} {now : Instant}
    (hr : ReflTransGen Move (start limits sendTimeout n children now) x) : x.Dated limits := by
  induction hr with
  | refl => exact dated_start limits sendTimeout n children now
  | tail _ hm ih => exact ih.move hm

/-! ### Ticks -/

/-- A callback under way opens no run, and takes up none again. -/
theorem Wait.keeps (hw : Wait x y) : y.opened = x.opened
    ∧ y.fan.distributor.openRun = x.fan.distributor.openRun := by
  obtain ⟨hbusy, hm⟩ := hw
  cases hm with
  | call _ hi => exact absurd hbusy hi
  | stop hi => exact absurd hbusy hi
  | goOn => exact ⟨rfl, x.fan.goesOn_callAct.openRun⟩
  | others => exact ⟨rfl, rfl⟩
  | pass => exact ⟨rfl, rfl⟩

theorem keeps_of_waits (hw : ReflTransGen Wait x y) : y.opened = x.opened
    ∧ y.fan.distributor.openRun = x.fan.distributor.openRun := by
  induction hw with
  | refl => exact ⟨rfl, rfl⟩
  | tail _ hw ih => exact ⟨hw.keeps.1.trans ih.1, hw.keeps.2.trans ih.2⟩

/-- When a tick has returned, no run is open that was opened the flush interval or longer before. -/
theorem closed_of_tick {sendTimeout n : Nat} {children : List GatedChild} {now : Instant}
    (hr : ReflTransGen Move (start limits sendTimeout n children now) x)
    (hw : ReflTransGen Wait x.tick y) :
    ∀ e ∈ y.opened, limits.flushInterval ≤ x.now - e.2 →
      ∀ o, y.fan.distributor.openRun = some o → o.run ≠ e.1 := by
  have hdated := dated_reaches hr
  obtain ⟨hopened, hopen⟩ := keeps_of_waits hw
  rintro ⟨run, s⟩ he hold o ho rfl
  rw [hopened] at he
  rw [hopen] at ho
  have hs : s = o.opened := hdated.tick.unique he (hdated.tick.current o ho)
  unfold Roster.tick Fan.tick Distributor.tick at ho
  dsimp only at ho
  split at ho
  · cases ho
  · rename_i hfresh
    have ho : x.fan.distributor.openRun = some o := ho
    refine hfresh ?_
    simpa [Distributor.isStale, ho, hdated.fixed, ← hs, Roster.now] using hold

/-! ### Time -/

/-- A distributor under a clock that waits for its callbacks, whatever the workers do: what is due
is the deadline of the callback. -/
def clockwork : Clockwork Roster where
  now := now
  Move := Move
  Able x := x.fan.callAble = true
  Due x t := x.IsBusy ∧ x.fan.distributor.deadline = t

theorem exists_timed (x : Roster) : ∃ σ, clockwork.Timed σ ∧ σ 0 = x := by
  have hgo : ∀ x : Roster, True → clockwork.Able x →
      ∃ y, Move x y ∧ True ∧ y.now = x.now ∧ y.fan.chores < x.fan.chores := fun x _ ha =>
    ⟨_, .goOn, trivial, x.fan.goesOn_callAct.now, Fan.chores_callAct ha⟩
  have hwait : ∀ x : Roster, True → ¬clockwork.Able x →
      ∃ y, Move x y ∧ True ∧ y.now = x.now + 1 := fun x _ _ =>
    ⟨_, .pass (x.now + 1) (Nat.le_succ _), trivial, rfl⟩
  obtain ⟨σ, hσ, h0, -⟩ := Clockwork.exists_timed (c := clockwork) hgo hwait (x := x) trivial
  exact ⟨σ, hσ, h0⟩

/-- The callback under way has this deadline, and does not wait for workers. -/
structure Until (deadline : Instant) (x : Roster) : Prop where
  deadline : x.fan.distributor.deadline = deadline
  brief : ∀ t ∈ x.fan.distributor.agenda, t.IsBrief

theorem until_ofCall (hc : Call x deadline y) : y.Until deadline ∧ y.now = x.now := by
  cases hc with
  | receive b deadline =>
    have hr := x.fan.distributor.receives x.now deadline b x.fan.sequencer
    exact ⟨⟨hr.deadline, hr.agenda⟩, rfl⟩
  | tick =>
    refine ⟨⟨?_, ?_⟩, rfl⟩
    all_goals
      unfold Roster.tick Fan.tick Distributor.tick
      dsimp only
      split
    · rfl
    · rfl
    · exact x.fan.distributor.isBrief_closing
    · exact List.forall_mem_nil _

theorem Until.wait (hu : x.Until deadline) (hw : Wait x y) : y.Until deadline := by
  obtain ⟨hbusy, hm⟩ := hw
  cases hm with
  | call _ hi => exact absurd hbusy hi
  | stop hi => exact absurd hbusy hi
  | goOn =>
    have hgo := x.fan.goesOn_callAct
    exact ⟨hgo.deadline.trans hu.deadline, fun t ht => hu.brief t (hgo.agenda t ht)⟩
  | others => exact ⟨hu.deadline, hu.brief⟩
  | pass => exact ⟨hu.deadline, hu.brief⟩

theorem bounds (deadline : Instant) : clockwork.Bounds IsBusy (Until deadline) deadline := by
  refine ⟨fun hu hb hm => hu.wait ⟨hb, hm⟩, fun {x} hu hbusy hable => ?_⟩
  exact ⟨deadline, ⟨hbusy, hu.deadline⟩,
    hu.deadline ▸ Fan.lt_of_unable hbusy hu.brief (Bool.eq_false_iff.2 hable), Nat.le_refl _⟩

/-- Under a clock a callback returns by its deadline, or at once if that has passed. -/
theorem returns {σ : ℕ → Roster} (hσ : clockwork.Timed σ) (hc : Call x deadline (σ 0)) :
    ∃ n, (∀ k < n, (σ k).IsBusy) ∧ ¬(σ n).IsBusy ∧ (σ n).now ≤ max x.now deadline := by
  obtain ⟨huntil, hnow⟩ := until_ofCall hc
  obtain ⟨n, hbefore, hdone, -, hle⟩ := hσ.returns (bounds deadline) huntil
  exact ⟨n, hbefore, hdone, hnow ▸ hle⟩

end Roster

end LogPipeline
