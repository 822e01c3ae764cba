import LogPipeline.Proofs.Dispatches

/-!
# Runs in rotation

Whatever becomes of the batches that a distributor offers, which ones it offers follows from those
it was given and from its ticks. `Ruled` says how: the batches of one run stand together, the first
one that brings the run to a limit is its last, and a run that reaches none is ended by an empty
batch. Each callback adds at most one batch in this way (`Ruled.fill`, `Ruled.close`), and each run
goes to the worker behind that of the run before it. A `Dispatcher` is a distributor at work among
workers of which nothing is assumed.
-/

namespace LogPipeline

/-! ## Batches that were offered -/

/-- The sum of a measure over the batches of a run. -/
def runTotal (f : Batch → Nat) (r : Nat) (l : List OrderedBatch) : Nat :=
  total (fun b => f b.records) (l.filter fun b => b.run = some r)

/-- A run with these batches is below both limits. -/
def RunLimits.Below (limits : RunLimits) (r : Nat) (l : List OrderedBatch) : Prop :=
  runTotal List.length r l < limits.maxRecords ∧ runTotal Batch.bytes r l < limits.maxBytes

/-- The batches that hold records. -/
def filled (l : List Batch) : List Batch := l.filter fun b => !b.isEmpty

/-- Runs come one after the other, and nothing comes behind the last batch of a run. -/
def OrderedBatch.Precedes (b b' : OrderedBatch) : Prop :=
  ∀ r r', b.run = some r → b'.run = some r' → r ≤ r' ∧ (b.isLast = true → r < r')

/-- Batches that a distributor with these limits may offer, when it was given these inputs. -/
structure Ruled (limits : RunLimits) (issued : Nat) (opened : Option OpenRun)
    (inputs : List Batch) (l : List OrderedBatch) : Prop where
  known : ∀ b ∈ l, ∃ r, b.run = some r ∧ r < issued
  order : l.Pairwise OrderedBatch.Precedes
  ended : ∀ r < issued, opened.map OpenRun.run = some r ∨ ∃ b ∈ l, b.run = some r ∧ b.isLast = true
  -- what is known of the run being filled
  latest : ∀ o, opened = some o → o.run + 1 = issued
  going : ∀ o, opened = some o → ∀ b ∈ l, b.run = some o.run → b.isLast = false
  sums : ∀ o, opened = some o →
    o.records = runTotal List.length o.run l ∧ o.bytes = runTotal Batch.bytes o.run l
  below : ∀ o, opened = some o → limits.Below o.run l
  contents : filled (l.map OrderedBatch.records) = filled inputs
  crossing : ∀ pre b, pre ++ [b] <+: l → b.records ≠ [] → ∀ r, b.run = some r →
    (b.isLast = true ↔ ¬limits.Below r (pre ++ [b]))
  marker : ∀ pre b, pre ++ [b] <+: l → b.records = [] → b.isLast = true
    ∧ ∀ r, b.run = some r → limits.Below r pre

section

variable {limits : RunLimits} {issued r : Nat} {opened : Option OpenRun} {inputs : List Batch}
  {l : List OrderedBatch} {b : OrderedBatch} {batch : Batch} {f : Batch → Nat}

theorem runTotal_concat (l : List OrderedBatch) (b : OrderedBatch) :
    runTotal f r (l ++ [b]) = runTotal f r l + if b.run = some r then f b.records else 0 := by
  unfold runTotal
  rw [List.filter_append, total_append]
  by_cases hb : b.run = some r <;> simp [hb]

theorem runTotal_eq_zero (h : ∀ b ∈ l, b.run ≠ some r) : runTotal f r l = 0 := by
  unfold runTotal
  rw [List.filter_eq_nil_iff.2 fun b hb => by simpa using h b hb]
  rfl

theorem filled_concat (l : List Batch) (batch : Batch) :
    filled (l ++ [batch]) = filled l ++ if batch = [] then [] else [batch] := by
  unfold filled
  rw [List.filter_append]
  by_cases hb : batch = [] <;> simp [hb]

theorem OrderedBatch.precedes_of_le {b b' : OrderedBatch} (hr : b'.run = some r)
    (h : ∀ k, b.run = some k → k ≤ r) (hl : b.run = some r → b.isLast = false) :
    b.Precedes b' := by
  intro k k' hk hk'
  obtain rfl : r = k' := Option.some.inj (hr.symm.trans hk')
  refine ⟨h k hk, fun hlast => ?_⟩
  have hne : k ≠ r := by
    rintro rfl
    simp [hl hk] at hlast
  have := h k hk
  omega

/-- The next batch is for this run: the one that is open, or a new one that holds nothing yet. -/
def OpenRun.Fills (opened : Option OpenRun) (issued issued' : Nat) (o : OpenRun) : Prop :=
  opened = some o ∧ issued' = issued
    ∨ opened = none ∧ issued' = issued + 1 ∧ o.run = issued ∧ o.records = 0 ∧ o.bytes = 0

namespace Ruled

theorem empty (limits : RunLimits) : Ruled limits 0 none [] [] := by
  constructor <;> simp [filled]

/-- An empty batch is passed over. -/
theorem skip (h : Ruled limits issued opened inputs l) :
    Ruled limits issued opened (inputs ++ [[]]) l := by
  refine { h with contents := ?_ }
  rw [h.contents, filled_concat]
  simp

variable {o : OpenRun} {issued' : Nat}

/-- The run is the latest one. -/
theorem run_add_one (h : Ruled limits issued opened inputs l)
    (ho : o.Fills opened issued issued') : o.run + 1 = issued' := by
  rcases ho with ⟨ho, rfl⟩ | ⟨-, rfl, hr, -⟩
  · exact h.latest o ho
  · omega

/-- What was offered before is of this run or of an earlier one, and did not end this one. -/
theorem before (h : Ruled limits issued opened inputs l) (ho : o.Fills opened issued issued') :
    ∀ b ∈ l, (∀ k, b.run = some k → k ≤ o.run) ∧ (b.run = some o.run → b.isLast = false) := by
  intro b hb
  obtain ⟨k, hk, hlt⟩ := h.known b hb
  have hrun := h.run_add_one ho
  refine ⟨fun k' hk' => ?_, fun hr => ?_⟩
  · obtain rfl : k = k' := Option.some.inj (hk.symm.trans hk')
    rcases ho with ⟨-, rfl⟩ | ⟨-, rfl, -⟩ <;> omega
  · rcases ho with ⟨ho, -⟩ | ⟨-, -, hrun, -⟩
    · exact h.going o ho b hb hr
    · rw [hk, Option.some.injEq] at hr
      omega

/-- What the run counts is what was offered for it. -/
theorem counted (h : Ruled limits issued opened inputs l) (ho : o.Fills opened issued issued') :
    o.records = runTotal List.length o.run l ∧ o.bytes = runTotal Batch.bytes o.run l := by
  rcases ho with ⟨ho, -⟩ | ⟨-, -, hrun, hrec, hbytes⟩
  · exact h.sums o ho
  · have hnone : ∀ b ∈ l, b.run ≠ some o.run := by
      intro b hb hr
      obtain ⟨k, hk, hlt⟩ := h.known b hb
      rw [hk, Option.some.injEq] at hr
      omega
    rw [runTotal_eq_zero hnone, runTotal_eq_zero hnone]
    exact ⟨hrec, hbytes⟩

/-- Every run is this one, or was ended before it. -/
theorem eq_or_ended (h : Ruled limits issued opened inputs l)
    (ho : o.Fills opened issued issued') {k : Nat} (hk : k < issued') :
    k = o.run ∨ ∃ b ∈ l, b.run = some k ∧ b.isLast = true := by
  have hrun := h.run_add_one ho
  by_cases hk' : k = o.run
  · exact .inl hk'
  · have hlt : k < issued := by rcases ho with ⟨-, rfl⟩ | ⟨-, rfl, -⟩ <;> omega
    rcases h.ended k hlt with hopen | hend
    · rcases ho with ⟨ho, -⟩ | ⟨ho, -⟩
      · simp [ho] at hopen
        omega
      · simp [ho] at hopen
    · exact .inr hend

/-- A batch is offered for a run, which it may end. -/
theorem fill (h : Ruled limits issued opened inputs l) (hne : batch ≠ [])
    (ho : o.Fills opened issued issued') {isLast : Bool}
    (hl : isLast = true ↔ limits.maxRecords ≤ o.records + batch.length
      ∨ limits.maxBytes ≤ o.bytes + batch.bytes) :
    Ruled limits issued'
      (if isLast then none
        else some { o with records := o.records + batch.length, bytes := o.bytes + batch.bytes })
      (inputs ++ [batch]) (l ++ [⟨batch, some o.run, isLast⟩]) := by
  have hlast := h.run_add_one ho
  have hbefore := h.before ho
  have hsums := h.counted ho
  have htotals : ∀ g : Batch → Nat, runTotal g o.run (l ++ [⟨batch, some o.run, isLast⟩])
      = runTotal g o.run l + g batch := fun g => by simp [runTotal_concat]
  have hbelow : limits.Below o.run (l ++ [⟨batch, some o.run, isLast⟩]) ↔ isLast = false := by
    unfold RunLimits.Below
    rw [htotals, htotals, ← hsums.1, ← hsums.2, ← Bool.not_eq_true, hl]
    omega
  -- the run stays open unless this is its last batch
  have hopen : ∀ {o' : OpenRun}, (if isLast then none
      else some { o with records := o.records + batch.length, bytes := o.bytes + batch.bytes })
        = some o' →
      { o with records := o.records + batch.length, bytes := o.bytes + batch.bytes } = o'
        ∧ isLast = false := by
    intro o' ho'
    cases isLast
    · exact ⟨Option.some.inj ho', rfl⟩
    · simp at ho'
  refine ⟨fun b hb => ?_, ?_, fun k hk => ?_, fun o' ho' => ?_, fun o' ho' b hb hr => ?_,
    fun o' ho' => ?_, fun o' ho' => ?_, ?_, fun pre b hp hb r hr => ?_, fun pre b hp hb => ?_⟩
  · rcases List.mem_append.1 hb with hb | hb
    · obtain ⟨k, hk, -⟩ := h.known b hb
      have hle := (hbefore b hb).1 k hk
      exact ⟨k, hk, by omega⟩
    · rw [List.mem_singleton.1 hb]
      exact ⟨o.run, rfl, by omega⟩
  · refine List.pairwise_append.2 ⟨h.order, List.pairwise_singleton _ _, fun b hb b' hb' => ?_⟩
    rw [List.mem_singleton.1 hb']
    exact OrderedBatch.precedes_of_le rfl (hbefore b hb).1 (hbefore b hb).2
  · rcases h.eq_or_ended ho hk with rfl | ⟨b, hb, hend⟩
    · cases isLast
      · exact .inl rfl
      · exact .inr ⟨⟨batch, some o.run, true⟩, by simp, rfl, rfl⟩
    · exact .inr ⟨b, List.mem_append_left _ hb, hend⟩
  · obtain ⟨rfl, -⟩ := hopen ho'
    exact hlast
  · obtain ⟨rfl, hfalse⟩ := hopen ho'
    rcases List.mem_append.1 hb with hb | hb
    · exact (hbefore b hb).2 hr
    · rw [List.mem_singleton.1 hb]
      exact hfalse
  · obtain ⟨rfl, -⟩ := hopen ho'
    show o.records + batch.length = _ ∧ o.bytes + batch.bytes = _
    rw [htotals, htotals, hsums.1, hsums.2]
    exact ⟨rfl, rfl⟩
  · obtain ⟨rfl, hfalse⟩ := hopen ho'
    exact hbelow.2 hfalse
  · rw [List.map_append, filled_concat inputs, ← h.contents]
    simp only [List.map_cons, List.map_nil]
    rw [filled_concat]
  · rcases List.prefix_concat_iff.1 hp with hp | hp
    · obtain ⟨rfl, hlast⟩ := List.append_inj' hp rfl
      obtain rfl := List.singleton_inj.1 hlast
      obtain rfl := Option.some.inj hr
      rw [hbelow]
      simp
    · exact h.crossing pre b hp hb r hr
  · rcases List.prefix_concat_iff.1 hp with hp | hp
    · obtain ⟨rfl, hlast⟩ := List.append_inj' hp rfl
      obtain rfl := List.singleton_inj.1 hlast
      exact absurd hb hne
    · exact h.marker pre b hp hb

/-- The open run is ended by an empty batch. -/
theorem close {o : OpenRun} (h : Ruled limits issued (some o) inputs l) :
    Ruled limits issued none inputs (l ++ [⟨[], some o.run, true⟩]) := by
  have hlast := h.latest o rfl
  have hbefore : ∀ b ∈ l, ∀ k, b.run = some k → k ≤ o.run := by
    intro b hb k hk
    obtain ⟨k', hk', hlt⟩ := h.known b hb
    obtain rfl : k' = k := Option.some.inj (hk'.symm.trans hk)
    omega
  refine ⟨fun b hb => ?_, ?_, fun k hk => ?_, by simp, by simp, by simp, by simp, ?_,
    fun pre b hp hb r hr => ?_, fun pre b hp hb => ?_⟩
  · rcases List.mem_append.1 hb with hb | hb
    · exact h.known b hb
    · rw [List.mem_singleton.1 hb]
      exact ⟨o.run, rfl, by omega⟩
  · refine List.pairwise_append.2 ⟨h.order, List.pairwise_singleton _ _, fun b hb b' hb' => ?_⟩
    rw [List.mem_singleton.1 hb']
    exact OrderedBatch.precedes_of_le rfl (hbefore b hb) (h.going o rfl b hb)
  · rcases h.ended k hk with hopen | ⟨b, hb, hbr, hbl⟩
    · exact .inr ⟨⟨[], some o.run, true⟩, by simp, hopen, rfl⟩
    · exact .inr ⟨b, List.mem_append_left _ hb, hbr, hbl⟩
  · rw [List.map_append, ← h.contents]
    simp only [List.map_cons, List.map_nil]
    rw [filled_concat]
    simp
  · rcases List.prefix_concat_iff.1 hp with hp | hp
    · obtain ⟨rfl, hb'⟩ := List.append_inj' hp rfl
      obtain rfl := List.singleton_inj.1 hb'
      exact absurd rfl hb
    · exact h.crossing pre b hp hb r hr
  · rcases List.prefix_concat_iff.1 hp with hp | hp
    · obtain ⟨rfl, hb'⟩ := List.append_inj' hp rfl
      obtain rfl := List.singleton_inj.1 hb'
      refine ⟨rfl, fun r hr => ?_⟩
      obtain rfl := Option.some.inj hr
      exact h.below o rfl
    · exact h.marker pre b hp hb

end Ruled

end

/-! ## A distributor at work -/

/-- A batch that was offered, the worker that it was offered to, and the callback that it came
from. -/
structure Tender where
  child : Nat
  batch : OrderedBatch
  cause : Callback Batch

/-- What a callback gives reason to offer: the batch it is about, or one without records. -/
def OrderedBatch.ComesFrom (b : OrderedBatch) : Callback Batch → Prop
  | .input batch _ => b.records = batch ∧ batch ≠ []
  | .tick | .stop => b.records = []

/-- A distributor with what it was given and what it has offered. `cause` is its latest callback,
and `ended` holds once that was its stop. -/
structure Dispatcher where
  distributor : Distributor
  sequencer : Sequencer := {}
  books : Books := {}
  cause : Callback Batch := .tick
  inputs : List Batch := []
  tenders : List Tender := []
  ended : Bool := false

namespace Dispatcher

/-- A distributor over `n` workers. -/
def start (limits : RunLimits) (sendTimeout n : Nat) : Dispatcher :=
  { distributor := { limits, sendTimeout, children := n } }

/-- Callbacks come one at a time and not behind the stop, at any time. A batch finds the queue of
its worker in any state, and workers let go of tickets as they please. -/
inductive Move (x : Dispatcher) : Dispatcher → Prop where
  | receive (now deadline : Instant) (batch : Batch) (ha : x.distributor.agenda = [])
    (he : x.ended = false) :
    Move x
      { x with
        distributor := (x.distributor.receive now deadline batch x.sequencer).1
        sequencer := (x.distributor.receive now deadline batch x.sequencer).2
        cause := .input batch deadline
        inputs := x.inputs ++ [batch] }
  | tick (now : Instant) (ha : x.distributor.agenda = []) (he : x.ended = false) :
    Move x { x with distributor := x.distributor.tick now, cause := .tick }
  | stop (now : Instant) (ha : x.distributor.agenda = []) (he : x.ended = false) :
    Move x { x with distributor := x.distributor.stop now, cause := .stop, ended := true }
  | offer (now : Instant) {b : OrderedBatch} {l : List Delivery} {q : Option (Queue OrderedBatch)}
    {y : Distributor.Offered} (ha : x.distributor.agenda = .offer b :: l)
    (hq : q.isSome = decide (x.distributor.current < x.distributor.children))
    (hy : x.distributor.offer now q b x.sequencer x.books = some y) :
    Move x
      { x with
        distributor := y.distributor
        sequencer := y.sequencer
        books := y.books
        tenders := x.tenders ++ [⟨x.distributor.current, b, x.cause⟩] }
  | rotate {l : List Delivery} (ha : x.distributor.agenda = .rotate :: l) :
    Move x { x with distributor := x.distributor.rotate }
  | letGo {l : List Delivery} (ha : x.distributor.agenda = .closeChildren :: l) :
    Move x { x with distributor := x.distributor.letGo }
  | awaited {l : List Delivery} (ha : x.distributor.agenda = .awaitChildren :: l) :
    Move x { x with distributor := x.distributor.next }
  | release (r : Nat) : Move x { x with sequencer := x.sequencer.release r }

/-- Everything that is offered or about to be. -/
def batches (x : Dispatcher) : List OrderedBatch :=
  x.tenders.map Tender.batch ++ x.distributor.agenda.filterMap Delivery.batch?

/-- What is always so of a distributor with these limits over `n` workers. -/
structure Sound (limits : RunLimits) (n : Nat) (x : Dispatcher) : Prop where
  same : x.distributor.limits = limits
  size : x.distributor.children ≠ 0 → x.distributor.children = n
  delivers : Delivers n x.sequencer.issued x.ended (decide (x.distributor.children ≠ 0))
    x.distributor.current (x.distributor.openRun.map OpenRun.run) x.distributor.agenda
  ruled : Ruled limits x.sequencer.issued x.distributor.openRun x.inputs x.batches
  lane : ∀ t ∈ x.tenders, t.batch.run.map (· % n) = some t.child
  causes : ∀ t ∈ x.tenders, t.batch.ComesFrom t.cause
  cause : ∀ b ∈ x.distributor.agenda.filterMap Delivery.batch?, b.ComesFrom x.cause

end Dispatcher

@[simp] theorem Delivery.batch?_offer (b : OrderedBatch) : (Delivery.offer b).batch? = some b := rfl

@[simp] theorem Delivery.batch?_rotate : Delivery.rotate.batch? = none := rfl

section

variable {limits : RunLimits} {n : Nat} {x y : Dispatcher} {d : Distributor} {s : Sequencer}
  {now deadline : Instant} {batch : Batch}

/-- A batch that is not empty is offered for the open run, or for a new one, which it may end. -/
theorem Distributor.receive_of_ne (now deadline : Instant) (d : Distributor) (s : Sequencer)
    (hb : batch ≠ []) :
    ∃ (o : OpenRun) (issued : Nat) (isLast : Bool),
      o.Fills d.openRun s.issued issued
      ∧ (isLast = true ↔ d.limits.maxRecords ≤ o.records + batch.length
          ∨ d.limits.maxBytes ≤ o.bytes + batch.bytes)
      ∧ (d.receive now deadline batch s).2.issued = issued
      ∧ (d.receive now deadline batch s).1 =
        { d with
          deadline
          openRun := if isLast then none
            else some { o with records := o.records + batch.length, bytes := o.bytes + batch.bytes }
          agenda := .offer ⟨batch, some o.run, isLast⟩ :: if isLast then [.rotate] else [] } := by
  have he : batch.isEmpty = false := by simpa using hb
  refine ⟨(d.runFor now s).1, (d.runFor now s).2.issued,
    d.isFull { (d.runFor now s).1 with
      records := (d.runFor now s).1.records + batch.length
      bytes := (d.runFor now s).1.bytes + batch.bytes }, ?_, ?_, ?_, ?_⟩
  · unfold Distributor.runFor
    cases d.openRun with
    | none => exact .inr ⟨rfl, rfl, rfl, rfl, rfl⟩
    | some o => exact .inl ⟨rfl, rfl⟩
  · simp [Distributor.isFull]
  · simp only [Distributor.receive, he, Bool.false_eq_true, ↓reduceIte]
    split <;> simp
  · simp only [Distributor.receive, he, Bool.false_eq_true, ↓reduceIte]
    split
    · rename_i hfull
      simp [hfull]
    · rename_i hfull
      simp [hfull]

/-- A batch that is lost gives its reference back, and opens no run. -/
theorem Distributor.issued_of_offer {q : Option (Queue OrderedBatch)} {b : OrderedBatch}
    {books : Books} {y : Distributor.Offered} (hy : d.offer now q b s books = some y) :
    y.sequencer.issued = s.issued := by
  have hlose : ∀ timedOut, (Distributor.loseBatch timedOut b s books).1.issued = s.issued := by
    intro timedOut
    unfold Distributor.loseBatch
    cases b.run <;> simp
  unfold Distributor.offer at hy
  split at hy
  · cases hy
    exact hlose false
  · split at hy
    · cases hy
      rfl
    · rename_i reason _
      cases hy
      exact hlose (reason = .timeout)
    · cases hy

namespace Dispatcher

theorem Sound.start (limits : RunLimits) (sendTimeout : Nat) (hn : 0 < n) :
    (Dispatcher.start limits sendTimeout n).Sound limits n := by
  have hn0 : n ≠ 0 := by omega
  refine ⟨rfl, fun _ => rfl, ⟨by simp [Dispatcher.start], fun _ _ => ?_, ?_, fun _ => rfl⟩,
    .empty limits,
    by simp [Dispatcher.start], by simp [Dispatcher.start], by simp [Dispatcher.start]⟩
  · exact (Nat.zero_mod n).symm
  · simp [Dispatcher.start, hn0]

namespace Sound

/-- What an idle distributor that still serves is like. -/
theorem of_idle (h : x.Sound limits n) (ha : x.distributor.agenda = []) (he : x.ended = false) :
    x.distributor.children ≠ 0
      ∧ (∀ o, x.distributor.openRun = some o → x.distributor.current = o.run % n)
      ∧ (x.distributor.openRun = none → x.distributor.current = x.sequencer.issued % n)
      ∧ x.batches = x.tenders.map Tender.batch := by
  have hdel := h.delivers
  rw [ha, he] at hdel
  obtain ⟨h1, h2, h3, -⟩ := hdel
  refine ⟨by simpa using h3, fun o ho => (h1 o.run (by simp [ho])).2, fun hn => ?_, ?_⟩
  · exact h2 (by simp [hn]) rfl
  · simp [batches, ha]

/-- A callback has begun, which offers a batch at most. -/
theorem begun (h : x.Sound limits n) (ha : x.distributor.agenda = []) {y : Dispatcher}
    (hl : y.distributor.limits = x.distributor.limits)
    (hch : y.distributor.children = x.distributor.children) (ht : y.tenders = x.tenders)
    (hdel : Delivers n y.sequencer.issued y.ended (decide (x.distributor.children ≠ 0))
      y.distributor.current (y.distributor.openRun.map OpenRun.run) y.distributor.agenda)
    (hruled : Ruled limits y.sequencer.issued y.distributor.openRun y.inputs
      (x.batches ++ y.distributor.agenda.filterMap Delivery.batch?))
    (hcause : ∀ b ∈ y.distributor.agenda.filterMap Delivery.batch?, b.ComesFrom y.cause) :
    y.Sound limits n := by
  refine ⟨hl.trans h.same, fun hne => hch.trans (h.size (hch ▸ hne)), hch ▸ hdel, ?_,
    ht ▸ h.lane, ht ▸ h.causes, hcause⟩
  simpa [batches, ha, ht] using hruled

theorem receive (h : x.Sound limits n) (ha : x.distributor.agenda = []) (he : x.ended = false) :
    ({ x with
        distributor := (x.distributor.receive now deadline batch x.sequencer).1
        sequencer := (x.distributor.receive now deadline batch x.sequencer).2
        cause := .input batch deadline
        inputs := x.inputs ++ [batch] } : Dispatcher).Sound limits n := by
  obtain ⟨hthere, hsome, hnone, -⟩ := h.of_idle ha he
  have hdel := h.delivers
  by_cases hb : batch = []
  · subst hb
    have hrec : x.distributor.receive now deadline [] x.sequencer
        = ({ x.distributor with deadline, agenda := [] }, x.sequencer) := rfl
    rw [hrec]
    refine h.begun ha rfl rfl rfl ?_ ?_ (by simp)
    · rw [ha] at hdel
      exact hdel
    · simpa using h.ruled.skip
  · obtain ⟨o, issued, isLast, ho, hl, hissued, hd⟩ :=
      x.distributor.receive_of_ne now deadline x.sequencer hb
    have hruled := h.ruled.fill hb ho (h.same ▸ hl)
    have hcur : x.distributor.current = o.run % n := by
      rcases ho with ⟨ho, -⟩ | ⟨ho, -, hr, -⟩
      · exact hsome o ho
      · rw [hnone ho, hr]
    have hlast : o.run + 1 = issued := h.ruled.run_add_one ho
    refine h.begun ha (by rw [hd]) (by rw [hd]) rfl ?_ ?_ ?_
    · show Delivers n (x.distributor.receive now deadline batch x.sequencer).2.issued _ _ _ _ _
      rw [hissued, hd, he]
      refine ⟨by simpa using hthere, ⟨_, rfl, hlast, hcur⟩, ?_⟩
      cases isLast with
      | true =>
        refine ⟨by simpa using hthere, rfl, by simp, fun _ _ => ?_, by simpa using hthere, by simp⟩
        rw [hcur, ← hlast, Nat.mod_add_mod]
      | false =>
        refine ⟨fun r hr => ?_, by simp, by simpa using hthere, by simp⟩
        obtain rfl : o.run = r := by simpa using hr
        exact ⟨hlast, hcur⟩
    · show Ruled limits (x.distributor.receive now deadline batch x.sequencer).2.issued _ _ _
      rw [hissued, hd]
      cases isLast <;> simpa [List.filterMap_cons] using hruled
    · intro b hmem
      obtain rfl : b = ⟨batch, some o.run, isLast⟩ := by
        rw [hd] at hmem
        cases isLast <;> simpa [List.filterMap_cons] using hmem
      exact ⟨rfl, hb⟩

/-- The open run, if there is one, is to be ended. Whatever comes behind that offers nothing. -/
theorem closing (h : x.Sound limits n) (ha : x.distributor.agenda = []) (he : x.ended = false)
    {y : Dispatcher} {t : List Delivery} (hs : y.sequencer = x.sequencer)
    (hi : y.inputs = x.inputs) (ht : y.tenders = x.tenders)
    (hd : y.distributor = { x.distributor with
      deadline, openRun := none, agenda := x.distributor.closing ++ t })
    (hoffers : t.filterMap Delivery.batch? = [])
    (hrest : ∀ current, (y.ended = false → current = x.sequencer.issued % n) →
      Delivers n x.sequencer.issued y.ended true current none t)
    (hcause : ∀ b : OrderedBatch, b.records = [] → b.ComesFrom y.cause) :
    y.Sound limits n := by
  obtain ⟨hthere, hsome, hnone, -⟩ := h.of_idle ha he
  have htrue : decide (x.distributor.children ≠ 0) = true := by simpa using hthere
  have hruled := h.ruled
  refine h.begun ha (by rw [hd]) (by rw [hd]) ht ?_ ?_ ?_
  · rw [hs, hd, htrue]
    unfold Distributor.closing
    cases ho : x.distributor.openRun with
    | none => exact hrest _ fun _ => hnone ho
    | some o =>
      have hlast := h.ruled.latest o ho
      refine ⟨rfl, ⟨_, rfl, hlast, hsome o ho⟩, rfl, rfl, hrest _ fun _ => ?_⟩
      rw [hsome o ho, ← hlast, Nat.mod_add_mod]
  · rw [hs, hi, hd]
    unfold Distributor.closing
    cases ho : x.distributor.openRun with
    | none =>
      rw [ho] at hruled
      simpa [hoffers] using hruled
    | some o =>
      rw [ho] at hruled
      simpa [List.filterMap_cons, hoffers] using hruled.close
  · intro b hmem
    refine hcause b ?_
    rw [hd] at hmem
    unfold Distributor.closing at hmem
    cases ho : x.distributor.openRun with
    | none => simp [ho, hoffers] at hmem
    | some o =>
      obtain rfl : b = ⟨[], some o.run, true⟩ := by
        rw [ho, List.filterMap_append, hoffers] at hmem
        simpa [List.filterMap_cons] using hmem
      rfl

theorem tick (h : x.Sound limits n) (ha : x.distributor.agenda = []) (he : x.ended = false) :
    ({ x with distributor := x.distributor.tick now, cause := .tick } : Dispatcher).Sound
      limits n := by
  unfold Distributor.tick
  split
  · refine h.closing ha he (t := []) rfl rfl rfl (by simp; rfl) rfl (fun cur hcur => ?_) fun _ => id
    exact ⟨by simp, fun _ => hcur, by simp [he], by simp [he]⟩
  · have hdel := h.delivers
    rw [ha] at hdel
    refine h.begun ha rfl rfl rfl hdel ?_ (by simp)
    simpa using h.ruled

theorem stop (h : x.Sound limits n) (ha : x.distributor.agenda = []) (he : x.ended = false) :
    ({ x with distributor := x.distributor.stop now, cause := .stop, ended := true } :
      Dispatcher).Sound limits n := by
  refine h.closing ha he (t := [.closeChildren, .awaitChildren]) rfl rfl rfl rfl rfl
    (fun cur _ => ?_) fun _ => id
  exact ⟨rfl, rfl, by simp, rfl, by simp, by simp, rfl, fun _ => rfl⟩

/-- One item of the agenda is done, and nothing is offered. -/
theorem next (h : x.Sound limits n) {a : Delivery} {l : List Delivery}
    (ha : x.distributor.agenda = a :: l) (hb : a.batch? = none) {d : Distributor}
    (hl : d.limits = x.distributor.limits) (hrun : d.openRun = x.distributor.openRun)
    (hag : d.agenda = l) (hsize : d.children ≠ 0 → d.children = x.distributor.children)
    (hdel : Delivers n x.sequencer.issued x.ended (decide (d.children ≠ 0)) d.current
      (x.distributor.openRun.map OpenRun.run) l) :
    ({ x with distributor := d } : Dispatcher).Sound limits n := by
  have hbatches : ({ x with distributor := d } : Dispatcher).batches = x.batches := by
    simp [batches, ha, hag, hb]
  refine ⟨hl.trans h.same, fun hne => ?_, ?_, ?_, h.lane, h.causes, fun b hb' => h.cause b ?_⟩
  · rw [hsize hne]
    exact h.size (hsize hne ▸ hne)
  · show Delivers n x.sequencer.issued x.ended _ _ (d.openRun.map OpenRun.run) d.agenda
    rw [hrun, hag]
    exact hdel
  · rw [hbatches]
    exact hrun ▸ h.ruled
  · rw [ha, List.filterMap_cons_none hb]
    exact hag ▸ hb'

theorem rotate (h : x.Sound limits n) {l : List Delivery}
    (ha : x.distributor.agenda = .rotate :: l) :
    ({ x with distributor := x.distributor.rotate } : Dispatcher).Sound limits n := by
  have hdel := h.delivers
  rw [ha] at hdel
  obtain ⟨ht, -, hl⟩ := hdel
  have hd : x.distributor.children ≠ 0 := by simpa using ht
  have hagenda : x.distributor.rotate.agenda = l := by
    simp [Distributor.rotate, Distributor.next, ha]
  refine h.next ha rfl rfl rfl hagenda (fun _ => rfl) ?_
  have hcur : x.distributor.rotate.current = (x.distributor.current + 1) % n := by
    rw [← h.size hd]
    simp [Distributor.rotate, Distributor.next, hd]
  rw [hcur]
  exact hl

theorem letGo (h : x.Sound limits n) {l : List Delivery}
    (ha : x.distributor.agenda = .closeChildren :: l) :
    ({ x with distributor := x.distributor.letGo } : Dispatcher).Sound limits n := by
  have hdel := h.delivers
  rw [ha] at hdel
  refine h.next ha rfl rfl rfl (by simp [Distributor.letGo, Distributor.next, ha]) ?_ ?_
  · exact fun hne => absurd rfl hne
  · exact hdel.2.2.2

theorem awaited (h : x.Sound limits n) {l : List Delivery}
    (ha : x.distributor.agenda = .awaitChildren :: l) :
    ({ x with distributor := x.distributor.next } : Dispatcher).Sound limits n := by
  have hdel := h.delivers
  rw [ha] at hdel
  exact h.next ha rfl rfl rfl (by simp [Distributor.next, ha]) (fun _ => rfl) hdel.2

/-- The batch goes to the worker of its run, or nowhere; either way it was offered. -/
theorem offer (h : x.Sound limits n) {b : OrderedBatch} {l : List Delivery}
    (ha : x.distributor.agenda = .offer b :: l) (hd : y.distributor = x.distributor.next)
    (hs : y.sequencer.issued = x.sequencer.issued) (he : y.ended = x.ended)
    (hi : y.inputs = x.inputs) (hc : y.cause = x.cause)
    (ht : y.tenders = x.tenders ++ [⟨x.distributor.current, b, x.cause⟩]) : y.Sound limits n := by
  have hdel := h.delivers
  rw [ha] at hdel
  obtain ⟨hthere, ⟨r, hr, -, hcur⟩, hl⟩ := hdel
  have hag : y.distributor.agenda = l := by simp [hd, Distributor.next, ha]
  have hbatches : y.batches = x.batches := by simp [batches, ha, hag, ht]
  refine ⟨by rw [hd]; exact h.same, by rw [hd]; exact h.size, ?_, ?_, fun t hmem => ?_,
    fun t hmem => ?_, fun b' hmem => ?_⟩
  · rw [hs, he, hag, hd]
    exact hl
  · rw [hs, hi, hbatches, hd]
    exact h.ruled
  · rcases List.mem_append.1 (ht ▸ hmem) with hmem | hmem
    · exact h.lane t hmem
    · rw [List.mem_singleton.1 hmem]
      simp [hr, hcur]
  · rcases List.mem_append.1 (ht ▸ hmem) with hmem | hmem
    · exact h.causes t hmem
    · rw [List.mem_singleton.1 hmem]
      exact h.cause b (by simp [ha])
  · rw [hc]
    refine h.cause b' ?_
    rw [hag] at hmem
    simpa [ha] using Or.inr hmem

theorem move (h : x.Sound limits n) (hm : x.Move y) : y.Sound limits n := by
  cases hm with
  | receive now deadline batch ha he => exact h.receive ha he
  | tick now ha he => exact h.tick ha he
  | stop now ha he => exact h.stop ha he
  | offer now ha hq hy =>
    exact h.offer ha (Distributor.next_of_offer hy) (Distributor.issued_of_offer hy) rfl rfl rfl rfl
  | rotate ha => exact h.rotate ha
  | letGo ha => exact h.letGo ha
  | awaited ha => exact h.awaited ha
  | release r =>
    refine ⟨h.same, h.size, ?_, ?_, h.lane, h.causes, h.cause⟩
    · simpa using h.delivers
    · simpa [batches] using h.ruled

end Sound

end Dispatcher

end

/-! ## What a distributor offers -/

/-- A run has exactly one batch that is marked as its last, and none behind it. -/
def EndsOnce (r : Nat) (l : List OrderedBatch) : Prop :=
  ∃ pre b post, l = pre ++ b :: post ∧ b.run = some r ∧ b.isLast = true
    ∧ (∀ c ∈ pre, c.run = some r → c.isLast = false) ∧ ∀ c ∈ post, c.run ≠ some r

/-- What the offers of a distributor over `n` workers have to do with its input. -/
structure Dispatcher.Rotates (limits : RunLimits) (n : Nat) (x : Dispatcher) : Prop where
  lane : ∀ t ∈ x.tenders, ∃ r, t.batch.run = some r ∧ r < x.sequencer.issued ∧ t.child = r % n
  order : (x.tenders.map Tender.batch).Pairwise OrderedBatch.Precedes
  causes : ∀ t ∈ x.tenders, t.batch.ComesFrom t.cause
  /-- The first batch that brings its run to a limit is the last one of the run. -/
  crossing : ∀ pre b, pre ++ [b] <+: x.tenders.map Tender.batch → b.records ≠ [] →
    ∀ r, b.run = some r → (b.isLast = true ↔ ¬limits.Below r (pre ++ [b]))
  /-- A batch without records ends a run that is below the limits. -/
  marker : ∀ pre b, pre ++ [b] <+: x.tenders.map Tender.batch → b.records = [] →
    b.isLast = true ∧ ∀ r, b.run = some r → limits.Below r pre
  going : ∀ o, x.distributor.openRun = some o →
    o.records < limits.maxRecords ∧ o.bytes < limits.maxBytes
  contents : filled (x.tenders.map fun t => t.batch.records) <+: filled x.inputs
  /-- Between callbacks, all that was given has been offered. -/
  idle : x.distributor.agenda = [] →
    filled (x.tenders.map fun t => t.batch.records) = filled x.inputs
    ∧ (∀ o, x.distributor.openRun = some o →
        o.records = runTotal List.length o.run (x.tenders.map Tender.batch)
        ∧ o.bytes = runTotal Batch.bytes o.run (x.tenders.map Tender.batch))
    ∧ ∀ r < x.sequencer.issued, x.distributor.openRun.map OpenRun.run ≠ some r →
        EndsOnce r (x.tenders.map Tender.batch)
  ended : x.distributor.agenda = [] → x.ended = true → x.distributor.openRun = none

theorem Ruled.endsOnce {limits : RunLimits} {issued r : Nat} {opened : Option OpenRun}
    {inputs : List Batch} {l : List OrderedBatch} (h : Ruled limits issued opened inputs l)
    (hr : r < issued) (hne : opened.map OpenRun.run ≠ some r) : EndsOnce r l := by
  obtain hopen | ⟨b, hb, hbr, hlast⟩ := h.ended r hr
  · exact absurd hopen hne
  · obtain ⟨pre, post, rfl⟩ := List.append_of_mem hb
    obtain ⟨-, hpost, hpre⟩ := List.pairwise_append.1 h.order
    refine ⟨pre, b, post, rfl, hbr, hlast, fun c hc hcr => ?_, fun c hc hcr => ?_⟩
    · by_contra hcl
      exact Nat.lt_irrefl r ((hpre c hc b List.mem_cons_self r r hcr hbr).2 (by simpa using hcl))
    · exact Nat.lt_irrefl r ((List.rel_of_pairwise_cons hpost hc r r hbr hcr).2 hlast)

/-- Whatever becomes of its sends, a distributor over workers offers in this way. -/
theorem rotates_of_moves {limits : RunLimits} {sendTimeout n : Nat} (hn : 0 < n) {x : Dispatcher}
    (h : Relation.ReflTransGen Dispatcher.Move (.start limits sendTimeout n) x) :
    x.Rotates limits n := by
  have hs : x.Sound limits n := by
    induction h with
    | refl => exact .start limits sendTimeout hn
    | tail _ hm ih => exact ih.move hm
  have hp : x.tenders.map Tender.batch <+: x.batches := List.prefix_append _ _
  have hrecords : x.tenders.map (fun t => t.batch.records)
      = (x.tenders.map Tender.batch).map OrderedBatch.records := by simp
  refine ⟨fun t ht => ?_, hs.ruled.order.sublist hp.sublist, hs.causes,
    fun pre b hb => hs.ruled.crossing pre b (hb.trans hp),
    fun pre b hb => hs.ruled.marker pre b (hb.trans hp), fun o ho => ?_, ?_, fun ha => ?_,
    fun ha he => ?_⟩
  · obtain ⟨r, hr, hlt⟩ := hs.ruled.known t.batch (hp.subset (List.mem_map_of_mem ht))
    have hlane := hs.lane t ht
    rw [hr] at hlane
    exact ⟨r, hr, hlt, (Option.some.inj hlane).symm⟩
  · obtain ⟨h1, h2⟩ := hs.ruled.sums o ho
    rw [h1, h2]
    exact hs.ruled.below o ho
  · rw [hrecords, ← hs.ruled.contents]
    exact (hp.map _).filter _
  · have hall : x.batches = x.tenders.map Tender.batch := by simp [Dispatcher.batches, ha]
    have hruled := hall ▸ hs.ruled
    exact ⟨hrecords ▸ hruled.contents, hruled.sums, fun r hr hne => hruled.endsOnce hr hne⟩
  · have hdel := hs.delivers
    rw [ha, he] at hdel
    simpa using hdel.2.2.2 rfl

/-- Of two runs, the first loses its last batch to a full queue and the second its only batch to a
closed one. Each goes to its worker and is ended. -/
theorem rotates_two_lossy_runs :
    ∃ x, Relation.ReflTransGen Dispatcher.Move (.start ⟨2, 100, 10⟩ 5 2) x
      ∧ x.Rotates ⟨2, 100, 10⟩ 2 ∧ x.distributor.agenda = [] ∧ x.ended = true
      ∧ x.tenders.map (fun t => (t.child, t.batch.run, t.batch.records.length, t.batch.isLast))
        = [(0, some 0, 1, false), (0, some 0, 1, true), (1, some 1, 1, false), (1, some 1, 0, true)]
      ∧ x.books.counters.recordsLost = 2 ∧ x.books.counters.sendTimeouts = 1 := by
  have h := Relation.ReflTransGen.refl (r := Dispatcher.Move) (a := .start ⟨2, 100, 10⟩ 5 2)
  have h := h.tail (.receive 0 5 [{ size := 1 }] rfl rfl)
  have h := h.tail (.offer 0 (q := some { capacity := 1 }) rfl rfl rfl)
  have h := h.tail (.receive 1 6 [{ size := 2 }] rfl rfl)
  have h := h.tail (.offer 6 (q := some { capacity := 1, items := [default] }) rfl rfl rfl)
  have h := h.tail (.rotate rfl)
  have h := h.tail (.receive 7 12 [{ size := 3 }] rfl rfl)
  have h := h.tail (.offer 7 (q := some { capacity := 1, isRead := false }) rfl rfl rfl)
  have h := h.tail (.stop 8 rfl rfl)
  have h := h.tail (.offer 8 (q := some { capacity := 1 }) rfl rfl rfl)
  have h := h.tail (.rotate rfl)
  have h := h.tail (.letGo rfl)
  have h := h.tail (.awaited rfl)
  exact ⟨_, h, rotates_of_moves (by decide) h, rfl, rfl, rfl, rfl, rfl⟩

end LogPipeline
