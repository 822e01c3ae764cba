import LogPipeline.Proofs.Lifetimes

/-!
# What a distributor has offered

Every batch of a run was offered to one member, which took it or did not. What a member has in hand
once it has done everything follows from the batches it took (`Child.settled`): the run of the last
of them, unless that one was the end of its run. Every run that is no longer open was ended by one
batch, the last of the run. All this is kept whatever happens (`Pipeline.Sound.dispatched_step`).
-/

namespace LogPipeline

/-- A batch that was offered to a member, and whether it was taken. -/
structure Offer where
  child : Nat
  batch : OrderedBatch
  taken : Bool

/-- The batches that a member took. -/
def given (k : Nat) (l : List Offer) : List OrderedBatch :=
  (l.filter fun o => o.taken && o.child == k).map Offer.batch

theorem given_concat (k : Nat) (l : List Offer) (o : Offer) :
    given k (l ++ [o]) = given k l ++ if o.taken = true ∧ o.child = k then [o.batch] else [] := by
  unfold given
  by_cases h : o.taken = true ∧ o.child = k
  · simp [h]
  · rw [if_neg h, List.append_nil, List.filter_append, List.filter_cons_of_neg (by simpa using h)]
    simp

/-! ## The run that stays in hand -/

/-- The run in hand after a task. -/
def Task.settle (run : Option Nat) : Task → Option Nat
  | join n | adopt n => some n
  | finish | complete => none
  | _ => run

/-- The run in hand after a batch. -/
def OrderedBatch.settle (run : Option Nat) (b : OrderedBatch) : Option Nat :=
  if b.isLast then none else b.run.or run

/-- The run in hand once everything on the agenda is done. -/
def Processor.settled (p : Processor) : Option Nat := p.agenda.foldl Task.settle p.run

/-- The run in hand once everything that is queued is done. -/
def Child.settled (c : Child) : Option Nat :=
  c.queue.items.foldl OrderedBatch.settle c.member.processor.settled

namespace Processor

variable {now deadline : Instant} {p p' : Processor} {s s' : Sequencer} {b b' : Books}

theorem foldl_settle (run : Option Nat) {l : List Task}
    (h : ∀ t ∈ l, ∀ run, Task.settle run t = run) : l.foldl Task.settle run = run := by
  induction l generalizing run with
  | nil => rfl
  | cons t l ih =>
    rw [List.foldl_cons, h t List.mem_cons_self]
    exact ih run fun u hu => h u (List.mem_cons_of_mem _ hu)

theorem foldl_settle_emits (run : Option Nat) (c : Option Chunk) (l : List Task) :
    (c.toList.map Task.emit ++ l).foldl Task.settle run = l.foldl Task.settle run := by
  rcases c with _ | c <;> rfl

theorem settled_step (hs : Step now p s b p' s' b') : p'.settled = p.settled := by
  unfold settled
  cases hs with
  | hold ha ht htasks =>
    rw [ha]
    rcases htasks with rfl | rfl <;> rfl
  | joinSame ha hr =>
    rw [ha, List.foldl_cons]
    simp [hr, Task.settle]
  | written ha hv hw =>
    rw [ha]
    exact foldl_settle_emits ..
  | finish ha =>
    rw [ha]
    exact foldl_settle_emits ..
  | stale ha =>
    rw [ha]
    exact foldl_settle_emits ..
  | rest hl => rfl
  | _ ha =>
    rw [ha]
    rfl

theorem settled_receive (batch : OrderedBatch) (ha : p.agenda = []) :
    (p.receive batch deadline).settled = batch.settle p.settled := by
  have hrecords : ∀ run : Option Nat,
      (batch.records.map Task.process).foldl Task.settle run = run := by
    intro run
    refine foldl_settle run fun t ht => ?_
    obtain ⟨r, -, rfl⟩ := List.mem_map.1 ht
    exact fun _ => rfl
  have hp : p.settled = p.run := by simp [settled, ha]
  rw [hp]
  simp only [settled, receive, OrderedBatch.settle, List.foldl_append, hrecords]
  rcases batch.run with _ | n <;> cases batch.isLast <;> rfl

theorem settled_tick (ha : p.agenda = []) : (p.tick now).settled = p.settled := by
  rw [settled, settled, ha]
  rfl

/-- No run stays in hand at the end. -/
theorem settled_stop (now : Instant) (p : Processor) : (p.stop now).settled = none := by
  unfold Processor.stop
  dsimp only
  split
  · rfl
  · rename_i hr
    have hrun : p.run = none := by simpa using hr
    split
    · simpa [settled] using hrun
    · split
      · simp [settled, hrun, Task.settle]
      · simp only [settled, hrun]
        refine foldl_settle none fun t ht => ?_
        obtain ⟨c, -, rfl⟩ := List.mem_map.1 ht
        exact fun _ => rfl

end Processor

theorem Member.settled_acts {now : Instant} {x x' : Place} (hx : Acts now x x') :
    x'.member.processor.settled = x.member.processor.settled := by
  unfold Processor.settled
  cases hx with
  | ask ha ho => simp [Processor.asking, Processor.next, ha, Task.settle]
  | refuse ha => simp [Processor.handedOver, Processor.next, ha, Task.settle]
  | give ha hr => simp [Processor.handedOver, Processor.next, ha, Task.settle]
  | giveUp ha => simp [Processor.handedOver, Processor.next, ha, Task.settle]
  | task hs => exact Processor.settled_step hs
  | _ => rfl

theorem Child.settled_push (c : Child) (b : OrderedBatch) :
    Child.settled { c with queue := c.queue.push b } = b.settle c.settled := by
  simp [Child.settled]

theorem Worker.Calls.ended {α : Type} {now : Instant} {ended : Bool} {q q' : Queue α}
    {w w' : Worker} {cb : Callback α} (hc : w.Calls now ended q cb w' q') : w.ended = false := by
  cases hc with
  | _ hp => simp [Worker.ended, hp]

/-- What a member takes from its queue it has taken before. -/
theorem Child.settled_call {s : Sequencer} {n k : Nat} {c : Child} {now : Instant} {ended : Bool}
    {cb : Callback OrderedBatch} {w : Worker} {q : Queue OrderedBatch} (h : c.Sound s n k)
    (hb : c.member.worker.busy = false) (hc : c.member.worker.Calls now ended c.queue cb w q) :
    Child.settled ⟨q, c.member.begin now cb w⟩ = if w.ended then none else c.settled := by
  have ha := h.member.idle hb
  cases hc with
  | input hp hq =>
    simp [Child.settled, Member.begin, hq, Processor.settled_receive _ ha, Worker.ended, hp]
  | tick hp => simp [Child.settled, Member.begin, Processor.settled_tick ha, Worker.ended, hp]
  | lastTick hp => simp [Child.settled, Member.begin, Processor.settled_tick ha, Worker.ended]
  | stop hp =>
    have hq := (h.member.tends.emptied (by simp [hp])).2
    simp [Child.settled, Member.begin, Processor.settled_stop, Worker.ended, hq]

/-! ## Batches and runs -/

/-- The batch of a delivery. -/
def Delivery.batch? : Delivery → Option OrderedBatch
  | offer b => some b
  | _ => none

/-- All batches that were offered or are about to be. -/
def Distributor.batches (l : List Offer) (d : Distributor) : List OrderedBatch :=
  l.map Offer.batch ++ d.agenda.filterMap Delivery.batch?

/-- What was offered explains what the members have in hand and which runs are over. -/
structure Dispatched (l : List Offer) (issued : Nat) (d : Distributor) (cs : List Child) :
    Prop where
  serving : ∀ (k : Nat) (c : Child), cs[k]? = some c → c.member.worker.ended = false →
    c.settled = (given k l).foldl OrderedBatch.settle none
  ended : ∀ c ∈ cs, c.member.worker.ended = true → c.settled = none
  lane : ∀ o ∈ l, ∀ r, o.batch.run = some r → o.child = r % cs.length
  known : ∀ b ∈ d.batches l, ∃ r, b.run = some r ∧ r < issued
  closed : ∀ r < issued, d.openRun.map OpenRun.run = some r
    ∨ ∃ b ∈ d.batches l, b.run = some r ∧ b.isLast = true
  order : (d.batches l).Pairwise fun b b' => b.isLast = true → b.run ≠ b'.run
  running : ∀ b ∈ d.batches l, b.isLast = true → b.run ≠ d.openRun.map OpenRun.run

namespace Dispatched

variable {l : List Offer} {issued issued' : Nat} {d d' : Distributor} {cs cs' : List Child}

theorem of_distributor (h : Dispatched l issued d cs) (ha : d'.batches l = d.batches l)
    (ho : d'.openRun = d.openRun) : Dispatched l issued d' cs :=
  ⟨h.serving, h.ended, h.lane, ha ▸ h.known, fun r hr => ho ▸ ha ▸ h.closed r hr, ha ▸ h.order,
    ho ▸ ha ▸ h.running⟩

/-- A batch of the open run, or of a new one, is to be offered. -/
theorem of_offer (h : Dispatched l issued d cs) (ha : d.agenda = []) {b : OrderedBatch} {r : Nat}
    {t : List Delivery} (hb : b.run = some r)
    (hr : d.openRun.map OpenRun.run = some r ∨ d.openRun = none ∧ r = issued)
    (ha' : d'.agenda = .offer b :: t) (ht : t.filterMap Delivery.batch? = [])
    (hlast : b.isLast = true ∧ d'.openRun = none
      ∨ b.isLast = false ∧ d'.openRun.map OpenRun.run = some r)
    (hle : r ≤ issued) (hi : issued' = max issued (r + 1)) : Dispatched l issued' d' cs := by
  have hbatches : d'.batches l = d.batches l ++ [b] := by
    simp only [Distributor.batches, ha, ha']
    rw [List.filterMap_cons_some (rfl : Delivery.batch? (.offer b) = some b), ht]
    simp
  -- an open run has not ended, and a new one is above all others
  have hfresh : ∀ x ∈ d.batches l, x.isLast = true → x.run ≠ some r := by
    intro x hx hl
    rcases hr with hr | ⟨-, rfl⟩
    · exact hr ▸ h.running x hx hl
    · obtain ⟨r', hr', hlt'⟩ := h.known x hx
      rw [hr']
      rintro ⟨⟩
      exact Nat.lt_irrefl _ hlt'
  refine ⟨h.serving, h.ended, h.lane, fun x hx => ?_, fun k hk => ?_, ?_, fun x hx hl => ?_⟩
  · rw [hbatches] at hx
    rcases List.mem_append.1 hx with hx | hx
    · obtain ⟨r', hr', hlt'⟩ := h.known x hx
      exact ⟨r', hr', by omega⟩
    · rw [List.mem_singleton.1 hx]
      exact ⟨r, hb, by omega⟩
  · have hcase : k = r → d'.openRun.map OpenRun.run = some k
        ∨ ∃ x ∈ d'.batches l, x.run = some k ∧ x.isLast = true := by
      rintro rfl
      rcases hlast with ⟨hl, -⟩ | ⟨-, ho⟩
      · exact .inr ⟨b, by simp [hbatches], hb, hl⟩
      · exact .inl ho
    -- a run is open, or over, or the one of this batch
    rcases (by omega : k < issued ∨ k = r) with hk | hk
    · rcases h.closed k hk with ho | ⟨x, hx, hxr, hxl⟩
      · refine hcase ?_
        rcases hr with hr | ⟨hr, -⟩
        · exact Option.some.inj (ho.symm.trans hr)
        · simp [hr] at ho
      · exact .inr ⟨x, by simp [hbatches, hx], hxr, hxl⟩
    · exact hcase hk
  · rw [hbatches]
    refine List.pairwise_append.2 ⟨h.order, List.pairwise_singleton _ _, fun x hx y hy hl => ?_⟩
    rw [List.mem_singleton.1 hy, hb]
    exact hfresh x hx hl
  · rw [hbatches] at hx
    rcases List.mem_append.1 hx with hx | hx
    · rcases hlast with ⟨-, ho⟩ | ⟨-, ho⟩
      · obtain ⟨r', hr', -⟩ := h.known x hx
        simp [hr', ho]
      · rw [ho]
        exact hfresh x hx hl
    · rw [List.mem_singleton.1 hx] at hl ⊢
      rcases hlast with ⟨-, ho⟩ | ⟨hf, -⟩
      · simp [hb, ho]
      · simp [hf] at hl

theorem receive (h : Dispatched l issued d cs) (ha : d.agenda = [])
    (ho : ∀ o, d.openRun = some o → o.run < issued) {s : Sequencer} (hs : s.issued = issued)
    (now deadline : Instant) (b : Batch) :
    Dispatched l (d.receive now deadline b s).2.issued (d.receive now deadline b s).1 cs := by
  unfold Distributor.receive
  split
  · rw [hs]
    exact h.of_distributor (by simp [Distributor.batches, ha]) rfl
  · rcases hopen : d.openRun with _ | o
    · simp only [Distributor.runFor, hopen]
      split
      · refine h.of_offer (b := ⟨b, some s.issued, true⟩) ha rfl (.inr ⟨hopen, hs⟩) rfl rfl
          (.inl ⟨rfl, rfl⟩) (by omega) ?_
        simp [hs]
      · refine h.of_offer (b := ⟨b, some s.issued, false⟩) ha rfl (.inr ⟨hopen, hs⟩) rfl rfl
          (.inr ⟨rfl, rfl⟩) (by omega) ?_
        simp [hs]
    · have hlt := ho o hopen
      have hr : d.openRun.map OpenRun.run = some o.run := by rw [hopen]; rfl
      simp only [Distributor.runFor, hopen]
      split
      · refine h.of_offer (b := ⟨b, some o.run, true⟩) ha rfl (.inl hr) rfl rfl
          (.inl ⟨rfl, rfl⟩) (by omega) ?_
        change s.issued = _
        omega
      · refine h.of_offer (b := ⟨b, some o.run, false⟩) ha rfl (.inl hr) rfl rfl
          (.inr ⟨rfl, rfl⟩) (by omega) ?_
        rw [Sequencer.issued_share]
        omega

theorem closing (h : Dispatched l issued d cs) (ha : d.agenda = [])
    (ho : ∀ o, d.openRun = some o → o.run < issued) {t : List Delivery}
    (ht : t.filterMap Delivery.batch? = []) (ha' : d'.agenda = d.closing ++ t)
    (hopen : d'.openRun = none) : Dispatched l issued d' cs := by
  rcases hd : d.openRun with _ | o
  · refine h.of_distributor ?_ (hopen.trans hd.symm)
    simp [Distributor.batches, ha, ha', Distributor.closing, hd, ht]
  · have hlt := ho o hd
    have hr : d.openRun.map OpenRun.run = some o.run := by rw [hd]; rfl
    have hag : d'.agenda = .offer ⟨[], some o.run, true⟩ :: .rotate :: t := by
      simp [ha', Distributor.closing, hd]
    exact h.of_offer ha rfl (.inl hr) hag ht (.inl ⟨rfl, hopen⟩) (by omega) (by omega)

theorem tick (h : Dispatched l issued d cs) (ha : d.agenda = [])
    (ho : ∀ o, d.openRun = some o → o.run < issued) (now : Instant) :
    Dispatched l issued (d.tick now) cs := by
  unfold Distributor.tick
  dsimp only
  split
  · exact h.closing ha ho (t := []) rfl (List.append_nil _).symm rfl
  · exact h.of_distributor (by simp [Distributor.batches, ha]) rfl

theorem stop (h : Dispatched l issued d cs) (ha : d.agenda = [])
    (ho : ∀ o, d.openRun = some o → o.run < issued) (now : Instant) :
    Dispatched l issued (d.stop now) cs :=
  h.closing ha ho (t := [.closeChildren, .awaitChildren]) rfl rfl rfl

/-- A member goes on, or a batch that it takes is queued for it. -/
theorem of_child (h : Dispatched l issued d cs) {k : Nat} {c c' : Child} {l' : List Offer}
    (hk : cs[k]? = some c)
    (hserving : c'.member.worker.ended = false → c.member.worker.ended = false
      ∧ c'.settled = (given k l').foldl OrderedBatch.settle none)
    (hended : c'.member.worker.ended = true → c'.settled = none)
    (hothers : ∀ j, j ≠ k → given j l' = given j l)
    (hlane : ∀ o ∈ l', ∀ r, o.batch.run = some r → o.child = r % cs.length)
    (hb : d'.batches l' = d.batches l) (ho : d'.openRun = d.openRun) :
    Dispatched l' issued d' (cs.set k c') := by
  refine ⟨fun j e hj he => ?_, fun e he hend => ?_, ?_, hb ▸ h.known, fun r hr => ?_, hb ▸ h.order,
    ?_⟩
  · rw [List.getElem?_set] at hj
    split at hj
    · rename_i hkj
      subst hkj
      obtain rfl : c' = e := by simpa [(List.getElem?_eq_some_iff.1 hk).1] using hj
      exact (hserving he).2
    · rename_i hne
      rw [hothers j (Ne.symm hne)]
      exact h.serving j e hj he
  · rcases List.mem_or_eq_of_mem_set he with he | rfl
    · exact h.ended e he hend
    · exact hended hend
  · rw [List.length_set]
    exact hlane
  · rw [hb, ho]
    exact h.closed r hr
  · rw [hb, ho]
    exact h.running

theorem letGo {t : List Delivery} (h : Dispatched l issued d cs)
    (ha : d.agenda = .closeChildren :: t) :
    Dispatched l issued d.letGo (cs.map fun c => { c with queue := c.queue.close }) := by
  have hb : d.letGo.batches l = d.batches l := by
    simp only [Distributor.batches, Distributor.letGo, Distributor.next, ha]
    rfl
  refine ⟨fun k c hk he => ?_, fun c hc he => ?_, ?_, hb ▸ h.known, fun r hr => ?_, hb ▸ h.order,
    hb ▸ h.running⟩
  · rw [List.getElem?_map] at hk
    obtain ⟨c, hc, rfl⟩ := Option.map_eq_some_iff.1 hk
    exact h.serving k c hc he
  · obtain ⟨e, hmem, rfl⟩ := List.mem_map.1 hc
    exact h.ended e hmem he
  · rw [List.length_map]
    exact h.lane
  · rw [hb]
    exact h.closed r hr

section Members

variable {s : Sequencer} {input : Queue Batch} {w : Worker} {k : Nat} {c : Child} {b : OrderedBatch}
  {t : List Delivery} {now : Instant}

theorem batches_next (ha : d.agenda = .offer b :: t) (k : Nat) (taken : Bool) :
    d.next.batches (l ++ [⟨k, b, taken⟩]) = d.batches l := by
  simp only [Distributor.batches, Distributor.next, ha]
  rw [List.filterMap_cons_some (rfl : Delivery.batch? (.offer b) = some b)]
  simp

theorem lane_next (h : Dispatched l issued d cs) (hteam : TeamSound s input w d cs)
    (ha : d.agenda = .offer b :: t) (taken : Bool) :
    ∀ o ∈ l ++ [⟨d.current, b, taken⟩], ∀ r, o.batch.run = some r → o.child = r % cs.length := by
  have hdel := hteam.delivers
  rw [ha] at hdel
  obtain ⟨-, ⟨r', hr', -, hcur⟩, -⟩ := hdel
  intro o ho r hr
  rcases List.mem_append.1 ho with ho | ho
  · exact h.lane o ho r hr
  · rw [List.mem_singleton.1 ho] at hr ⊢
    obtain rfl := Option.some.inj (hr'.symm.trans hr)
    exact hcur

theorem taken (h : Dispatched l issued d cs) (hteam : TeamSound s input w d cs)
    (hch : d.children ≠ 0) (ha : d.agenda = .offer b :: t) (hk : cs[d.current]? = some c) :
    Dispatched (l ++ [⟨d.current, b, true⟩]) issued d.next
      (cs.set d.current { c with queue := c.queue.push b }) := by
  have hserve : c.member.worker.ended = false := by
    refine Bool.eq_false_iff.2 fun he => ?_
    have hp : c.member.worker.phase ≠ .serving := fun hp => by simp [Worker.ended, hp] at he
    have hclosed := ((hteam.child _ c hk).member.tends.emptied hp).1
    have hopen := hteam.queues c (List.mem_of_getElem? hk)
    simp [hclosed, hch] at hopen
  refine h.of_child hk (fun _ => ⟨hserve, ?_⟩) (fun he => ?_) (fun j hj => ?_)
    (h.lane_next hteam ha true) (batches_next ha _ _) rfl
  · rw [Child.settled_push, h.serving _ c hk hserve, given_concat, if_pos ⟨rfl, rfl⟩,
      List.foldl_append]
    rfl
  · simp [hserve] at he
  · rw [given_concat, if_neg fun hc => hj hc.2.symm, List.append_nil]

theorem lost (h : Dispatched l issued d cs) (hteam : TeamSound s input w d cs)
    (ha : d.agenda = .offer b :: t) :
    Dispatched (l ++ [⟨d.current, b, false⟩]) issued d.next cs := by
  have hb := batches_next (l := l) ha d.current false
  refine ⟨fun k c hk he => ?_, h.ended, h.lane_next hteam ha false, hb ▸ h.known, fun r hr => ?_,
    hb ▸ h.order, hb ▸ h.running⟩
  · rw [given_concat, if_neg (by simp), List.append_nil]
    exact h.serving k c hk he
  · rw [hb]
    exact h.closed r hr

theorem childActs (h : Dispatched l issued d cs) (hteam : TeamSound s input w d cs)
    (hk : cs[k]? = some c) (hb : c.member.worker.busy = true) {o : Output} {books : Books}
    {x : Member.Place} (hx : Member.Acts now ⟨c.member, s, o, books⟩ x) :
    Dispatched l issued d (cs.set k ⟨x.member.worker.leave c.queue, x.member⟩) := by
  have hm := (hteam.child k c hk).member
  have hitems := Member.Sound.items_leave (x := ⟨c.member, s, o, books⟩) hm hb hm.sound.no_crash hx
  have hend : x.member.worker.ended = c.member.worker.ended := by
    cases hx with
    | finish ha => exact Worker.ended_finish _
    | crash ha => exact absurd ha (hm.sound.no_crash _)
    | _ => rfl
  have hsettled : Child.settled ⟨x.member.worker.leave c.queue, x.member⟩ = c.settled := by
    simp only [Child.settled, hitems, Member.settled_acts hx]
  refine h.of_child hk (fun he => ?_) (fun he => ?_) (fun _ _ => rfl) h.lane rfl rfl
  · have he : c.member.worker.ended = false := hend ▸ he
    exact ⟨he, hsettled.trans (h.serving k c hk he)⟩
  · exact hsettled.trans (h.ended c (List.mem_of_getElem? hk) (hend ▸ he))

theorem childCall (h : Dispatched l issued d cs) (hteam : TeamSound s input w d cs)
    (hk : cs[k]? = some c) (hb : c.member.worker.busy = false) {ended : Bool}
    {cb : Callback OrderedBatch} {w' : Worker} {q : Queue OrderedBatch}
    (hc : c.member.worker.Calls now ended c.queue cb w' q) :
    Dispatched l issued d (cs.set k ⟨q, c.member.begin now cb w'⟩) := by
  have hsettled := Child.settled_call (hteam.child k c hk) hb hc
  have hw : (c.member.begin now cb w').worker = w' := by cases cb <;> rfl
  refine h.of_child hk (fun he => ?_) (fun he => ?_) (fun _ _ => rfl) h.lane rfl rfl
  · rw [hw] at he
    rw [hsettled, if_neg (by simp [he])]
    exact ⟨hc.ended, h.serving k c hk hc.ended⟩
  · rw [hw] at he
    rw [hsettled, if_pos he]

end Members

end Dispatched

/-! ## Steps of a pipeline -/

/-- How much is queued for the members. -/
def queued (cs : List Child) : Nat := total (fun c => c.queue.items.length) cs

theorem lt_queued_push {cs : List Child} {k : Nat} {c : Child} (hk : cs[k]? = some c)
    (b : OrderedBatch) : queued cs < queued (cs.set k { c with queue := c.queue.push b }) := by
  have htotal := total_set (fun c => c.queue.items.length) hk { c with queue := c.queue.push b }
  simp only [Queue.push_items, List.length_append, List.length_singleton] at htotal
  unfold queued
  omega

namespace Pipeline

variable {i : Nat} {role : Role} {p p' : Pipeline} {gr gr' : Ground} {l : List Offer}
  {w w' : Worker} {d d' : Distributor} {cs cs' : List Child}

/-- The batch that the distributor has offered between two states, if it has: one is fewer to be
offered, and was taken if more is queued. -/
def offered (p p' : Pipeline) : List Offer :=
  match p.crew, p'.crew with
  | some (.team _ d cs), some (.team _ d' cs') =>
    match d.agenda with
    | .offer b :: l =>
      if d'.agenda.length ≤ l.length then [⟨d.current, b, decide (queued cs < queued cs')⟩] else []
    | _ => []
  | _, _ => []

theorem offered_same (hc : p.crew = some (.team w d cs)) (hc' : p'.crew = some (.team w' d' cs'))
    (ha : d'.agenda = d.agenda) : p.offered p' = [] := by
  simp only [offered, hc, hc']
  split
  · rename_i hd
    simp [ha, hd]
  · rfl

theorem offered_calm (hc : p.crew = some (.team w d cs))
    (ha : ∀ b l, d.agenda ≠ .offer b :: l) : p.offered p' = [] := by
  unfold offered
  split
  · rename_i hc' _
    obtain ⟨rfl, rfl, rfl⟩ := by simpa using hc.symm.trans hc'
    split
    · exact absurd ‹_› (ha _ _)
    · rfl
  · rfl

theorem offered_next (hc : p.crew = some (.team w d cs))
    (hc' : p'.crew = some (.team w' d.next cs')) {b : OrderedBatch} {t : List Delivery}
    (ha : d.agenda = .offer b :: t) :
    p.offered p' = [⟨d.current, b, decide (queued cs < queued cs')⟩] := by
  simp [offered, hc, hc', ha, Distributor.next]

theorem offered_of_crew (hc : p'.crew = p.crew) : p.offered p' = [] := by
  rcases hcrew : p.crew with _ | (m | ⟨w, d, cs⟩)
  · simp [offered, hcrew]
  · simp [offered, hcrew]
  · exact offered_same hcrew (hc.trans hcrew) rfl

/-- What was offered explains the state of a pipeline. -/
structure Dispatched (l : List Offer) (p : Pipeline) : Prop where
  team : ∀ w d cs, p.crew = some (.team w d cs) →
    LogPipeline.Dispatched l p.sequencer.issued d cs
  crewless : p.crew = none → l = []

theorem Dispatched.of_crew (h : p.Dispatched l) (hc : p'.crew = p.crew)
    (hs : p'.sequencer = p.sequencer) : p'.Dispatched (l ++ p.offered p') := by
  rw [offered_of_crew hc, List.append_nil]
  exact ⟨fun w d cs hcrew => hs ▸ h.team w d cs (hc ▸ hcrew), fun hn => h.crewless (hc ▸ hn)⟩

theorem Dispatched.of_team (hc : p'.crew = some (.team w d cs))
    (h : LogPipeline.Dispatched l p'.sequencer.issued d cs) : p'.Dispatched l := by
  refine ⟨fun w' d' cs' hc' => ?_, fun hn => by simp [hc] at hn⟩
  obtain ⟨rfl, rfl, rfl⟩ := by simpa using hc.symm.trans hc'
  exact h

theorem Dispatched.start {bp : Blueprint} {stages : Stages} {tag : String} {now : Instant}
    (hc : p.crew = some (.start bp stages tag now)) (hs : p.sequencer.issued = 0) :
    p.Dispatched [] := by
  unfold Crew.start at hc
  split at hc
  · exact ⟨fun w d cs hcrew => by simp [hc] at hcrew, fun _ => rfl⟩
  · refine .of_team hc ?_
    rw [hs]
    refine ⟨fun k c hk _ => ?_, fun c hc he => ?_, by simp, ?_, by simp, ?_, ?_⟩
    · obtain ⟨j, -, rfl⟩ := List.mem_map.1 (List.mem_of_getElem? hk)
      rfl
    · obtain ⟨j, -, rfl⟩ := List.mem_map.1 hc
      rfl
    all_goals simp [Distributor.batches]

theorem crew_windDown (p : Pipeline) :
    p.windDown.crew = p.crew ∧ p.windDown.sequencer = p.sequencer := by
  unfold windDown
  split <;> exact ⟨rfl, rfl⟩

theorem openRun_lt {s : Sequencer} {input : Queue Batch} (h : TeamSound s input w d cs)
    (hb : w.busy = false) (he : w.ended = false) : ∀ o, d.openRun = some o → o.run < s.issued := by
  intro o ho
  have := ((h.of_idle hb he).2.2.1 o ho).1
  omega

/-- What was offered explains the state after every step. -/
theorem Sound.dispatched_step (h : p.Sound) (hd : p.Dispatched l) (hs : Step i p gr role p' gr') :
    p'.Dispatched (l ++ p.offered p') := by
  cases hs with
  | launch hs ho hstages =>
    have hc := h.crewless (.inl hs)
    have hnil : l = [] := hd.crewless hc
    rw [hnil, show p.offered _ = [] by simp [offered, hc]]
    exact .start rfl (by simp [h.fresh hs])
  | drained hs hq => exact hd.of_crew p.crew_windDown.1 p.crew_windDown.2
  | crewGone hs hc => exact hd.of_crew p.crew_windDown.1 p.crew_windDown.2
  | member hc ho hb hx => exact ⟨fun w d cs hc => by simp at hc, fun hn => by simp at hn⟩
  | memberCall hc hb hcb => exact ⟨fun w d cs hc => by simp at hc, fun hn => by simp at hn⟩
  | distributed hc hb ha =>
    rw [offered_same hc rfl rfl, List.append_nil]
    exact .of_team rfl (hd.team _ _ _ hc)
  | @sent w d cs b t c hc hb ha hch hk hr hroom =>
    have hteam : TeamSound p.sequencer p.input w d cs := h.crew _ hc
    rw [offered_next hc rfl ha, decide_eq_true (lt_queued_push hk b)]
    exact .of_team rfl ((hd.team _ _ _ hc).taken hteam hch ha hk)
  | @unsent w d cs b t timedOut hc hb ha =>
    have hteam : TeamSound p.sequencer p.input w d cs := h.crew _ hc
    have hissued : (b.run.elim p.sequencer p.sequencer.release).issued = p.sequencer.issued := by
      cases b.run <;> simp
    have hqueued : ¬queued cs < queued cs := Nat.lt_irrefl _
    rw [offered_next hc (by exact rfl) ha, decide_eq_false hqueued]
    exact .of_team rfl (hissued ▸ (hd.team _ _ _ hc).lost hteam ha)
  | rotate hc hb ha =>
    rw [offered_calm hc (by simp [ha]), List.append_nil]
    refine .of_team rfl ((hd.team _ _ _ hc).of_distributor ?_ rfl)
    simp only [Distributor.batches, Distributor.rotate, Distributor.next, ha]
    rfl
  | @letGo w d cs t hc hb ha =>
    rw [offered_calm hc (by simp [ha]), List.append_nil]
    refine .of_team rfl ((hd.team _ _ _ hc).letGo ha)
  | awaited hc hb ha hs =>
    rw [offered_calm hc (by simp [ha]), List.append_nil]
    refine .of_team rfl ((hd.team _ _ _ hc).of_distributor ?_ rfl)
    simp only [Distributor.batches, Distributor.next, ha]
    rfl
  | receive hc hb hcb =>
    have hteam := h.crew _ hc
    have ha := TeamSound.idle hteam hb
    rw [offered_calm hc (by simp [ha]), List.append_nil]
    exact .of_team rfl ((hd.team _ _ _ hc).receive ha (openRun_lt hteam hb hcb.ended) rfl _ _ _)
  | tick hc hb hcb =>
    have hteam := h.crew _ hc
    have ha := TeamSound.idle hteam hb
    rw [offered_calm hc (by simp [ha]), List.append_nil]
    exact .of_team rfl ((hd.team _ _ _ hc).tick ha (openRun_lt hteam hb hcb.ended) _)
  | stop hc hb hcb =>
    have hteam := h.crew _ hc
    have ha := TeamSound.idle hteam hb
    rw [offered_calm hc (by simp [ha]), List.append_nil]
    exact .of_team rfl ((hd.team _ _ _ hc).stop ha (openRun_lt hteam hb hcb.ended) _)
  | @child w d cs k c o x hc hk ho hb hx =>
    have hteam : TeamSound p.sequencer p.input w d cs := h.crew _ hc
    have hm := (hteam.child k c hk).member
    rw [offered_same hc rfl rfl, List.append_nil]
    have hissued : x.sequencer.issued = p.sequencer.issued :=
      hm.issued_acts (x := ⟨c.member, p.sequencer, o, gr.books⟩) hx
    refine .of_team rfl (hissued ▸ (hd.team _ _ _ hc).childActs hteam hk hb hx)
  | @childCall w w' d cs k c cb q hc hk hb hcb =>
    have hteam : TeamSound p.sequencer p.input w d cs := h.crew _ hc
    rw [offered_same hc rfl rfl, List.append_nil]
    exact .of_team rfl ((hd.team _ _ _ hc).childCall hteam hk hb hcb)
  | _ => exact hd.of_crew rfl rfl

end Pipeline

end LogPipeline
