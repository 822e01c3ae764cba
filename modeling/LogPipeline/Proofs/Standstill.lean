import LogPipeline.Proofs.Journals
import Mathlib.Data.List.Pairwise

/-!
# Runs that stay open when nothing moves

A team stands still when no run is open, nothing is queued, and every member is idle or waits for
its turn. All runs have completed then, unless a batch is still to be offered or a member has a run
in hand (`TeamSound.cleared_iff_settled`). A member has one in hand if the end of the run was lost
and the last batch that it took was of the same run, and only then (`Dispatched.settled_of_pinned`,
`Dispatched.pinned_of_settled`). Such a run pins the release point (`Dispatched.next_le_of_pinned`).
-/

namespace LogPipeline

/-- No run is open, nothing is queued, and every member is idle or waits for its turn. -/
structure Still (s : Sequencer) (d : Distributor) (cs : List Child) : Prop where
  closed : d.openRun = none
  empty : ∀ c ∈ cs, c.queue.items = []
  resting : ∀ c ∈ cs, c.member.worker.busy = false ∨ c.member.processor.isWaiting s = true

instance (s : Sequencer) (d : Distributor) (cs : List Child) : Decidable (Still s d cs) :=
  decidable_of_iff (d.openRun = none ∧ (∀ c ∈ cs, c.queue.items = [])
      ∧ ∀ c ∈ cs, c.member.worker.busy = false ∨ c.member.processor.isWaiting s = true)
    ⟨fun ⟨h1, h2, h3⟩ => ⟨h1, h2, h3⟩, fun ⟨h1, h2, h3⟩ => ⟨h1, h2, h3⟩⟩

/-- Every run has completed, no member is blocked, and no chunk is held back. -/
structure Cleared (s : Sequencer) (cs : List Child) : Prop where
  completed : s.next = s.issued
  parked : s.parked = []
  free : ∀ c ∈ cs, c.member.worker.busy = false
  handed : ∀ c ∈ cs, c.member.processor.pending = []

/-- The end of run `r` was lost, and the last batch that its member took was of the same run. -/
def Pinned (l : List Offer) (cs : List Child) (r : Nat) : Prop :=
  ∃ o ∈ l, o.taken = false ∧ o.batch.isLast = true ∧ o.batch.run = some r
    ∧ ∃ c b, cs[o.child]? = some c ∧ c.member.worker.ended = false
      ∧ (given o.child l).getLast? = some b ∧ b.run = some r

/-! ## What is in hand -/

section Members

variable {s : Sequencer} {n k : Nat} {c : Child}

/-- The tickets of a waiting member are all above the release point, and there is one. -/
theorem Child.Sound.lt_of_waiting (h : c.Sound s n k)
    (hw : c.member.processor.isWaiting s = true) :
    c.tickets ≠ [] ∧ ∀ r ∈ c.tickets, s.next < r := by
  have hsorted := h.sorted
  unfold Processor.isWaiting at hw
  split at hw
  · rcases hr : c.member.processor.run with _ | m
    · simp [Processor.inTurn, hr] at hw
    · have hm : s.next < m := by
        simp only [Processor.inTurn, hr, Sequencer.isTurn, Bool.not_eq_true', Bool.or_eq_false_iff,
          decide_eq_false_iff_not] at hw
        omega
      simp only [Child.tickets, Processor.tickets, hr, Option.toList_some, List.cons_append,
        List.nil_append] at hsorted ⊢
      refine ⟨by simp, fun r hmem => ?_⟩
      rcases List.mem_cons.1 hmem with rfl | hmem
      · exact hm
      · have := (List.pairwise_cons.1 hsorted).1 r hmem
        omega
  · simp at hw

theorem Child.Sound.of_idle (h : c.Sound s n k) (hb : c.member.worker.busy = false)
    (hq : c.queue.items = []) :
    c.tickets = c.member.processor.run.toList ∧ c.settled = c.member.processor.run := by
  have ha := h.member.idle hb
  exact ⟨by simp [Child.tickets, Processor.tickets, ha, hq],
    by simp [Child.settled, Processor.settled, ha, hq]⟩

theorem Child.Sound.pending_eq_nil (h : c.Sound s n k) (hr : c.member.processor.run = none) :
    c.member.processor.pending = [] := by
  have hp := (h.member.sound.proper (by simp [Processor.stance, hr])).1
  simpa [Processor.stance] using hp

end Members

/-- A run that stays in hand was there before, or came with something that was done. -/
theorem mem_of_foldl {α : Type} {f : Option Nat → α → Option Nat} {g : α → Option Nat}
    (hf : ∀ x a r, f x a = some r → x = some r ∨ g a = some r) {l : List α} {x : Option Nat}
    {r : Nat} (h : l.foldl f x = some r) : x = some r ∨ r ∈ l.filterMap g := by
  induction l generalizing x with
  | nil => exact .inl h
  | cons a l ih =>
    rcases ih h with hx | hmem
    · rcases hf x a r hx with hx | ha
      · exact .inl hx
      · exact .inr (List.mem_filterMap.2 ⟨a, List.mem_cons_self, ha⟩)
    · obtain ⟨b, hb, hr⟩ := List.mem_filterMap.1 hmem
      exact .inr (List.mem_filterMap.2 ⟨b, List.mem_cons_of_mem _ hb, hr⟩)

theorem Task.settle_eq_some (x : Option Nat) (t : Task) (r : Nat) (h : t.settle x = some r) :
    x = some r ∨ t.ticket? = some r := by
  cases t <;> simp_all [settle, ticket?]

theorem OrderedBatch.settle_eq_some (x : Option Nat) (b : OrderedBatch) (r : Nat)
    (h : b.settle x = some r) : x = some r ∨ b.run = some r := by
  unfold settle at h
  split at h
  · simp at h
  · rcases hr : b.run with _ | n <;> simp_all

/-- A member has a ticket for the run that stays in hand. -/
theorem Child.mem_tickets_of_settled {c : Child} {r : Nat} (h : c.settled = some r) :
    r ∈ c.tickets := by
  unfold Child.tickets Processor.tickets
  rcases mem_of_foldl OrderedBatch.settle_eq_some h with h | h
  · rcases mem_of_foldl Task.settle_eq_some h with h | h
    · simp [h]
    · simp [h]
  · exact List.mem_append_right _ h

theorem foldl_settle_eq {l : List OrderedBatch} (h : ∀ b ∈ l, ∃ r, b.run = some r) :
    l.foldl OrderedBatch.settle none
      = l.getLast?.bind fun b => if b.isLast then none else b.run := by
  rcases List.eq_nil_or_concat l with rfl | ⟨l, b, rfl⟩
  · rfl
  · obtain ⟨r, hr⟩ := h b (by simp)
    simp [OrderedBatch.settle, hr]

/-! ## The release point -/

theorem Distributor.tickets_eq_nil {d : Distributor} (ho : d.openRun = none)
    (ha : ∀ b, .offer b ∉ d.agenda) : d.tickets = [] := by
  refine List.append_eq_nil_iff.2 ⟨by simp [ho], List.filterMap_eq_nil_iff.2 fun t ht => ?_⟩
  cases t with
  | offer b => exact absurd ht (ha b)
  | _ => rfl

/-- What is offered is of the latest run, as is the run that is open. -/
theorem Delivers.latest {n issued : Nat} {ending there : Bool} {current : Nat} {opened : Option Nat}
    {l : List Delivery} (h : Delivers n issued ending there current opened l) :
    (∀ r, opened = some r → r + 1 = issued)
      ∧ ∀ b, .offer b ∈ l → ∀ r, b.run = some r → r + 1 = issued := by
  induction l generalizing there current with
  | nil => exact ⟨fun r hr => (h.1 r hr).1, by simp⟩
  | cons t l ih =>
    cases t with
    | offer b =>
      obtain ⟨-, ⟨r, hr, hlast, -⟩, hl⟩ := h
      obtain ⟨h1, h2⟩ := ih hl
      refine ⟨h1, fun e he k hk => ?_⟩
      rcases List.mem_cons.1 he with he | he
      · obtain rfl := Delivery.offer.inj he
        obtain rfl := Option.some.inj (hr.symm.trans hk)
        exact hlast
      · exact h2 e he k hk
    | rotate => simpa using ih h.2.2
    | closeChildren => simpa using ih h.2.2.2
    | awaitChildren => simpa using ih h.2

namespace TeamSound

variable {s : Sequencer} {input : Queue Batch} {w : Worker} {d : Distributor} {cs : List Child}
  {l : List Offer}

/-- What the distributor has a ticket for is the latest run. -/
theorem ticket_eq (h : TeamSound s input w d cs) {r : Nat} (hr : r ∈ d.tickets) :
    r + 1 = s.issued := by
  obtain ⟨hopen, hoffer⟩ := h.delivers.latest
  unfold Distributor.tickets at hr
  rcases List.mem_append.1 hr with hr | hr
  · refine hopen r ?_
    cases ho : d.openRun <;> simp_all
  · obtain ⟨t, ht, hr⟩ := List.mem_filterMap.1 hr
    cases t with
    | offer b => exact hoffer b ht r hr
    | _ => simp [Delivery.ticket?] at hr

/-- Whoever holds the lowest open ticket has its turn. So nobody waits where the others have tickets
for nothing but the latest run. -/
theorem not_waiting (h : TeamSound s input w d cs)
    (hrest : ∀ c ∈ cs, (∀ r ∈ c.tickets, r ∈ d.tickets) ∨ c.member.processor.isWaiting s = true) :
    ∀ c ∈ cs, c.member.processor.isWaiting s = false := by
  intro c hc
  refine Bool.eq_false_iff.2 fun hw => ?_
  obtain ⟨k, hk⟩ := List.getElem?_of_mem hc
  obtain ⟨hsome, hlt⟩ := (h.child k c hk).lt_of_waiting hw
  obtain ⟨r, hr⟩ := List.exists_mem_of_ne_nil _ hsome
  have hmem : r ∈ s.references :=
    h.references.mem_iff.2 (List.mem_append_right _ (List.mem_flatMap.2 ⟨c, hc, hr⟩))
  have hlt := hlt r hr
  have hissued := h.valid.lt_issued r hmem
  -- the lowest open ticket is not that of the latest run
  have hnot : s.next ∉ d.tickets := fun hn => by
    have := h.ticket_eq hn
    omega
  have hnext := h.references.mem_iff.1 (h.valid.next_mem (by omega))
  rcases List.mem_append.1 hnext with hn | hn
  · exact hnot hn
  · obtain ⟨e, he, hn⟩ := List.mem_flatMap.1 hn
    obtain ⟨j, hj⟩ := List.getElem?_of_mem he
    rcases hrest e he with hsub | hw'
    · exact hnot (hsub _ hn)
    · exact Nat.lt_irrefl _ (((h.child j e hj).lt_of_waiting hw').2 _ hn)

/-- Without runs in hand nobody waits, and nobody holds a ticket. -/
theorem references_eq_nil (h : TeamSound s input w d cs) (hs : Still s d cs)
    (ha : ∀ b, .offer b ∉ d.agenda) (hc : ∀ c ∈ cs, c.settled = none) : s.references = [] := by
  have hidle : ∀ c ∈ cs, c.member.worker.busy = false → c.tickets = [] := by
    intro c hmem hb
    obtain ⟨k, hk⟩ := List.getElem?_of_mem hmem
    obtain ⟨h1, h2⟩ := (h.child k c hk).of_idle hb (hs.empty c hmem)
    simp [h1, ← h2, hc c hmem]
  have hfree := h.not_waiting fun c hmem =>
    (hs.resting c hmem).imp_left fun hb => by simp [hidle c hmem hb]
  have hnil : d.tickets ++ cs.flatMap Child.tickets = [] := by
    refine List.append_eq_nil_iff.2 ⟨Distributor.tickets_eq_nil hs.closed ha, ?_⟩
    refine List.flatMap_eq_nil_iff.2 fun c hmem => hidle c hmem ?_
    exact (hs.resting c hmem).resolve_right (by simp [hfree c hmem])
  exact List.perm_nil.1 (hnil ▸ h.references)

/-- In a standstill all runs have completed if nothing is to be offered and no run is in hand. -/
theorem cleared_iff_settled (h : TeamSound s input w d cs) (hd : Dispatched l s.issued d cs)
    (hs : Still s d cs) :
    Cleared s cs ↔ (∀ b, .offer b ∉ d.agenda) ∧ ∀ c ∈ cs, c.settled = none := by
  constructor
  · intro hc
    have href : s.references = [] := by
      refine List.eq_nil_iff_forall_not_mem.2 fun r hr => ?_
      have h1 := h.valid.lt_issued r hr
      have h2 := h.valid.le_of_mem r hr
      have h3 := hc.completed
      omega
    have hnil := h.references
    rw [href, List.nil_perm, List.append_eq_nil_iff, List.flatMap_eq_nil_iff] at hnil
    refine ⟨fun b hb => ?_, fun c hmem => ?_⟩
    · obtain ⟨r, hr, -⟩ := hd.known b (List.mem_append_right _
        (List.mem_filterMap.2 ⟨_, hb, rfl⟩))
      have : r ∈ d.tickets := List.mem_append_right _ (List.mem_filterMap.2 ⟨_, hb, hr⟩)
      simp [hnil.1] at this
    · obtain ⟨k, hk⟩ := List.getElem?_of_mem hmem
      obtain ⟨h1, h2⟩ := (h.child k c hk).of_idle (hc.free c hmem) (hs.empty c hmem)
      rw [h2]
      simpa [h1] using hnil.2 c hmem
  · rintro ⟨ha, hc⟩
    have href := h.references_eq_nil hs ha hc
    obtain ⟨hnext, hparked⟩ := h.valid.next_eq_issued href
    have hfree : ∀ c ∈ cs, c.member.worker.busy = false := by
      intro c hmem
      obtain ⟨k, hk⟩ := List.getElem?_of_mem hmem
      rcases hs.resting c hmem with hb | hw
      · exact hb
      · have hnil := h.references
        rw [href, List.nil_perm, List.append_eq_nil_iff, List.flatMap_eq_nil_iff] at hnil
        exact absurd (hnil.2 c hmem) ((h.child k c hk).lt_of_waiting hw).1
    refine ⟨hnext, hparked, hfree, fun c hmem => ?_⟩
    obtain ⟨k, hk⟩ := List.getElem?_of_mem hmem
    have hrun := ((h.child k c hk).of_idle (hfree c hmem) (hs.empty c hmem)).2
    exact (h.child k c hk).pending_eq_nil (hrun.symm.trans (hc c hmem))

end TeamSound

/-! ## Ends that were lost -/

namespace Dispatched

variable {l : List Offer} {issued : Nat} {d : Distributor} {cs : List Child}

theorem batch_mem {o : Offer} (ho : o ∈ l) : o.batch ∈ d.batches l :=
  List.mem_append_left _ (List.mem_map_of_mem ho)

theorem mem_given {k : Nat} {b : OrderedBatch} (hb : b ∈ given k l) :
    ∃ o ∈ l, o.taken = true ∧ o.child = k ∧ o.batch = b := by
  obtain ⟨o, ho, rfl⟩ := List.mem_map.1 hb
  obtain ⟨ho, ht⟩ := List.mem_filter.1 ho
  exact ⟨o, ho, by simpa [and_assoc] using ht⟩

/-- A run has one end at most. -/
theorem eq_of_ends (h : Dispatched l issued d cs) {o o' : Offer} (ho : o ∈ l) (ho' : o' ∈ l)
    (hl : o.batch.isLast = true) (hl' : o'.batch.isLast = true)
    (hr : o.batch.run = o'.batch.run) : o = o' := by
  have horder := (List.pairwise_append.1 h.order).1
  rw [List.pairwise_map] at horder
  let Apart : Offer → Offer → Prop := fun o o' =>
    o.batch.isLast = true → o'.batch.isLast = true → o.batch.run ≠ o'.batch.run
  have hsymm : Std.Symm Apart := ⟨fun _ _ h hl hl' he => h hl' hl he.symm⟩
  have hapart : l.Pairwise Apart := horder.imp fun hne hl _ => hne hl
  by_contra hne
  exact hapart.forall ho ho' hne hl hl' hr

theorem settled_eq (h : Dispatched l issued d cs) {k : Nat} {c : Child} (hk : cs[k]? = some c)
    (he : c.member.worker.ended = false) :
    c.settled = (given k l).getLast?.bind fun b => if b.isLast then none else b.run := by
  rw [h.serving k c hk he]
  refine foldl_settle_eq fun b hb => ?_
  obtain ⟨o, ho, -, -, rfl⟩ := mem_given hb
  obtain ⟨r, hr, -⟩ := h.known _ (batch_mem ho)
  exact ⟨r, hr⟩

/-- A member has a run in hand whose end was lost, if it has taken nothing since. -/
theorem settled_of_pinned (h : Dispatched l issued d cs) {r : Nat} (hp : Pinned l cs r) :
    ∃ c ∈ cs, c.settled = some r := by
  obtain ⟨o, hmem, htaken, hl, hr, c, b, hk, he, hlast, hb⟩ := hp
  refine ⟨c, List.mem_of_getElem? hk, ?_⟩
  obtain ⟨x, hx, hxt, -, rfl⟩ := mem_given (List.mem_of_getLast? hlast)
  have hf : x.batch.isLast = false := by
    refine Bool.eq_false_iff.2 fun hxl => ?_
    have := h.eq_of_ends hx hmem hxl hl (hb.trans hr.symm)
    simp [this, htaken] at hxt
  simp [h.settled_eq hk he, hlast, hf, hb]

/-- The end of a run was offered to the run's own member, unless the distributor still has a ticket
for the run. -/
theorem exists_end (h : Dispatched l issued d cs) {r : Nat} (hr : r < issued) :
    r ∈ d.tickets
      ∨ ∃ o ∈ l, o.child = r % cs.length ∧ o.batch.isLast = true ∧ o.batch.run = some r := by
  unfold Distributor.tickets
  rcases h.closed r hr with ho | ⟨b, hb, hbr, hbl⟩
  · refine .inl (List.mem_append_left _ ?_)
    cases hopen : d.openRun <;> simp_all
  · rcases List.mem_append.1 hb with hb | hb
    · obtain ⟨o, hmem, rfl⟩ := List.mem_map.1 hb
      exact .inr ⟨o, hmem, h.lane o hmem r hbr, hbl, hbr⟩
    · obtain ⟨t, ht, hb⟩ := List.mem_filterMap.1 hb
      refine .inl (List.mem_append_right _ (List.mem_filterMap.2 ⟨t, ht, ?_⟩))
      cases t with
      | offer e => simp_all [Delivery.batch?, Delivery.ticket?]
      | _ => simp [Delivery.batch?] at hb

/-- What a member has taken last of a run is the end of it, if the member has taken that. -/
theorem eq_of_end (h : Dispatched l issued d cs) {k : Nat} {b e : OrderedBatch}
    (hlast : (given k l).getLast? = some b) (he : e ∈ given k l) (hl : e.isLast = true)
    (hr : e.run = b.run) : e = b := by
  obtain ⟨init, hinit⟩ := List.getLast?_eq_some_iff.1 hlast
  have horder : (given k l).Pairwise fun b b' => b.isLast = true → b.run ≠ b'.run :=
    (List.pairwise_append.1 h.order).1.sublist (List.filter_sublist.map _)
  rw [hinit] at he horder
  rcases List.mem_append.1 he with he | he
  · exact absurd hr ((List.pairwise_append.1 horder).2.2 e he b (by simp) hl)
  · exact List.mem_singleton.1 he

/-- If a member has a run in hand, the distributor has one of its tickets or the end of it was lost.
-/
theorem pinned_of_settled (h : Dispatched l issued d cs) {c : Child} (hc : c ∈ cs) {r : Nat}
    (hs : c.settled = some r) : r ∈ d.tickets ∨ Pinned l cs r := by
  obtain ⟨k, hk⟩ := List.getElem?_of_mem hc
  have he : c.member.worker.ended = false :=
    Bool.eq_false_iff.2 fun he => by simp [h.ended c hc he] at hs
  rw [h.settled_eq hk he] at hs
  obtain ⟨b, hlast, hb⟩ := Option.bind_eq_some_iff.1 hs
  split at hb
  · simp at hb
  rename_i hf
  -- the member that took a batch of the run is the one its end was offered to
  obtain ⟨x, hx, -, rfl, rfl⟩ := mem_given (List.mem_of_getLast? hlast)
  obtain ⟨r', hr', hlt⟩ := h.known x.batch (batch_mem hx)
  obtain rfl := Option.some.inj (hr'.symm.trans hb)
  refine (h.exists_end hlt).imp_right fun ⟨o, hmem, hchild, hl, hr⟩ => ?_
  have hsame : o.child = x.child := hchild.trans (h.lane x hx r' hb).symm
  refine ⟨o, hmem, Bool.eq_false_iff.2 fun ht => hf ?_, hl, hr, c, x.batch, hsame ▸ hk, he,
    hsame ▸ hlast, hb⟩
  have hgiven : o.batch ∈ given x.child l :=
    List.mem_map_of_mem (List.mem_filter.2 ⟨hmem, by simp [ht, hsame]⟩)
  exact h.eq_of_end hlast hgiven hl (hr.trans hb.symm) ▸ hl

section Team

variable {s : Sequencer} {input : Queue Batch} {w : Worker}

theorem cleared_iff (h : Dispatched l s.issued d cs) (hteam : TeamSound s input w d cs)
    (hs : Still s d cs) :
    Cleared s cs ↔ (∀ b, .offer b ∉ d.agenda) ∧ ∀ r, ¬Pinned l cs r := by
  rw [hteam.cleared_iff_settled h hs]
  refine and_congr_right fun ha => ⟨fun hc r hp => ?_, fun hp c hc => ?_⟩
  · obtain ⟨c, hmem, hr⟩ := h.settled_of_pinned hp
    simp [hc c hmem] at hr
  · refine Option.eq_none_iff_forall_ne_some.2 fun r hr => ?_
    refine hp r ((h.pinned_of_settled hc hr).resolve_left ?_)
    simp [Distributor.tickets_eq_nil hs.closed ha]

/-- The release point does not pass a run whose end was lost, as long as its member takes nothing
and is not stopped. -/
theorem next_le_of_pinned (h : Dispatched l s.issued d cs) (hteam : TeamSound s input w d cs)
    {r : Nat} (hp : Pinned l cs r) : s.next ≤ r ∧ r < s.issued := by
  obtain ⟨c, hc, hr⟩ := h.settled_of_pinned hp
  have hmem : r ∈ s.references := hteam.references.mem_iff.2
    (List.mem_append_right _ (List.mem_flatMap.2 ⟨c, hc, Child.mem_tickets_of_settled hr⟩))
  exact ⟨hteam.valid.le_of_mem r hmem, hteam.valid.lt_issued r hmem⟩

end Team

end Dispatched

/-! ## Runs -/

namespace Journal

variable {j j' : Journal}

theorem exists_dispatched {id : Nat} {tag : String} {capacity : Nat} {ground : Ground}
    (hcheck : ground.blueprint.settings.check = .ok ())
    (hcollects : ground.blueprint.collects = false)
    (hr : Relation.ReflTransGen Move (start id tag capacity ground) j) :
    ∃ p, j.Tells p ∧ p.Dispatched j.offers := by
  induction hr with
  | refl => exact ⟨_, tells_start hcheck hcollects, fun _ _ _ hc => by simp at hc, fun _ => rfl⟩
  | @tail j j' _ hm ih =>
    obtain ⟨p, ht, hd⟩ := ih
    obtain ⟨p', ht', hc⟩ := change_of_move ht hm
    refine ⟨p', ht', ?_⟩
    cases hc with
    | step hs =>
      have hoffers : ∀ {role gr}, (j.note role ⟨gr, [p']⟩).offers = j.offers ++ p.offered p' := by
        intro role gr
        simp [note, ht.pipelines]
      rw [hoffers]
      exact ht.sound.1.dispatched_step hd hs
    | sent l hq hs ha =>
      rw [ha.offers]
      exact ⟨hd.team, hd.crewless⟩

/-- However a pipeline is used, its release point does not pass a run whose end was lost until the
member of the run takes another batch or is stopped. In a standstill all runs have completed if
there is no such run and no batch is still to be offered, and only then. -/
theorem cleared_iff_of_reaches {id : Nat} {tag : String} {capacity : Nat} {ground : Ground}
    (hcheck : ground.blueprint.settings.check = .ok ())
    (hcollects : ground.blueprint.collects = false)
    (hr : Relation.ReflTransGen Move (start id tag capacity ground) j) {p : Pipeline} {w : Worker}
    {d : Distributor} {cs : List Child} (hp : p ∈ j.feed.plant.pipelines)
    (hc : p.crew = some (.team w d cs)) :
    (∀ r, Pinned j.offers cs r → p.sequencer.next ≤ r ∧ r < p.sequencer.issued)
      ∧ (Still p.sequencer d cs → (Cleared p.sequencer cs ↔
        (∀ b, .offer b ∉ d.agenda) ∧ ∀ r, ¬Pinned j.offers cs r)) := by
  obtain ⟨q, ht, hd⟩ := exists_dispatched hcheck hcollects hr
  obtain rfl : p = q := by simpa [ht.pipelines] using hp
  have hteam : TeamSound p.sequencer p.input w d cs := ht.sound.1.crew _ hc
  have hoffers := hd.team _ _ _ hc
  exact ⟨fun r hr => hoffers.next_le_of_pinned hteam hr, fun hs => hoffers.cleared_iff hteam hs⟩

/-- The pipeline stands still with nothing left to be offered, and yet a member waits for a run that
has not completed. -/
def isStuck (j : Journal) : Bool :=
  j.feed.plant.pipelines.any fun p =>
    match p.crew with
    | some (.team _ d cs) =>
      decide (Still p.sequencer d cs ∧ d.agenda = [] ∧ p.sequencer.next < p.sequencer.issued
        ∧ ∃ c ∈ cs, c.member.processor.isWaiting p.sequencer = true)
    | _ => false

theorem exists_of_isStuck (h : j.isStuck = true) :
    ∃ p w d cs, p ∈ j.feed.plant.pipelines ∧ p.crew = some (.team w d cs)
      ∧ Still p.sequencer d cs ∧ d.agenda = [] ∧ p.sequencer.next < p.sequencer.issued
      ∧ ∃ c ∈ cs, c.member.processor.isWaiting p.sequencer = true := by
  obtain ⟨p, hp, h⟩ := List.any_eq_true.1 h
  split at h
  · rename_i w d cs hc
    exact ⟨p, w, d, cs, hp, hc, of_decide_eq_true h⟩
  · simp at h

/-- The end of run 0 is lost, as its member does not come to take the first batch in time. When
nothing moves any more, the run has not completed, and run 1 waits for it. -/
theorem pinned_of_lost_end :
    ∃ ground j p w d cs, ground.blueprint.settings.check = .ok ()
      ∧ ground.blueprint.collects = false
      ∧ Relation.ReflTransGen Move (start 1 "a" 2 ground) j
      ∧ p ∈ j.feed.plant.pipelines ∧ p.crew = some (.team w d cs) ∧ Still p.sequencer d cs
      ∧ ¬Cleared p.sequencer cs ∧ (∃ r, Pinned j.offers cs r ∧ p.sequencer.next ≤ r)
      ∧ ∃ c ∈ cs, c.member.processor.isWaiting p.sequencer = true := by
  let settings : PipelineSettings :=
    { workers := 2, queueCapacity := 1, sendTimeout := 1000, tickInterval := 10000
      distributor := { maxRecords := 2 } }
  let ground : Ground :=
    { blueprint := { settings, stages := some (.standard ⟨["name"]⟩ []), output := some 1 }
      destination := ⟨{ capacity := 2 }, []⟩ }
  have hcheck : ground.blueprint.settings.check = .ok () := rfl
  have hstuck : ∀ j, Relation.ReflTransGen Move (start 1 "a" 2 ground) j → j.isStuck = true →
      ∃ p w d cs, p ∈ j.feed.plant.pipelines ∧ p.crew = some (.team w d cs)
        ∧ Still p.sequencer d cs ∧ ¬Cleared p.sequencer cs
        ∧ (∃ r, Pinned j.offers cs r ∧ p.sequencer.next ≤ r)
        ∧ ∃ c ∈ cs, c.member.processor.isWaiting p.sequencer = true := by
    intro j hr hj
    obtain ⟨p, w, d, cs, hp, hc, hs, ha, hlt, hw⟩ := exists_of_isStuck hj
    obtain ⟨hpinned, hcleared⟩ := cleared_iff_of_reaches hcheck rfl hr hp hc
    have hne : ¬Cleared p.sequencer cs := fun hcl => Nat.ne_of_lt hlt hcl.completed
    refine ⟨p, w, d, cs, hp, hc, hs, hne, ?_, hw⟩
    by_contra hno
    refine hne ((hcleared hs).2 ⟨by simp [ha], fun r hr => hno ⟨r, hr, (hpinned r hr).1⟩⟩)
  -- the first batch of run 0 is queued, and the last one finds the queue full until it is late
  have h₁ := reaches_offer (j := start 1 "a" 2 ground) [{ timestamp := 1 }] 5 rfl
  have h₂ := h₁.trans (reaches_acts ([.supervisor, .root, .root, .root].map (Actor.mk 0)) _)
  have h₃ := h₂.trans (reaches_offer [{ timestamp := 2 }] 5 (by decide +kernel))
  have h₄ := (h₃.tail (.act ⟨0, .root⟩)).tail (.setNow 1000)
  have h₅ := h₄.trans (reaches_acts ([.root, .root, .root].map (Actor.mk 0)) _)
  -- run 1 is one batch, whose member has to wait
  have h₆ := h₅.trans (reaches_offer [{ timestamp := 3 }, { timestamp := 4 }] 5 (by decide +kernel))
  have h₇ := h₆.trans (reaches_acts ((List.replicate 16
    [.root, .child 0, .child 1, .consumer]).flatten.map (Actor.mk 0)) _)
  obtain ⟨p, w, d, cs, h⟩ := hstuck _ h₇ (by decide +kernel)
  exact ⟨ground, _, p, w, d, cs, hcheck, rfl, h₇, h⟩

end Journal

end LogPipeline
