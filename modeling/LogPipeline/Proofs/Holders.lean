import LogPipeline.Proofs.Content
import LogPipeline.Proofs.Seats
import LogPipeline.Rig.Desks

/-!
# Tickets at desks

Tickets are held under names, by processors, and by the batches that wait on their desks, and the
sequencer knows of these references and of no others (`Desks.Kept`). Tickets may be issued and let
go of, batches given out and worked on in any order: this stays so, and the sequencer only moves on.
A job that is begun takes its ticket along and brings its records (`Desk.begin_holds`).
-/

namespace LogPipeline

/-- More has completed. -/
structure Sequencer.Onward (s s' : Sequencer) : Prop where
  next_le : s.next ≤ s'.next
  completed : ∀ m, s.Completed m → s'.Completed m

theorem Sequencer.Onward.refl (s : Sequencer) : s.Onward s := ⟨Nat.le_refl _, fun _ => id⟩

/-- The ticket that comes with a job. -/
def Job.ticket? : Job → Option Nat
  | batch b _ => b.run
  | _ => none

/-- The records that come with a job. -/
def Job.records : Job → List Record
  | batch b _ => b.records
  | _ => []

/-- A batch comes with a ticket. -/
def Job.Ticketed (job : Job) : Prop := ∀ b t, job = .batch b t → b.run.isSome = true

instance : DecidablePred Job.Ticketed
  | .batch b t => decidable_of_iff (b.run.isSome = true)
      ⟨fun h _ _ he => (Job.batch.inj he).1 ▸ h, fun h => h b t rfl⟩
  | .tick | .stop => isTrue fun _ _ he => nomatch he

namespace Desk

/-- The tickets at a desk, once for each reference. -/
def tickets (d : Desk) : List Nat := d.processor.tickets ++ d.jobs.filterMap Job.ticket?

/-- The sequencer is as it was, or the desk has let go of its first ticket. -/
def Lets (s s' : Sequencer) (d d' : Desk) : Prop :=
  s' = s ∧ d'.tickets = d.tickets ∨ ∃ n, s' = s.release n ∧ d.tickets = n :: d'.tickets

theorem Lets.onward {s s' : Sequencer} {d d' : Desk} (h : Lets s s' d d') (hv : s.Valid) :
    s.Onward s' := by
  rcases h with ⟨rfl, -⟩ | ⟨n, rfl, -⟩
  · exact .refl _
  · exact ⟨s.next_le_release hv.nodup, fun m hm => hm.release n⟩

/-- The chunk that the next step asks the taker to accept, if it does. -/
def offered? (d : Desk) : Option Chunk :=
  match d.busy, d.processor.agenda with
  | true, .offer c :: _ => some c
  | _, _ => none

/-- The chunks that the taker was not yet asked to accept. -/
def unasked (d : Desk) : List Chunk :=
  if d.processor.isSending then d.processor.chunks.tail else d.processor.chunks

/-! ## Jobs -/

variable {ticketed ending : Bool} {s : Sequencer} {d : Desk}

/-- A job that is begun brings its records. The end may flush the chunk being built. -/
theorem begin_holds (now : Instant) (job : Job) (hs : d.processor.Sound ticketed ending s)
    (ha : d.processor.agenda = []) :
    (d.begin now job).processor.todo = job.records
      ∧ (d.begin now job).processor.run = d.processor.run
      ∧ (d.begin now job).processor.isSending = false
      ∧ ∃ c, (d.begin now job).processor.chunks = d.processor.chunks ++ c.toList
        ∧ (c = none ∧ (d.begin now job).processor.maker = d.processor.maker
          ∨ c = d.processor.maker.flush.1
            ∧ (d.begin now job).processor.maker = d.processor.maker.flush.2) := by
  have htodo : d.processor.todo = [] := by simp [Processor.todo, ha]
  cases job with
  | batch b timeout =>
    obtain ⟨hc, ht, -⟩ := Processor.holds_receive (p := d.processor) b (now + timeout) ha
    exact ⟨ht, rfl, by simp [begin], none, by simpa [begin] using hc, .inl ⟨rfl, rfl⟩⟩
  | tick =>
    obtain ⟨hc, ht, -⟩ := Processor.holds_tick now ha
    exact ⟨ht.trans htodo, rfl, rfl, none, by simpa [begin] using hc, .inl ⟨rfl, rfl⟩⟩
  | stop =>
    obtain ⟨ht, -, hor⟩ := hs.holds_stop now ha
    refine ⟨ht.trans htodo, by simp [begin], by simp [begin], ?_⟩
    rcases hor with ⟨hc, hm⟩ | ⟨-, hc, hm⟩
    · exact ⟨none, by simpa [begin] using hc, .inl ⟨rfl, hm⟩⟩
    · exact ⟨_, hc, .inr ⟨rfl, hm⟩⟩

theorem tickets_begin (now : Instant) {job : Job} {rest : List Job}
    (hs : d.processor.Sound ticketed ending s) (ha : d.processor.agenda = [])
    (hj : d.jobs = job :: rest) : (d.begin now job).tickets = d.tickets := by
  cases job with
  | batch b timeout =>
    have ht := (Processor.holds_receive (p := d.processor) b (now + timeout) ha).2.2
    rcases hr : b.run with _ | n <;> simp [tickets, begin, ht, hj, Job.ticket?, hr]
  | tick =>
    have ht := (Processor.holds_tick now ha).2.2
    simp [tickets, begin, ht, hj, List.filterMap_cons, Job.ticket?]
  | stop =>
    have ht := (hs.holds_stop now ha).2.1
    simp [tickets, begin, ht, hj, List.filterMap_cons, Job.ticket?]

theorem begin_sound (now : Instant) {job : Job} (hs : d.processor.Sound ticketed ending s)
    (hjob : ticketed = true → job.Ticketed) :
    (d.begin now job).processor.Sound ticketed (decide (some job = some Job.stop)) s := by
  cases job with
  | batch b timeout => exact hs.receive fun e => hjob e b timeout rfl
  | tick => exact hs.tick
  | stop => exact hs.stop

end Desk

namespace Desks

variable {x y : Desks} {i : Nat} {d : Desk}

theorem lt_of_desk (hd : x.desks[i]? = some d) : i < x.desks.length :=
  (List.getElem?_eq_some_iff.1 hd).1

theorem mem_of_desk (hd : x.desks[i]? = some d) : d ∈ x.desks := List.mem_of_getElem? hd

/-! ## One step -/

/-- A step of an idle processor begins its next job. -/
theorem act_idle (hd : x.desks[i]? = some d) (hb : d.busy = false) :
    (d.jobs = [] ∧ x.act i = x) ∨ ∃ job rest, d.jobs = job :: rest
      ∧ x.act i = { x with desks := x.desks.set i (d.begin x.now job) } := by
  rcases hj : d.jobs with _ | ⟨job, rest⟩
  · exact .inl ⟨rfl, by simp [act, hd, hb, hj]⟩
  · exact .inr ⟨job, rest, rfl, by simp [act, hd, hb, hj]⟩

/-- A step of a busy processor ends its job, hands a chunk over, or does a task. -/
theorem act_busy (hd : x.desks[i]? = some d) (hb : d.busy = true)
    (hc : ∀ l, d.processor.agenda ≠ .crash :: l) :
    (d.processor.agenda = [] ∧ x.act i = { x with desks := x.desks.set i { d with busy := false } })
    ∨ (∃ c l emitted p wakes, d.processor.agenda = .offer c :: l
      ∧ (p = d.processor.handedOver ∨ p = d.processor.asking c)
      ∧ x.act i = { x with emitted, desks := x.desks.set i { d with processor := p, wakes } })
    ∨ (∃ c l, d.processor.agenda = .sending c :: l ∧ (x.act i = x
      ∨ x.act i = { x with desks := x.desks.set i { d with processor := d.processor.handedOver } }))
    ∨ (d.processor.isSending = false ∧ d.offered? = none ∧
      x.act i = { x with
        desks := x.desks.set i { d with processor := (d.processor.act x.now x.sequencer x.books).1 }
        sequencer := (d.processor.act x.now x.sequencer x.books).2.1
        books := (d.processor.act x.now x.sequencer x.books).2.2 }) := by
  rcases ha : d.processor.agenda with _ | ⟨t, l⟩
  · exact .inl ⟨rfl, by simp [act, hd, hb, ha]⟩
  · cases t
    case crash => exact absurd ha (hc l)
    case offer c =>
      refine .inr (.inl ?_)
      by_cases h0 : x.acceptTime = 0
      · exact ⟨c, l, x.emitted ++ [(c, d.processor.deadline - x.now)], _, d.wakes, rfl, .inl rfl,
          by simp [act, hd, hb, ha, h0]⟩
      · exact ⟨c, l, x.emitted ++ [(c, d.processor.deadline - x.now)], _, x.now + x.acceptTime, rfl,
          .inr rfl, by simp [act, hd, hb, ha, h0]⟩
    case sending c =>
      refine .inr (.inr (.inl ⟨c, l, rfl, ?_⟩))
      by_cases hw : d.wakes ≤ x.now
      · exact .inr (by simp [act, hd, hb, ha, hw])
      · exact .inl (by simp [act, hd, hb, ha, hw])
    all_goals
      exact .inr (.inr (.inr ⟨by simp [Processor.isSending, ha], by simp [Desk.offered?, ha],
        by simp [act, hd, hb, ha]⟩))

/-! ## References -/

theorem perm_of_ticket? {name : String} {n : Nat} (hn : (x.tickets.map Prod.fst).Nodup)
    (h : x.ticket? name = some n) :
    (x.tickets.map Prod.snd).Perm (n :: (x.tickets.filter (·.1 != name)).map Prod.snd) := by
  obtain ⟨⟨k, m⟩, hfind, rfl⟩ := Option.map_eq_some_iff.1 h
  clear h
  generalize x.tickets = l at hn hfind ⊢
  induction l with
  | nil => simp at hfind
  | cons e l ih =>
    obtain ⟨h1, h2⟩ := List.nodup_cons.1 hn
    by_cases he : e.1 = name
    · rw [List.find?_cons_of_pos (by simpa using he)] at hfind
      obtain rfl := Option.some.inj hfind
      have hl : l.filter (·.1 != name) = l := by
        refine List.filter_eq_self.2 fun a ha => ?_
        simp only [bne_iff_ne, ne_eq]
        exact fun hname => h1 (List.mem_map.2 ⟨a, ha, hname.trans he.symm⟩)
      rw [List.filter_cons_of_neg (by simpa using he), hl]
      exact .refl _
    · rw [List.find?_cons_of_neg (by simpa using he)] at hfind
      rw [List.filter_cons_of_pos (by simpa using he)]
      exact ((ih h2 hfind).cons _).trans (.swap _ _ _)

theorem filter_of_ticket? {name : String} (h : x.ticket? name = none) :
    x.tickets.filter (·.1 != name) = x.tickets := by
  have hfind := List.find?_eq_none.1 (Option.map_eq_none_iff.1 h)
  refine List.filter_eq_self.2 fun a ha => ?_
  simpa using hfind a ha

/-- The references that the sequencer knows of are held under names or are at a desk. -/
structure Kept (x : Desks) : Prop where
  valid : x.sequencer.Valid
  named : (x.tickets.map Prod.fst).Nodup
  references : x.sequencer.references.Perm
    (x.tickets.map Prod.snd ++ x.desks.flatMap Desk.tickets)

theorem Kept.mem_references (h : x.Kept) {name : String} {n : Nat} (hn : x.ticket? name = some n) :
    n ∈ x.sequencer.references := by
  obtain ⟨e, he, rfl⟩ := Option.map_eq_some_iff.1 hn
  refine h.references.mem_iff.2 (List.mem_append_left _ (List.mem_map.2 ⟨e, ?_, rfl⟩))
  exact List.mem_of_find?_eq_some he

/-- One desk has changed, and with it at most the references to one ticket. -/
theorem Kept.of_desk (h : x.Kept) (hd : x.desks[i]? = some d) (d' : Desk)
    (hdesks : y.desks = x.desks.set i d') (htickets : y.tickets = x.tickets)
    (hs : Desk.Lets x.sequencer y.sequencer d d') : y.Kept := by
  obtain ⟨pre, post, hl, rfl⟩ := exists_seat hd
  have hset : y.desks = pre ++ d' :: post := by rw [hdesks, hl, set_seat]
  have href := h.references
  rw [hl] at href
  refine ⟨?_, htickets ▸ h.named, ?_⟩
  · rcases hs with ⟨hs, -⟩ | ⟨n, hs, -⟩ <;> rw [hs]
    · exact h.valid
    · exact h.valid.release n
  · rw [hset, htickets]
    rcases hs with ⟨hs, ht⟩ | ⟨n, hs, ht⟩ <;> rw [hs]
    · rwa [flatMap_seat pre post ht]
    · rw [Sequencer.references_release]
      refine perm_erase_of_perm_cons (href.trans ?_)
      exact ((perm_flatMap_seat pre post (.of_eq ht)).append_left _).trans List.perm_middle

theorem Kept.release (h : x.Kept) (name : String) :
    (x.release name).Kept ∧ x.sequencer.Onward (x.release name).sequencer := by
  have hn : ((x.release name).tickets.map Prod.fst).Nodup :=
    h.named.sublist (List.filter_sublist.map _)
  rcases ht : x.ticket? name with _ | n
  · have hs : (x.release name).sequencer = x.sequencer := by simp [Desks.release, ht]
    refine ⟨⟨hs ▸ h.valid, hn, ?_⟩, hs ▸ .refl _⟩
    rw [hs, Desks.release, filter_of_ticket? ht]
    exact h.references
  · have hs : (x.release name).sequencer = x.sequencer.release n := by simp [Desks.release, ht]
    refine ⟨⟨hs ▸ h.valid.release n, hn, ?_⟩, ?_⟩
    · rw [hs, Sequencer.references_release]
      exact perm_erase_of_perm_cons
        (h.references.trans ((perm_of_ticket? h.named ht).append_right _))
    · rw [hs]
      exact ⟨x.sequencer.next_le_release h.valid.nodup, fun m hm => hm.release n⟩

theorem Kept.issue (h : x.Kept) (name : String) :
    (x.issue name).2.Kept ∧ x.sequencer.Onward (x.issue name).2.sequencer := by
  have hfresh : ∀ m, x.sequencer.Completed m → x.sequencer.issue.2.Completed m :=
    fun m hm => hm.mono (by simp) fun k hk => by
      simp only [Sequencer.references_issue, List.mem_cons] at hk
      rcases hk with rfl | hk
      · exact .inr (Nat.le_refl _)
      · exact .inl hk
  have hz : (x.issue name).2.tickets
      = (name, x.sequencer.issued) :: x.tickets.filter (·.1 != name) := rfl
  have hs : (x.issue name).2.sequencer
      = (x.ticket? name).elim x.sequencer.issue.2 x.sequencer.issue.2.release := rfl
  have hn : ((x.issue name).2.tickets.map Prod.fst).Nodup := by
    rw [hz]
    exact List.nodup_cons.2 ⟨by simp, h.named.sublist (List.filter_sublist.map _)⟩
  have href := h.references.cons x.sequencer.issued
  rcases ht : x.ticket? name with _ | n
  · rw [ht, Option.elim_none] at hs
    refine ⟨⟨hs ▸ h.valid.issue, hn, ?_⟩, by rw [hs]; exact ⟨Nat.le_refl _, hfresh⟩⟩
    rw [hs, hz, filter_of_ticket? ht]
    exact href
  · rw [ht, Option.elim_some] at hs
    refine ⟨⟨hs ▸ h.valid.issue.release n, hn, ?_⟩, ?_⟩
    · rw [hs, hz, Sequencer.references_release]
      refine perm_erase_of_perm_cons (href.trans ?_)
      exact (((perm_of_ticket? h.named ht).append_right _).cons _).trans (.swap _ _ _)
    · rw [hs]
      exact ⟨x.sequencer.issue.2.next_le_release h.valid.issue.nodup,
        fun m hm => (hfresh m hm).release n⟩

/-- One more job on a desk. A batch of a run comes with a reference of its own to the ticket. -/
theorem Kept.give (h : x.Kept) {s : Sequencer} {job : Job} (hi : i < x.desks.length)
    (hs : s = x.sequencer ∧ job.ticket? = none
      ∨ ∃ n, n ∈ x.sequencer.references ∧ s = x.sequencer.share n ∧ job.ticket? = some n) :
    ({ x with sequencer := s }.give i job).Kept ∧ x.sequencer.Onward s := by
  have hd := List.getElem?_eq_getElem hi
  generalize x.desks[i] = d at hd
  obtain ⟨pre, post, hl, rfl⟩ := exists_seat hd
  have hset : x.desks.modify pre.length (fun d => { d with jobs := d.jobs ++ [job] })
      = pre ++ { d with jobs := d.jobs ++ [job] } :: post := by rw [hl, modify_seat]
  refine ⟨⟨?_, h.named, ?_⟩, ?_⟩
  · rcases hs with ⟨rfl, -⟩ | ⟨n, hn, rfl, -⟩
    · exact h.valid
    · exact h.valid.share hn
  · change s.references.Perm (_ ++ (x.desks.modify pre.length _).flatMap Desk.tickets)
    rw [hset]
    have href := h.references
    rw [hl] at href
    rcases hs with ⟨rfl, ht⟩ | ⟨n, -, rfl, ht⟩
    · rwa [flatMap_seat (a := { d with jobs := d.jobs ++ [job] }) (b := d)]
      simp [Desk.tickets, ht]
    · have hperm : (Desk.tickets { d with jobs := d.jobs ++ [job] }).Perm (n :: d.tickets) := by
        have : Desk.tickets { d with jobs := d.jobs ++ [job] } = d.tickets ++ [n] := by
          simp [Desk.tickets, ht]
        rw [this]
        exact List.perm_append_singleton _ _
      refine (href.cons n).trans (.trans ?_ ((perm_flatMap_seat pre post hperm).append_left _).symm)
      exact List.perm_middle.symm
  · rcases hs with ⟨rfl, -⟩ | ⟨n, hn, rfl, -⟩
    · exact .refl _
    · refine ⟨Nat.le_refl _, fun m hm => hm.mono (Nat.le_refl _) fun k hk => .inl ?_⟩
      rcases List.mem_cons.1 hk with rfl | hk
      · exact hn
      · exact hk

theorem kept_start (names : List String) (stages : Stages) (settings : ProcessingSettings)
    (sendTimeout acceptTime : Nat) (books : Books) :
    (start names stages settings sendTimeout acceptTime books).Kept := by
  refine ⟨Sequencer.valid_empty, List.nodup_nil, .of_eq (Eq.symm ?_)⟩
  refine List.append_eq_nil_iff.2 ⟨rfl, List.flatMap_eq_nil_iff.2 fun d hd => ?_⟩
  obtain ⟨name, -, rfl⟩ := List.mem_map.1 hd
  rfl

end Desks

end LogPipeline
