import LogPipeline.Proofs.Holders
import LogPipeline.Proofs.Packing
import LogPipeline.Proofs.Runs
import Mathlib.Logic.Relation

/-!
# Chunks leave in turn

Processors share a sequencer and a taker of chunks, and every batch comes with a ticket that
somebody holds. `Watched` keeps an account of the lines that they write and of the chunks that the
taker is asked to accept; everything else is what the processors do. The account is settled by
parcels, one for each chunk, with the run and the lines that are in it: a chunk holds lines of one
run, leaves when every earlier run has completed, and a processor that has not yet handed over a
line still holds the ticket of its run (`Watched.parcels_of_reaches`).
-/

namespace LogPipeline

namespace Desk

/-- The line that the next step writes, if it does. -/
def line? (d : Desk) : Option ByteArray := if d.busy then d.processor.line? else none

/-- The batch that the next step takes up, if it does. -/
def taking? (d : Desk) : Option OrderedBatch :=
  match d.busy, d.jobs with
  | false, .batch b _ :: _ => some b
  | _, _ => none

end Desk

/-- A line that processor `desk` wrote, and the run of the batch it came from. -/
structure Written where
  desk : Nat
  run : Option Nat
  line : ByteArray

/-- A chunk that processor `desk` asked the taker to accept, and the sequencer at that moment. -/
structure Asked where
  desk : Nat
  chunk : Chunk
  sequencer : Sequencer

/-- Desks with an account of what was written and asked. `serving i` is the run of the batch that
processor `i` has taken up last. -/
structure Watched where
  desks : Desks
  serving : Nat → Option Nat := fun _ => none
  written : List Written := []
  asked : List Asked := []

namespace Watched

/-- Processor `i` does its next step, and what it does is noted. A line without bytes leaves no
trace. -/
def act (i : Nat) (x : Watched) : Watched :=
  match x.desks.desks[i]? with
  | none => x
  | some d =>
    let lines := d.line?.toList.filter (·.size ≠ 0)
    { desks := x.desks.act i
      serving := fun k => if k = i then (d.taking?.map (·.run)).getD (x.serving i) else x.serving k
      written := x.written ++ lines.map fun line => ⟨i, x.serving i, line⟩
      asked := x.asked ++ d.offered?.toList.map fun c => ⟨i, c, x.desks.sequencer⟩ }

/-- A job for processor `i`. -/
def give (i : Nat) (job : Job) (x : Watched) : Watched := { x with desks := x.desks.give i job }

/-- One move of anybody. Tickets are issued and let go of by name, a batch comes with a ticket that
is held, and ticks and stops come at any point. -/
inductive Move (x : Watched) : Watched → Prop where
  | issue (name : String) : Move x { x with desks := (x.desks.issue name).2 }
  | release (name : String) : Move x { x with desks := x.desks.release name }
  | batch (i : Nat) (name : String) (records : Batch) (isLast : Bool) (timeout : Nat)
      (hi : i < x.desks.desks.length) (hn : (x.desks.ticket? name).isSome = true) :
    Move x
      ({ x with desks := (x.desks.batch (some name) records isLast).2 }.give i
        (.batch (x.desks.batch (some name) records isLast).1 timeout))
  | tick (i : Nat) : Move x (x.give i .tick)
  | stop (i : Nat) : Move x (x.give i .stop)
  | act (i : Nat) : Move x (x.act i)
  | pass (t : Instant) : Move x { x with desks := { x.desks with now := t } }
  | pace (n : Nat) : Move x { x with desks := { x.desks with acceptTime := n } }
  | takeNotes : Move x { x with desks := x.desks.takeNotes.2.2 }

/-- The lines that processor `i` wrote, each with its run. -/
def writtenBy (i : Nat) (x : Watched) : List (Option Nat × ByteArray) :=
  (x.written.filter (·.desk = i)).map fun w => (w.run, w.line)

end Watched

/-- What a chunk holds that the taker was asked to accept. -/
structure Parcel where
  asked : Asked
  run : Nat
  lines : List ByteArray

namespace Parcel

/-- The lines that processor `i` has handed over, each with its run. -/
def handedBy (i : Nat) (ps : List Parcel) : List (Option Nat × ByteArray) :=
  (ps.filter (·.asked.desk = i)).flatMap fun p => p.lines.map (some p.run, ·)

theorem handedBy_concat (i : Nat) (ps : List Parcel) (p : Parcel) :
    handedBy i (ps ++ [p])
      = handedBy i ps ++ if i = p.asked.desk then p.lines.map (some p.run, ·) else [] := by
  unfold handedBy
  rw [List.filter_append, List.flatMap_append]
  congr 1
  split
  · simp [‹i = p.asked.desk›]
  · simp [Ne.symm ‹_›]

end Parcel

/-! ## One desk -/

namespace Desk

/-- The processor relies on nothing that is not so, and every batch on the desk comes with a
ticket. -/
structure Fine (s : Sequencer) (d : Desk) : Prop where
  sound : ∃ ending, d.processor.Sound true ending s
  idle : d.busy = false → d.processor.agenda = []
  jobs : ∀ b t, Job.batch b t ∈ d.jobs → b.run.isSome = true

theorem Fine.mono {s s' : Sequencer} {d : Desk} (h : d.Fine s) (hs : s.next ≤ s'.next) :
    d.Fine s' := by
  obtain ⟨ending, hd⟩ := h.sound
  exact ⟨⟨ending, hd.mono hs⟩, h.idle, h.jobs⟩

end Desk

namespace Watched

/-- What processor `i` has written and not handed over is in its chunks and of the run in hand, and
what it is to process is of the run of its batch. -/
structure Owes (x : Watched) (ps : List Parcel) (i : Nat) (d : Desk) : Prop where
  lines : ∃ blocks rest, Packed d.unasked d.processor.maker blocks rest
    ∧ x.writtenBy i = Parcel.handedBy i ps ++ (blocks.flatten ++ rest).map (d.processor.run, ·)
  serving : d.processor.todo ≠ [] → d.processor.tickets.getLast? = x.serving i

/-- The parcels account for all chunks that the taker was asked to accept. -/
structure Ledger (x : Watched) (ps : List Parcel) : Prop where
  asked : x.asked = ps.map Parcel.asked
  holds : ∀ p ∈ ps, p.asked.chunk.Says p.lines
  turn : ∀ p ∈ ps, ∀ m < p.run, p.asked.sequencer.Completed m
  past : ∀ p ∈ ps, ∀ m < p.run, x.desks.sequencer.Completed m
  sorted : ps.Pairwise (·.run ≤ ·.run)
  owes : ∀ i d, x.desks.desks[i]? = some d → x.Owes ps i d

/-- What every move keeps. -/
structure Inv (x : Watched) : Prop where
  valid : x.desks.sequencer.Valid
  named : (x.desks.tickets.map Prod.fst).Nodup
  references : x.desks.sequencer.references.Perm
    (x.desks.tickets.map Prod.snd ++ x.desks.desks.flatMap Desk.tickets)
  fine : ∀ d ∈ x.desks.desks, d.Fine x.desks.sequencer
  ledger : ∃ ps, x.Ledger ps

end Watched

/-! ## One step -/

namespace Watched

variable {x y : Watched} {ps : List Parcel} {i : Nat} {d d' : Desk}

theorem Owes.congr (h : x.Owes ps i d) (hw : y.writtenBy i = x.writtenBy i)
    (hs : y.serving i = x.serving i) : y.Owes ps i d :=
  ⟨hw ▸ h.lines, hs ▸ h.serving⟩

theorem Inv.kept (h : x.Inv) : x.desks.Kept := ⟨h.valid, h.named, h.references⟩

/-- One desk has changed, and with it at most the references to one ticket. -/
theorem Inv.of_desk (h : x.Inv) (hd : x.desks.desks[i]? = some d) (d' : Desk)
    (hdesks : y.desks.desks = x.desks.desks.set i d') (htickets : y.desks.tickets = x.desks.tickets)
    (hs : Desk.Lets x.desks.sequencer y.desks.sequencer d d') (hfine : d'.Fine y.desks.sequencer)
    (hledger : ∃ ps, y.Ledger ps) : y.Inv := by
  obtain ⟨hv, hn, hr⟩ := h.kept.of_desk hd d' hdesks htickets hs
  refine ⟨hv, hn, hr, fun e he => ?_, hledger⟩
  rw [hdesks] at he
  rcases List.mem_or_eq_of_mem_set he with he | rfl
  · exact (h.fine e he).mono (hs.onward h.valid).next_le
  · exact hfine

/-- Nobody was asked. The accounts of the other desks stay as they are. -/
theorem Ledger.of_desk (h : x.Ledger ps) (hdesks : y.desks.desks = x.desks.desks.set i d')
    (hi : i < x.desks.desks.length)
    (hs : ∀ m, x.desks.sequencer.Completed m → y.desks.sequencer.Completed m)
    (hasked : y.asked = x.asked) (hwritten : ∀ k, k ≠ i → y.writtenBy k = x.writtenBy k)
    (hserving : ∀ k, k ≠ i → y.serving k = x.serving k) (howes : y.Owes ps i d') :
    y.Ledger ps := by
  refine ⟨hasked ▸ h.asked, h.holds, h.turn, fun p hp m hm => hs m (h.past p hp m hm), h.sorted,
    fun k e he => ?_⟩
  rw [hdesks, List.getElem?_set] at he
  split at he
  · rename_i hk
    subst hk
    exact Option.some.inj he ▸ howes
  · exact (h.owes k e he).congr (hwritten k (Ne.symm ‹_›)) (hserving k (Ne.symm ‹_›))

theorem act_eq_self (hd : x.desks.desks[i]? = some d) (ha : x.desks.act i = x.desks)
    (hl : d.line? = none) (ho : d.offered? = none) (ht : d.taking? = none) : x.act i = x := by
  have hs : (fun k => if k = i then x.serving i else x.serving k) = x.serving := by
    funext k
    split
    · rw [‹k = i›]
    · rfl
  simp [act, hd, ha, hl, ho, ht, hs]

theorem writtenBy_act (hd : x.desks.desks[i]? = some d) (k : Nat) :
    (x.act i).writtenBy k = x.writtenBy k ++
      if k = i then (d.line?.toList.filter (·.size ≠ 0)).map (x.serving i, ·) else [] := by
  simp only [act, hd, writtenBy, List.filter_append, List.map_append]
  congr 1
  split
  · rename_i hk
    subst hk
    simp [List.filter_map, Function.comp_def]
  · rename_i hk
    simp [List.filter_map, Function.comp_def, Ne.symm hk]

theorem serving_act_of_ne (k : Nat) (hk : k ≠ i) : (x.act i).serving k = x.serving k := by
  unfold act
  split
  · rfl
  · simp [hk]

theorem serving_act (hd : x.desks.desks[i]? = some d) (ht : d.taking? = none) :
    (x.act i).serving i = x.serving i := by
  simp [act, hd, ht]

theorem asked_act (hd : x.desks.desks[i]? = some d) (ho : d.offered? = none) :
    (x.act i).asked = x.asked := by
  simp [act, hd, ho]

theorem desks_act (hd : x.desks.desks[i]? = some d) : (x.act i).desks = x.desks.act i := by
  simp [act, hd]

/-- The processor holds what it held, and nothing was written. -/
theorem Owes.of_same (h : x.Owes ps i d) (hw : y.writtenBy i = x.writtenBy i)
    (hs : d'.processor.todo ≠ [] → y.serving i = x.serving i) (hu : d'.unasked = d.unasked)
    (hm : d'.processor.maker = d.processor.maker) (hr : d'.processor.run = d.processor.run)
    (ht : d'.processor.todo = d.processor.todo ∧ d'.processor.tickets = d.processor.tickets) :
    y.Owes ps i d' := by
  obtain ⟨⟨blocks, rest, hp, he⟩, hsv⟩ := h
  refine ⟨⟨blocks, rest, hu ▸ hm ▸ hp, hw ▸ hr ▸ he⟩, fun hne => ?_⟩
  rw [hs hne, ht.2]
  exact hsv (ht.1 ▸ hne)

theorem Inv.begin (h : x.Inv) (hd : x.desks.desks[i]? = some d) (hb : d.busy = false) {job : Job}
    {rest : List Job} (hj : d.jobs = job :: rest)
    (ha : x.desks.act i
      = { x.desks with desks := x.desks.desks.set i (d.begin x.desks.now job) }) :
    (x.act i).Inv := by
  obtain ⟨⟨ending, hsound⟩, hidle, hjobs⟩ := h.fine d (Desks.mem_of_desk hd)
  obtain ⟨ps, hps⟩ := h.ledger
  have hnil := hidle hb
  have hw : ∀ k, (x.act i).writtenBy k = x.writtenBy k := fun k => by
    simp [writtenBy_act hd, Desk.line?, hb]
  have ho : d.offered? = none := by simp [Desk.offered?, hb]
  have hu : d.unasked = d.processor.chunks := by simp [Desk.unasked, Processor.isSending, hnil]
  have hticketed : job.Ticketed := fun b t hjob => hjobs b t (by simp [hj, hjob])
  obtain ⟨htodo, hrun, hns, c, hc, hm⟩ := d.begin_holds x.desks.now job hsound hnil
  have hdesk := (desks_act hd).trans ha
  refine h.of_desk hd _ (by rw [hdesk])
    (by rw [hdesk]) (.inl ⟨by rw [hdesk], Desk.tickets_begin _ hsound hnil hj⟩) ?_ ⟨ps, ?_⟩
  · rw [hdesk]
    exact ⟨⟨_, Desk.begin_sound _ hsound fun _ => hticketed⟩, by simp [Desk.begin],
      fun b t hmem => hjobs b t (List.mem_of_mem_drop hmem)⟩
  refine hps.of_desk (by rw [hdesk]) (Desks.lt_of_desk hd) (by rw [hdesk]; exact fun _ => id)
    (asked_act hd ho) (fun k _ => hw k) serving_act_of_ne ⟨?_, fun hne => ?_⟩
  · obtain ⟨blocks, rest', hp, he⟩ := (hps.owes i d hd).lines
    have hu' : (d.begin x.desks.now job).unasked = d.unasked ++ c.toList := by
      rw [hu, ← hc, Desk.unasked, hns, if_neg (by simp)]
    rw [hrun, hw, hu']
    rcases hm with ⟨rfl, hm⟩ | ⟨rfl, hm⟩ <;> rw [hm]
    · exact ⟨blocks, rest', by simpa using hp, he⟩
    · obtain ⟨blocks', rest'', hp', hflat⟩ := hp.flush
      exact ⟨blocks', rest'', hp', hflat.symm ▸ he⟩
  · rw [htodo] at hne
    cases job with
    | batch b timeout =>
      obtain ⟨n, hn⟩ := Option.isSome_iff_exists.1 (hticketed b timeout rfl)
      have ht := (Processor.holds_receive (p := d.processor) b (x.desks.now + timeout) hnil).2.2
      simp [Desk.begin, ht, hn, act, hd, Desk.taking?, hb, hj]
    | tick => exact absurd rfl hne
    | stop => exact absurd rfl hne

/-- Earlier runs have completed before a chunk is accepted, and a run that is in hand has not. -/
theorem Inv.run_le (h : x.Inv) (hps : x.Ledger ps) (hd : x.desks.desks[i]? = some d) {n : Nat}
    (hrun : d.processor.run = some n) : ∀ p ∈ ps, p.run ≤ n := by
  intro p hp
  by_contra hlt
  refine (hps.past p hp n (by omega)).2 (h.references.mem_iff.2 ?_)
  refine List.mem_append.2 (.inr (List.mem_flatMap.2 ⟨d, Desks.mem_of_desk hd, ?_⟩))
  simp [Desk.tickets, Processor.tickets, hrun]

theorem Inv.ask (h : x.Inv) (hd : x.desks.desks[i]? = some d) (hb : d.busy = true) {c : Chunk}
    {l : List Task} (ha : d.processor.agenda = .offer c :: l) {p : Processor} {wakes : Instant}
    {emitted : List (Chunk × Nat)}
    (hp : p = d.processor.handedOver ∨ p = d.processor.asking c)
    (hact : x.desks.act i = { x.desks with
      emitted, desks := x.desks.desks.set i { d with processor := p, wakes } }) :
    (x.act i).Inv := by
  obtain ⟨⟨ending, hsound⟩, -, hjobs⟩ := h.fine d (Desks.mem_of_desk hd)
  obtain ⟨ps, hps⟩ := h.ledger
  obtain ⟨n, hrun, hturn⟩ := hsound.turn_of_offer (.inl ha)
  rw [Sequencer.isTurn_iff] at hturn
  have hbelow : ∀ m < n, x.desks.sequencer.Completed m := fun m hm =>
    h.valid.completed_of_lt (by omega)
  have hcs := (Processor.holds_handedOver hsound.neat (.inl ha)).1
  have hu : d.unasked = c :: d.processor.handedOver.chunks := by
    simp [Desk.unasked, Processor.isSending, ha, hcs]
  have hdesk := desks_act hd
  rw [hact] at hdesk
  have hw : ∀ k, (x.act i).writtenBy k = x.writtenBy k := fun k => by
    simp [writtenBy_act hd, Desk.line?, hb, Processor.line?, ha]
  have hasked : (x.act i).asked = x.asked ++ [⟨i, c, x.desks.sequencer⟩] := by
    simp [act, hd, Desk.offered?, hb, ha]
  -- What is in the chunk was all written in the run that is in hand.
  obtain ⟨⟨blocks, rest, hpacked, he⟩, hserving⟩ := hps.owes i d hd
  rw [hu] at hpacked
  obtain ⟨hchunks, hbuffer, hfull⟩ := hpacked
  obtain ⟨lines, blocks', hlines, hblocks, rfl⟩ := List.forall₂_cons_left_iff.1 hchunks
  obtain ⟨hsound', ⟨htk', htodo'⟩, ⟨hrun', hmaker'⟩, hu'⟩ := hsound.asked ha hp
  refine h.of_desk hd { d with processor := p, wakes } (by rw [hdesk]) (by rw [hdesk])
    (.inl ⟨by rw [hdesk], by simp [Desk.tickets, htk']⟩)
    (by rw [hdesk]; exact ⟨⟨ending, hsound'⟩, by simp [hb], hjobs⟩)
    ⟨ps ++ [⟨⟨i, c, x.desks.sequencer⟩, n, lines⟩], ?_⟩
  refine ⟨by simp [hasked, hps.asked], ?_, ?_, ?_, ?_, fun k e he' => ?_⟩
  · exact List.forall_mem_append.2 ⟨hps.holds, by simpa using hlines⟩
  · exact List.forall_mem_append.2 ⟨hps.turn, by simpa using hbelow⟩
  · rw [hdesk]
    exact List.forall_mem_append.2 ⟨hps.past, by simpa using hbelow⟩
  · have hle := h.run_le hps hd hrun
    exact List.pairwise_append.2 ⟨hps.sorted, List.pairwise_singleton _ _, by simpa using hle⟩
  · rw [hdesk, List.getElem?_set] at he'
    split at he'
    · rename_i hk
      subst hk
      rw [if_pos (Desks.lt_of_desk hd), Option.some.injEq] at he'
      subst he'
      refine ⟨⟨blocks', rest, ⟨?_, hmaker' ▸ hbuffer, hfull⟩, ?_⟩, fun hne => ?_⟩
      · simpa [Desk.unasked, hu'] using hblocks
      · rw [hw, he, Parcel.handedBy_concat, if_pos rfl]
        simp [hrun, hrun'.trans hrun]
      · rw [serving_act hd (by simp [Desk.taking?, hb])]
        simpa [htk'] using hserving (by simpa [htodo'] using hne)
    · have hk : k ≠ i := Ne.symm ‹_›
      obtain ⟨⟨bs, rs, hpk, hek⟩, hsk⟩ := hps.owes k e he'
      refine ⟨⟨bs, rs, hpk, ?_⟩, ?_⟩
      · rw [hw, hek, Parcel.handedBy_concat, if_neg hk, List.append_nil]
      · rw [serving_act_of_ne k hk]
        exact hsk

theorem Inv.handOver (h : x.Inv) (hd : x.desks.desks[i]? = some d) (hb : d.busy = true) {c : Chunk}
    {l : List Task} (ha : d.processor.agenda = .sending c :: l)
    (hact : x.desks.act i = { x.desks with
      desks := x.desks.desks.set i { d with processor := d.processor.handedOver } }) :
    (x.act i).Inv := by
  obtain ⟨⟨ending, hsound⟩, -, hjobs⟩ := h.fine d (Desks.mem_of_desk hd)
  obtain ⟨ps, hps⟩ := h.ledger
  obtain ⟨hcs, htodo, htk⟩ := Processor.holds_handedOver hsound.neat (.inr ha)
  have hns := Processor.isSending_handedOver hsound.neat (.inr ha)
  have hdesk := desks_act hd
  rw [hact] at hdesk
  have hw : ∀ k, (x.act i).writtenBy k = x.writtenBy k := fun k => by
    simp [writtenBy_act hd, Desk.line?, hb, Processor.line?, ha]
  refine h.of_desk hd { d with processor := d.processor.handedOver } (by rw [hdesk])
    (by rw [hdesk]) (.inl ⟨by rw [hdesk], by simp [Desk.tickets, htk]⟩)
    (by rw [hdesk]; exact ⟨⟨ending, hsound.handedOver (.inr ha)⟩, by simp [hb], hjobs⟩) ⟨ps, ?_⟩
  refine hps.of_desk (by rw [hdesk]) (Desks.lt_of_desk hd) (by rw [hdesk]; exact fun _ => id)
    (asked_act hd (by simp [Desk.offered?, hb, ha])) (fun k _ => hw k) (serving_act_of_ne) ?_
  refine (hps.owes i d hd).of_same (hw i) (fun _ => ?_) ?_ rfl rfl ⟨htodo, htk⟩
  · exact serving_act hd (by simp [Desk.taking?, hb])
  · have hs : d.processor.isSending = true := by simp [Processor.isSending, ha]
    simp [Desk.unasked, hns, hs, hcs]

/-- The account that a task of processor `i` leads to. -/
theorem Owes.task (h : x.Owes ps i d) {ending : Bool} {now : Instant} {s s' : Sequencer}
    {b b' : Books} {p : Processor} (hsound : d.processor.Sound true ending s)
    (hsound' : p.Sound true ending s') (hb : d.busy = true)
    (hns : d.processor.isSending = false) (hstep : d.processor.Step now s b p s' b')
    (hw : y.writtenBy i = x.writtenBy i ++
      (d.line?.toList.filter (·.size ≠ 0)).map (x.serving i, ·))
    (hs : y.serving i = x.serving i) : y.Owes ps i { d with processor := p } := by
  have hns' := Processor.isSending_step hsound.neat hstep hns
  have hturnover := Processor.turnover_of_step hsound.neat hstep
  have htickets := hsound.tickets_step hstep
  obtain ⟨⟨blocks, rest, hpacked, he⟩, hserving⟩ := h
  rw [Desk.unasked, hns, if_neg (by simp)] at hpacked
  obtain ⟨blocks', rest', hpacked', he'⟩ := hpacked.turnover hturnover
  have hline : d.line? = d.processor.line? := by simp [Desk.line?, hb]
  refine ⟨⟨blocks', rest', by simpa [Desk.unasked, hns'] using hpacked', ?_⟩, fun hne => ?_⟩
  · rw [hw, he, he', hline]
    rcases hl : d.processor.line? with _ | line
    -- no line was written, and if the run changes there is none that is owed
    · rcases hsound.run_step hstep with hr | ⟨hc, hm⟩
      · simp [hr]
      · obtain ⟨rfl, rfl⟩ := hpacked.eq_nil hc hm
        simp
    · cases hturnover with
      -- the line is of the batch being processed, whose ticket is the one in hand
      | written ha _ _ ht hr _ _ _ =>
        have hrun : d.processor.run.isSome = true := by
          have hf := hsound.fits
          rw [ha] at hf
          exact hf.1 rfl
        obtain ⟨n, hn⟩ := Option.isSome_iff_exists.1 hrun
        have htag := hserving (by simp [ht])
        rw [hsound.tickets_of_process ha, hn] at htag
        simp [hr, hn, ← htag]
      | kept _ _ _ _ hl' => simp [hl] at hl'
      | filtered _ _ _ _ _ hl' => simp [hl] at hl'
      | unwritten _ _ _ _ _ _ hl' => simp [hl] at hl'
      | flushed _ _ _ _ _ hl' => simp [hl] at hl'
  · have hne' : p.tickets ≠ [] := fun hnil => hne (hsound'.todo_of_tickets hnil)
    have hlast : p.tickets.getLast? = d.processor.tickets.getLast? := by
      rcases htickets with ⟨-, ht⟩ | ⟨n, -, ht⟩
      · rw [ht]
      · obtain ⟨m, ts, hm⟩ := List.exists_cons_of_ne_nil hne'
        rw [ht, hm, List.getLast?_cons_cons]
    rw [hs, hlast]
    refine hserving fun hnil => hne ?_
    have := hturnover.todo_suffix
    rwa [hnil, List.suffix_nil] at this

theorem Inv.act (h : x.Inv) (i : Nat) : (x.act i).Inv := by
  rcases hd : x.desks.desks[i]? with _ | d
  · have hx : x.act i = x := by simp [Watched.act, hd]
    rwa [hx]
  obtain ⟨⟨ending, hsound⟩, -, hjobs⟩ := h.fine d (Desks.mem_of_desk hd)
  rcases hb : d.busy with _ | _
  · rcases Desks.act_idle hd hb with ⟨hj, ha⟩ | ⟨job, rest, hj, ha⟩
    · rwa [act_eq_self hd ha (by simp [Desk.line?, hb]) (by simp [Desk.offered?, hb])
        (by simp [Desk.taking?, hb, hj])]
    · exact h.begin hd hb hj ha
  obtain ⟨ps, hps⟩ := h.ledger
  have hdesk := desks_act hd
  rcases Desks.act_busy hd hb hsound.no_crash with
    ⟨hnil, ha⟩ | ⟨c, l, emitted, p, wakes, hc, hp, ha⟩ | ⟨c, l, hc, ha⟩ | ⟨hns, ho, ha⟩
  · rw [ha] at hdesk
    have hw : ∀ k, (x.act i).writtenBy k = x.writtenBy k := fun k => by
      simp [writtenBy_act hd, Desk.line?, hb, Processor.line?, hnil]
    refine h.of_desk hd { d with busy := false } (by rw [hdesk]) (by rw [hdesk])
      (.inl ⟨by rw [hdesk], rfl⟩)
      (by rw [hdesk]; exact ⟨⟨ending, hsound⟩, fun _ => hnil, hjobs⟩) ⟨ps, ?_⟩
    refine hps.of_desk (by rw [hdesk]) (Desks.lt_of_desk hd) (by rw [hdesk]; exact fun _ => id)
      (asked_act hd (by simp [Desk.offered?, hb, hnil])) (fun k _ => hw k) (serving_act_of_ne) ?_
    refine (hps.owes i d hd).of_same (hw i) (fun _ => ?_) rfl rfl rfl ⟨rfl, rfl⟩
    exact serving_act hd (by simp [Desk.taking?, hb])
  · exact h.ask hd hb hc hp ha
  · rcases ha with ha | ha
    · rwa [act_eq_self hd ha (by simp [Desk.line?, Processor.line?, hc])
        (by simp [Desk.offered?, hb, hc]) (by simp [Desk.taking?, hb])]
    · exact h.handOver hd hb hc ha
  · rw [ha] at hdesk
    have hstep := Processor.step_act x.desks.now d.processor x.desks.sequencer x.desks.books
    have hlets : Desk.Lets x.desks.sequencer
        (d.processor.act x.desks.now x.desks.sequencer x.desks.books).2.1 d
        { d with
          processor := (d.processor.act x.desks.now x.desks.sequencer x.desks.books).1 } := by
      rcases hsound.tickets_step hstep with ⟨hs, ht⟩ | ⟨n, hs, ht⟩
      · exact .inl ⟨hs, by simp [Desk.tickets, ht]⟩
      · exact .inr ⟨n, hs, by simp [Desk.tickets, ht]⟩
    have hsound' := hsound.step h.valid.nodup hstep
    refine h.of_desk hd _ (by rw [hdesk]) (by rw [hdesk]) (by rw [hdesk]; exact hlets)
      (by rw [hdesk]; exact ⟨⟨ending, hsound'⟩, by simp [hb], hjobs⟩) ⟨ps, ?_⟩
    refine hps.of_desk (by rw [hdesk]) (Desks.lt_of_desk hd)
      (by rw [hdesk]; exact (hlets.onward h.valid).completed) (asked_act hd ho)
      (fun k hk => by rw [writtenBy_act hd, if_neg hk, List.append_nil]) (serving_act_of_ne) ?_
    exact (hps.owes i d hd).task hsound hsound' hb hns hstep
      (by rw [writtenBy_act hd, if_pos rfl]) (serving_act hd (by simp [Desk.taking?, hb]))

/-- Only the tickets held by name have changed. -/
theorem Inv.of_tickets (h : x.Inv) {z : Desks} (hdesks : z.desks = x.desks.desks) (hz : z.Kept)
    (hs : x.desks.sequencer.Onward z.sequencer) : Inv { x with desks := z } := by
  obtain ⟨ps, hps⟩ := h.ledger
  refine ⟨hz.valid, hz.named, hz.references, fun d hd => ?_, ps, hps.asked, hps.holds, hps.turn,
    fun p hp m hm => hs.completed m (hps.past p hp m hm), hps.sorted, fun i d hd => ?_⟩
  · exact (h.fine d (hdesks ▸ hd)).mono hs.next_le
  · exact (hps.owes i d (hdesks ▸ hd)).congr rfl rfl

/-- One more job on a desk, and with a batch one more reference to its ticket. -/
theorem Inv.give (h : x.Inv) {s : Sequencer} {job : Job} (hi : i < x.desks.desks.length)
    (hs : s = x.desks.sequencer ∧ job.ticket? = none
      ∨ ∃ n, n ∈ x.desks.sequencer.references ∧ s = x.desks.sequencer.share n
        ∧ job.ticket? = some n)
    (hjob : ∀ b t, job = .batch b t → b.run.isSome = true) :
    Inv ({ x with desks := { x.desks with sequencer := s } }.give i job) := by
  obtain ⟨hkept, honward⟩ := h.kept.give hi hs
  obtain ⟨ps, hps⟩ := h.ledger
  refine ⟨hkept.valid, hkept.named, hkept.references, fun e he => ?_, ps, hps.asked, hps.holds,
    hps.turn, fun p hp m hm => honward.completed m (hps.past p hp m hm), hps.sorted,
    fun k e he => ?_⟩
  · obtain ⟨k, hk⟩ := List.getElem?_of_mem he
    change (x.desks.desks.modify i _)[k]? = some e at hk
    rw [List.getElem?_modify] at hk
    obtain ⟨e', he', rfl⟩ := Option.map_eq_some_iff.1 hk
    have hfine := (h.fine e' (List.mem_of_getElem? he')).mono honward.next_le
    split
    · refine ⟨hfine.sound, hfine.idle, fun b t hb => ?_⟩
      rcases List.mem_append.1 hb with hb | hb
      · exact hfine.jobs b t hb
      · exact hjob b t (List.mem_singleton.1 hb).symm
    · exact hfine
  · change (x.desks.desks.modify i _)[k]? = some e at he
    rw [List.getElem?_modify] at he
    obtain ⟨e', he', rfl⟩ := Option.map_eq_some_iff.1 he
    have := hps.owes k e' he'
    split
    · exact ⟨this.lines, this.serving⟩
    · exact ⟨this.lines, this.serving⟩

theorem Inv.give_plain (h : x.Inv) (i : Nat) {job : Job} (hj : job.ticket? = none)
    (hjob : ∀ b t, job ≠ .batch b t) : (x.give i job).Inv := by
  by_cases hi : i < x.desks.desks.length
  · exact h.give hi (.inl ⟨rfl, hj⟩) fun b t he => absurd he (hjob b t)
  · have hx : x.give i job = x := by
      simp [Watched.give, Desks.give, List.modify_eq_self (Nat.le_of_not_lt hi)]
    rwa [hx]

theorem Inv.move (h : x.Inv) (hm : x.Move y) : y.Inv := by
  cases hm with
  | issue name => exact h.of_tickets rfl (h.kept.issue name).1 (h.kept.issue name).2
  | release name => exact h.of_tickets rfl (h.kept.release name).1 (h.kept.release name).2
  | batch i name records isLast timeout hi hn =>
    obtain ⟨n, hn⟩ := Option.isSome_iff_exists.1 hn
    have hb : x.desks.batch (some name) records isLast
        = (⟨records, some n, isLast⟩, { x.desks with sequencer := x.desks.sequencer.share n }) := by
      simp [Desks.batch, hn]
    rw [hb]
    exact h.give hi (.inr ⟨n, h.kept.mem_references hn, rfl, rfl⟩) (by rintro b t ⟨rfl, -⟩; rfl)
  | tick i => exact h.give_plain i rfl (by simp)
  | stop i => exact h.give_plain i rfl (by simp)
  | act i => exact h.act i
  | pass t => exact h.of_tickets rfl ⟨h.valid, h.named, h.references⟩ (.refl _)
  | pace n => exact h.of_tickets rfl ⟨h.valid, h.named, h.references⟩ (.refl _)
  | takeNotes => exact h.of_tickets rfl ⟨h.valid, h.named, h.references⟩ (.refl _)

/-- Processors with the given names, before anything was given to them. -/
def start (names : List String) (stages : Stages) (settings : ProcessingSettings)
    (sendTimeout acceptTime : Nat) (books : Books) : Watched :=
  { desks := .start names stages settings sendTimeout acceptTime books }

theorem inv_start (names : List String) (stages : Stages) (settings : ProcessingSettings)
    (sendTimeout acceptTime : Nat) (books : Books) :
    (start names stages settings sendTimeout acceptTime books).Inv := by
  have hnew : ∀ d ∈ (start names stages settings sendTimeout acceptTime books).desks.desks,
      ∃ name, d = { processor := .new name stages settings sendTimeout } := by
    intro d hd
    obtain ⟨name, -, rfl⟩ := List.mem_map.1 hd
    exact ⟨name, rfl⟩
  obtain ⟨hv, hn, hr⟩ := Desks.kept_start names stages settings sendTimeout acceptTime books
  refine ⟨hv, hn, hr, fun d hd => ?_, [], rfl, by simp, by simp, by simp, .nil, fun i d hd => ?_⟩
  · obtain ⟨name, rfl⟩ := hnew d hd
    exact ⟨⟨false, Processor.sound_new ..⟩, fun _ => rfl, by simp⟩
  · obtain ⟨name, rfl⟩ := hnew d (List.mem_of_getElem? hd)
    exact ⟨⟨[], [], ⟨.nil, rfl, by simp⟩, rfl⟩, fun hne => absurd rfl hne⟩

/-- Every chunk that the taker is asked to accept holds lines of one run, which was written in that
order by one processor, and at that moment every earlier run has completed; chunks come in the order
of their runs. What a processor has written and not handed over is of the run in hand, whose ticket
is then still held. -/
theorem parcels_of_reaches {names : List String} {stages : Stages} {settings : ProcessingSettings}
    {sendTimeout acceptTime : Nat} {books : Books}
    (h : Relation.ReflTransGen Move (start names stages settings sendTimeout acceptTime books) x) :
    ∃ ps : List Parcel, x.asked = ps.map Parcel.asked
      ∧ (∀ p ∈ ps, p.asked.chunk.Says p.lines ∧ ∀ m < p.run, p.asked.sequencer.Completed m)
      ∧ ps.Pairwise (·.run ≤ ·.run)
      ∧ ∀ i d, x.desks.desks[i]? = some d → ∃ rest : List ByteArray,
          x.writtenBy i = Parcel.handedBy i ps ++ rest.map (d.processor.run, ·)
          ∧ (rest ≠ [] → ∃ r, d.processor.run = some r ∧ r ∈ x.desks.sequencer.references) := by
  have hx : x.Inv := by
    induction h with
    | refl => exact inv_start ..
    | tail _ hm ih => exact ih.move hm
  obtain ⟨ps, hps⟩ := hx.ledger
  refine ⟨ps, hps.asked, fun p hp => ⟨hps.holds p hp, hps.turn p hp⟩, hps.sorted,
    fun i d hd => ?_⟩
  obtain ⟨⟨blocks, rest, hpacked, he⟩, -⟩ := hps.owes i d hd
  refine ⟨blocks.flatten ++ rest, he, fun hne => ?_⟩
  obtain ⟨⟨ending, hsound⟩, -, -⟩ := hx.fine d (Desks.mem_of_desk hd)
  rcases hr : d.processor.run with _ | r
  · obtain ⟨hc, hm⟩ := hsound.chunks_of_run hr
    obtain ⟨rfl, rfl⟩ := hpacked.eq_nil (by simp [Desk.unasked, hc]) hm
    exact absurd rfl hne
  · refine ⟨r, rfl, hx.references.mem_iff.2 (List.mem_append_right _ ?_)⟩
    exact List.mem_flatMap.2
      ⟨d, Desks.mem_of_desk hd, by simp [Desk.tickets, Processor.tickets, hr]⟩

/-- Processors do their steps one after another. -/
theorem reaches_acts (is : List Nat) (x : Watched) :
    Relation.ReflTransGen Move x (is.foldl (fun x i => x.act i) x) :=
  reaches_foldl (fun _ i => .single (.act i)) is x

/-- Two processors with a run each. The second one is done first, and waits for its turn until the
first one has handed over the lines of two batches and its run has completed. -/
theorem parcels_of_two_runs :
    ∃ y x, Relation.ReflTransGen Move
        (start ["a", "b"] ⟨[], fun r => some (.mk #[r.size.toUInt8])⟩ {} 10 0 {}) y
      ∧ y.asked.length = 0
      ∧ y.desks.desks.map (·.processor.isWaiting y.desks.sequencer) = [false, true]
      ∧ Relation.ReflTransGen Move y x
      ∧ x.asked.map (fun a => (a.desk, a.chunk.data)) = [(0, .mk #[5, 6]), (1, .mk #[7, 8])]
      ∧ ∃ ps : List Parcel, x.asked = ps.map Parcel.asked
        ∧ (∀ p ∈ ps, p.asked.chunk.Says p.lines ∧ ∀ m < p.run, p.asked.sequencer.Completed m)
        ∧ ps.Pairwise (·.run ≤ ·.run)
        ∧ ∀ i d, x.desks.desks[i]? = some d → ∃ rest : List ByteArray,
            x.writtenBy i = Parcel.handedBy i ps ++ rest.map (d.processor.run, ·)
            ∧ (rest ≠ [] → ∃ r, d.processor.run = some r ∧ r ∈ x.desks.sequencer.references) := by
  let x₀ := start ["a", "b"] ⟨[], fun r => some (.mk #[r.size.toUInt8])⟩ {} 10 0 {}
  have h₁ : Relation.ReflTransGen Move x₀ _ := .tail (.tail .refl (.issue "s")) (.issue "t")
  have h₂ := h₁.tail (.batch 0 "s" [{ size := 5 }] false 10 (by decide) (by decide))
    |>.tail (.batch 1 "t" [{ size := 7 }, { size := 8 }] true 10 (by decide) (by decide))
  obtain ⟨y, hy, h₃⟩ : ∃ y, y = _ ∧ Relation.ReflTransGen Move x₀ y :=
    ⟨_, rfl, h₂.trans (reaches_acts (.replicate 5 0 ++ .replicate 9 1) _)⟩
  -- the first run ends, and its ticket is let go of
  have h₄ : Relation.ReflTransGen Move y _ :=
    .single (.batch 0 "s" [{ size := 6 }] true 10 (hy ▸ by decide +kernel) (hy ▸ by decide +kernel))
  have h₅ := h₄.trans (reaches_acts (.replicate 10 0) _) |>.tail (.release "s")
    |>.trans (reaches_acts (.replicate 6 1) _)
  refine ⟨y, _, h₃, ?_, ?_, h₅, ?_, parcels_of_reaches (h₃.trans h₅)⟩
  all_goals
    rw [hy]
    decide +kernel

end Watched

end LogPipeline
