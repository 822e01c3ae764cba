import LogPipeline.Proofs.Census
import LogPipeline.Proofs.Streams

/-!
# What a pipeline holds, in order

The lines on their way out come first, then what the workers hold, then what waits in the input. A
step of a party edits this at one place, or delivers the chunk at its front (`Passage`); and what it
loses is what the party had in its hands.
-/

namespace LogPipeline

/-- The lines of an output that are yet to be delivered. -/
def Output.lines (o : Output) : List ByteArray :=
  o.held.toList.flatMap (·.1.lines) ++ o.queue.items.flatMap Chunk.lines

/-- What the workers hold. `issued` tickets were issued. -/
def Crew.stream (issued : Nat) : Crew → List Item
  | alone m => m.stream
  | team _ d cs => teamStream issued cs ++ d.todo.map .record

namespace Pipeline

variable {i : Nat} {role : Role} {p p' : Pipeline} {gr gr' : Ground} {g : Stages} {o : Output}
  {c : Crew}

/-- The lines on their way out. -/
def leaving (p : Pipeline) : List ByteArray := (p.output.map Output.lines).getD []

/-- What the workers hold. -/
def held (p : Pipeline) : List Item := (p.crew.map (Crew.stream p.sequencer.issued)).getD []

/-- What a pipeline holds. -/
def stream (p : Pipeline) : List Item :=
  p.leaving.map .line ++ p.held ++ p.input.items.flatten.map .record

/-- The chunk that a party is forwarding or handing over. -/
def chunkInHand (role : Role) (p : Pipeline) : Option Chunk :=
  match role, p.crew with
  | .consumer, _ => p.output.bind fun o => o.held.map (·.1)
  | .root, some (.alone m) => m.processor.front.head?
  | .child k, some (.team _ _ cs) => cs[k]?.bind (·.member.processor.front.head?)
  | _, _ => none

/-- The batch that a party is sending on, or drains. -/
def batchInHand (role : Role) (p : Pipeline) : Batch :=
  match role, p.crew with
  | .supervisor, _ => p.input.items.head?.getD []
  | .root, some (.team _ d _) => d.agenda.head?.elim [] Delivery.records
  | _, _ => []

/-- Every member writes whole lines. -/
def Writes (g : Stages) (p : Pipeline) : Prop :=
  ∀ c, p.crew = some c → ∀ m ∈ c.members, m.processor.Writes g

/-- What a step does to what a pipeline holds. -/
inductive Passage (g : Stages) (role : Role) (p p' : Pipeline) (gr gr' : Ground) : Prop where
  | edit {c : List Chunk} {r : List Record} (he : Edit g c r p.stream p'.stream)
      (hcs : c = [] ∨ c = (p.chunkInHand role).toList)
      (hrs : r = [] ∨ r = p.batchInHand role)
      (hd : gr'.destination.queue.items = gr.destination.queue.items)
      (hb : Books.Loss r.length c.length gr.books gr'.books)
  | deliver {t : TaggedChunk} (hs : p.stream = t.chunk.lines.map .line ++ p'.stream)
      (hd : gr'.destination.queue.items = gr.destination.queue.items ++ [t])
      (hb : Books.Loss 0 0 gr.books gr'.books)

theorem Passage.keep (hs : p'.stream = p.stream)
    (hd : gr'.destination.queue.items = gr.destination.queue.items)
    (hb : Books.Loss 0 0 gr.books gr'.books) : Passage g role p p' gr gr' :=
  .edit (c := []) (r := []) (hs ▸ .keep) (.inl rfl) (.inl rfl) hd hb

theorem leaving_eq (ho : p.output = some o) : p.leaving = o.lines := by simp [leaving, ho]

theorem held_eq (hc : p.crew = some c) : p.held = c.stream p.sequencer.issued := by
  simp [held, hc]

/-! ## Parts of a pipeline -/

theorem lines_finish (h : o.Sound) : o.finish.lines = o.queue.items.flatMap Chunk.lines := by
  simp only [Output.lines, h.items_finish]
  rfl

/-- The output comes first in what a pipeline holds, and nothing else depends on it. -/
theorem stream_output {o' : Output} {l : List ByteArray} (ho : p.output = some o)
    (hl : o.lines = l ++ o'.lines) :
    p.stream = l.map .line ++ stream { p with output := some o' } := by
  rw [stream, stream, leaving_eq ho, leaving_eq rfl, hl, List.map_append, List.append_assoc,
    List.append_assoc, List.append_assoc]
  rfl

theorem stream_of_output {o' : Output} (ho : p.output = some o) (hl : o'.lines = o.lines) :
    stream { p with output := some o' } = p.stream :=
  (stream_output (l := []) ho (by rw [hl, List.nil_append])).symm

theorem stream_windDown (p : Pipeline) : p.windDown.stream = p.stream := by
  unfold windDown
  split
  · rfl
  · rename_i o ho
    simp only [stream, leaving, ho]
    rfl

theorem stream_start {bp : Blueprint} {stages : Stages} {tag : String} {now : Instant} (n : Nat) :
    (Crew.start bp stages tag now).stream n = [] := by
  unfold Crew.start
  split
  · rfl
  · refine List.append_eq_nil_iff.2 ⟨?_, rfl⟩
    refine List.flatMap_eq_nil_iff.2 fun r _ => List.flatMap_eq_nil_iff.2 fun c hc => ?_
    obtain ⟨k, -, rfl⟩ := List.mem_map.1 hc
    refine Child.stream_of_not_mem ?_
    simp [Child.tickets, Member.start, Blueprint.processor, Processor.new, Processor.tickets]

/-- Nothing is left of what a pipeline held when it has stopped. -/
theorem Sound.stream_stopped (h : p.Sound) (hs : p.status = .stopped) : p.stream = [] := by
  obtain ⟨hi, -, hroot, -⟩ := h.finished (.inr hs)
  have hout : p.leaving = [] := by
    rcases ho : p.output with _ | o
    · simp [leaving, ho]
    · have ht := h.drained hs o ho
      have hsound := h.output o ho
      have hheld := hsound.idle (hsound.tends.idle ht)
      have hq := (hsound.tends.emptied (by simp [ht])).2
      simp [leaving_eq ho, Output.lines, hheld, hq]
  have hended : ∀ {ticketed : Bool} {α : Type} {q : Queue α} {s : Sequencer} {m : Member},
      m.Sound ticketed s q → m.worker.phase = .stopped →
        m.processor.lines = [] ∧ m.processor.todo = [] ∧ q.items = [] := by
    intro ticketed α q s m hm hp
    obtain ⟨ha, -, hpending, hmaker, hq⟩ := hm.of_stopped hp
    refine ⟨Processor.lines_eq_nil ?_ hmaker, by simp [Processor.todo, ha], hq⟩
    rw [Processor.chunks_of_calm (by rw [ha]; rfl), hpending]
  have hheld : p.held = [] := by
    rcases hc : p.crew with _ | (m | ⟨w, d, cs⟩)
    · simp [held, hc]
    · obtain ⟨-, -, hm⟩ := h.crew _ hc
      obtain ⟨h1, h2, -⟩ := hended hm (hroot _ hc)
      simp [held_eq hc, Crew.stream, Member.stream, h1, h2]
    · have hteam := h.crew _ hc
      have hphase := TeamSound.stopped hteam (hroot _ hc)
      have ha := TeamSound.idle hteam ((TeamSound.tends hteam).idle (hroot _ hc))
      rw [held_eq hc]
      refine List.append_eq_nil_iff.2 ⟨?_, by simp [Distributor.todo, ha]⟩
      refine List.flatMap_eq_nil_iff.2 fun r _ => List.flatMap_eq_nil_iff.2 fun c hmem => ?_
      obtain ⟨k, hk⟩ := List.getElem?_of_mem hmem
      obtain ⟨h1, h2, h3⟩ := hended (TeamSound.child hteam k c hk).member (hphase c hmem)
      simp [Child.stream, Processor.linesIn, Processor.todoIn, h1, h2, h3]
  simp [stream, hout, hheld, hi]

/-! ## Steps of a single member -/

/-- A single member edits what it holds, and hands over from the front. -/
theorem passage_member {m : Member} {x : Member.Place} (hg : g.Proper) (h : p.Sound)
    (hw : p.Writes g) (hc : p.crew = some (.alone m)) (ho : p.output = some o)
    (hb : m.worker.busy = true) (hx : Member.Acts gr.now ⟨m, p.sequencer, o, gr.books⟩ x)
    (hp' : p' = { p with
      crew := some (.alone x.member)
      input := x.member.worker.leave p.input
      sequencer := x.sequencer
      output := some x.output })
    (hgr' : gr' = { gr with books := x.books }) :
    p'.Writes g ∧ Passage g .root p p' gr gr' := by
  have hcrew := h.crew _ hc
  have hitems := (hcrew.acts hb hx).2
  obtain ⟨hw', he⟩ := Member.effect_acts hg (hw _ hc m List.mem_cons_self)
    hcrew.2.2.sound.neat hx
  have hstream : p.stream = o.lines.map .line ++ m.stream
      ++ p.input.items.flatten.map .record := by
    rw [stream, leaving_eq ho, held_eq hc]
    rfl
  have hstream' : p'.stream = x.output.lines.map .line ++ x.member.stream
      ++ p.input.items.flatten.map .record := by
    rw [stream, leaving_eq (o := x.output) (by rw [hp']), held_eq (c := .alone x.member)
      (by rw [hp']), hp', hitems]
    rfl
  have hd : gr'.destination.queue.items = gr.destination.queue.items := by rw [hgr']
  have hbooks : gr'.books = x.books := by rw [hgr']
  refine ⟨fun c' hc' m' hm' => ?_, ?_⟩
  · obtain rfl : Crew.alone x.member = c' := by simpa [hp'] using hc'
    rw [List.mem_singleton.1 hm']
    exact hw'
  cases he with
  | same hp ho' hb' =>
    refine .keep ?_ hd (hbooks ▸ hb')
    rw [hstream, hstream', ho']
    simp only [Member.stream]
    rw [hp.1, hp.2.1]
  | task hs hp ho' hb' =>
    have hedit : Edit g [] [] m.stream x.member.stream := by
      unfold Member.stream
      cases hp with
      | same hl ht =>
        rw [hl, ht]
        exact .keep
      | filtered hl ht hv =>
        rw [hl, ht, List.map_cons]
        exact .filter hv
      | written hl ht hv hr ha =>
        rw [hl, ht, List.map_cons, List.map_append, List.append_assoc]
        exact .write hv
    refine .edit (c := []) (r := []) ?_ (.inl rfl) (.inl rfl) hd (hbooks ▸ hb')
    rw [hstream, hstream', ho']
    exact hedit.frame _ _
  | given hp ho' hb' =>
    refine .keep ?_ hd (hbooks ▸ hb')
    have hl := hp.lines
    have ht := hp.todo
    rw [hstream, hstream', ho']
    simp only [Member.stream, Output.lines, Queue.push_items, List.flatMap_append,
      List.flatMap_cons, List.flatMap_nil, List.append_nil, List.map_append, List.append_assoc]
    rw [hl, ht, List.map_append, List.append_assoc]
  | @lost e hp ho' hb' =>
    have hl := hp.lines
    have ht := hp.todo
    refine .edit (c := [e]) (r := []) ?_ (.inr ?_) (.inl rfl) hd (hbooks ▸ hb')
    · rw [hstream, hstream', ho']
      have hedit := Edit.drop (g := g) (a := []) (b := x.member.stream) e
      have heq : m.stream = e.lines.map .line ++ x.member.stream := by
        simp only [Member.stream]
        rw [hl, ht, List.map_append, List.append_assoc]
      rw [heq]
      exact hedit.frame _ _
    · have hfront := hp.front
      dsimp only at hfront
      simp [chunkInHand, hc, hfront]

theorem passage_memberCall {m : Member} {cb : Callback Batch} {w : Worker} {q : Queue Batch}
    (h : p.Sound) (hw : p.Writes g) (hc : p.crew = some (.alone m)) (hb : m.worker.busy = false)
    (hcb : m.worker.Calls gr.now (!p.input.isOpen) p.input cb w q) :
    Writes g { p with input := q, crew := some (.alone (m.begin gr.now cb.unordered w)) }
      ∧ stream { p with input := q, crew := some (.alone (m.begin gr.now cb.unordered w)) }
        = p.stream := by
  have hm := (h.crew _ hc).2.2
  have ha := hm.idle hb
  have htodo : m.processor.todo = [] := by simp [Processor.todo, ha]
  refine ⟨fun c' hc' m' hm' => ?_, ?_⟩
  · obtain rfl := Option.some.inj hc'
    rw [List.mem_singleton.1 hm']
    exact Member.writes_begin (hw _ hc m List.mem_cons_self) hm.sound ha
  · rw [stream, stream, held_eq (c := .alone (m.begin gr.now cb.unordered w)) rfl, held_eq hc]
    simp only [Crew.stream, Member.stream, htodo, List.map_nil, List.append_nil]
    cases hcb with
    | input hp hq =>
      simp only [Callback.unordered, Member.begin, Processor.lines_receive _ _ ha,
        (Processor.holds_receive _ _ ha).2.1, hq, List.flatten_cons, List.map_append,
        List.append_assoc]
      rfl
    | tick hp =>
      simp only [Callback.unordered, Member.begin, Processor.lines_tick ha,
        (Processor.holds_tick _ ha).2.1, htodo, List.map_nil, List.append_nil]
      rfl
    | lastTick hp =>
      simp only [Callback.unordered, Member.begin, Processor.lines_tick ha,
        (Processor.holds_tick _ ha).2.1, htodo, List.map_nil, List.append_nil]
      rfl
    | stop hp =>
      simp only [Callback.unordered, Member.begin, Processor.lines_stop hm.sound ha,
        (hm.sound.holds_stop _ ha).1, htodo, List.map_nil, List.append_nil]
      rfl

/-! ## Steps of a team -/

theorem stream_team {w : Worker} {d : Distributor} {cs : List Child}
    (hc : p.crew = some (.team w d cs)) :
    p.stream = p.leaving.map .line ++ (teamStream p.sequencer.issued cs ++ d.todo.map .record)
      ++ p.input.items.flatten.map .record := by
  rw [stream, held_eq hc]
  rfl

theorem Writes.child {w : Worker} {d : Distributor} {cs : List Child} {k : Nat} {e : Child}
    (hw : p.Writes g) (hc : p.crew = some (.team w d cs)) (hk : cs[k]? = some e) :
    e.member.processor.Writes g :=
  hw _ hc e.member (List.mem_map_of_mem (List.mem_of_getElem? hk))

theorem Writes.set {w w' : Worker} {d d' : Distributor} {cs : List Child} {k : Nat} {e : Child}
    (hw : p.Writes g) (hc : p.crew = some (.team w d cs)) (he : e.member.processor.Writes g)
    (hc' : p'.crew = some (.team w' d' (cs.set k e))) : p'.Writes g := by
  intro c' h m hm
  obtain rfl := Option.some.inj (hc'.symm.trans h)
  obtain ⟨e', he', rfl⟩ := List.mem_map.1 hm
  rcases List.mem_or_eq_of_mem_set he' with he' | rfl
  · exact hw _ hc _ (List.mem_map_of_mem he')
  · exact he

theorem Writes.team {w w' : Worker} {d d' : Distributor} {cs cs' : List Child}
    (hw : p.Writes g) (hc : p.crew = some (.team w d cs)) (hc' : p'.crew = some (.team w' d' cs'))
    (hcs : cs'.map Child.member = cs.map Child.member) : p'.Writes g := by
  intro c' h m hm
  obtain rfl := Option.some.inj (hc'.symm.trans h)
  have hm : m ∈ cs'.map Child.member := hm
  rw [hcs] at hm
  exact hw _ hc m hm

/-- A member behind the distributor edits what it holds of a run, and hands over from the front. -/
theorem passage_child {w : Worker} {d : Distributor} {cs : List Child} {k : Nat} {e : Child}
    {x : Member.Place} (hg : g.Proper) (h : p.Sound) (hw : p.Writes g)
    (hc : p.crew = some (.team w d cs)) (hk : cs[k]? = some e) (ho : p.output = some o)
    (hb : e.member.worker.busy = true)
    (hx : Member.Acts gr.now ⟨e.member, p.sequencer, o, gr.books⟩ x)
    (hp' : p' = { p.withTeam w d (cs.set k ⟨x.member.worker.leave e.queue, x.member⟩) with
      sequencer := x.sequencer
      output := some x.output })
    (hgr' : gr' = { gr with books := x.books }) :
    p'.Writes g ∧ Passage g (.child k) p p' gr gr' := by
  have hteam : TeamSound p.sequencer p.input w d cs := h.crew _ hc
  have hchild := hteam.child k e hk
  have hissued : x.sequencer.issued = p.sequencer.issued :=
    hchild.member.issued_acts (x := ⟨e.member, p.sequencer, o, gr.books⟩) hx
  obtain ⟨hw', he⟩ := Child.effect_acts hg hchild (hw.child hc hk) hb hteam.valid.nodup hx
  have hc' : p'.crew = some (.team w d (cs.set k ⟨x.member.worker.leave e.queue, x.member⟩)) := by
    rw [hp']
    rfl
  have hstream := stream_team hc
  have hstream' := stream_team hc'
  rw [leaving_eq ho] at hstream
  rw [leaving_eq (o := x.output) (by rw [hp'])] at hstream'
  have hseq : p'.sequencer.issued = p.sequencer.issued := by rw [hp']; exact hissued
  have hinput : p'.input = p.input := by rw [hp']; rfl
  rw [hseq, hinput] at hstream'
  have hd : gr'.destination.queue.items = gr.destination.queue.items := by rw [hgr']
  have hbooks : gr'.books = x.books := by rw [hgr']
  refine ⟨hw.set hc hw' hc', ?_⟩
  cases he with
  | same hs ho' hb' =>
    refine .keep ?_ hd (hbooks ▸ hb')
    rw [hstream, hstream', ho', teamStream_set hk hs]
  | task hr he hs ho' hb' =>
    refine .edit (c := []) (r := []) ?_ (.inl rfl) (.inl rfl) hd (hbooks ▸ hb')
    have hedit := teamStream_edit hk (hteam.lt_issued (List.mem_of_getElem? hk) hr) he hs
    rw [hstream, hstream', ho']
    exact (hedit.frame [] _).frame _ _
  | given hr ht he hs ho' hb' =>
    refine .keep ?_ hd (hbooks ▸ hb')
    rw [hstream, hstream', ho', hteam.stream_handOver hk hr ht he hs]
    simp only [Output.lines, Queue.push_items, List.flatMap_append, List.flatMap_cons,
      List.flatMap_nil, List.append_nil, List.map_append, List.append_assoc]
  | @lost e' r hr hf he hs ho' hb' =>
    refine .edit (c := [e']) (r := []) ?_ (.inr ?_) (.inl rfl) hd (hbooks ▸ hb')
    · have hdrop := Edit.drop (g := g) (a := [])
        (b := Child.stream r ⟨x.member.worker.leave e.queue, x.member⟩) e'
      rw [List.nil_append, ← he, List.nil_append] at hdrop
      have hedit := teamStream_edit hk (hteam.lt_issued (List.mem_of_getElem? hk) hr) hdrop hs
      rw [hstream, hstream', ho']
      exact (hedit.frame [] _).frame _ _
    · simp [chunkInHand, hc, hk, hf]

/-- A batch that a member is sent comes behind all others. -/
theorem stream_sent {w : Worker} {d : Distributor} {cs : List Child} {b : OrderedBatch}
    {l : List Delivery} {e : Child} (h : p.Sound) (hc : p.crew = some (.team w d cs))
    (ha : d.agenda = .offer b :: l) (hk : cs[d.current]? = some e) :
    (p.withTeam w d.next (cs.set d.current { e with queue := e.queue.push b })).stream
      = p.stream := by
  have hteam : TeamSound p.sequencer p.input w d cs := h.crew _ hc
  have hdel := hteam.delivers
  rw [ha] at hdel
  obtain ⟨-, ⟨r, hr, hlast, hcur⟩, -⟩ := hdel
  have hpush := Child.stream_push (c := e) hr
  have hown : Child.stream r { e with queue := e.queue.push b }
      = e.stream r ++ b.records.map .record := by rw [hpush, if_pos rfl]
  have hstream := teamStream_push hk hlast (hteam.stream_other hcur.symm) hown
    fun r' hne => by rw [hpush, if_neg hne.symm, List.append_nil]
  have htodo : d.todo = b.records ++ d.next.todo := by
    simp [Distributor.todo, Distributor.next, ha, Delivery.records]
  rw [stream_team (p := p.withTeam _ _ _) rfl, stream_team hc, htodo]
  change p.leaving.map Item.line ++ (teamStream p.sequencer.issued _ ++ _) ++ _ = _
  rw [hstream]
  simp [withTeam]

theorem stream_received {w w' : Worker} {d d' : Distributor} {cs : List Child} {b : List Batch}
    {q : Queue Batch} {s' : Sequencer} (h : p.Sound) (hc : p.crew = some (.team w d cs))
    (hb : w.busy = false) (hq : p.input.items = b ++ q.items) (hd : d'.todo = b.flatten)
    (hs : s'.issued = p.sequencer.issued ∨ s'.issued = p.sequencer.issued + 1) :
    stream { p.withTeam w' d' cs with input := q, sequencer := s' } = p.stream := by
  have hteam : TeamSound p.sequencer p.input w d cs := h.crew _ hc
  have hn : teamStream s'.issued cs = teamStream p.sequencer.issued cs := by
    rcases hs with hs | hs <;> rw [hs]
    exact teamStream_succ hteam.stream_new
  have htodo : d.todo = [] := by simp [Distributor.todo, hteam.idle hb]
  rw [stream_team (p := { p.withTeam w' d' cs with input := q, sequencer := s' }) rfl,
    stream_team hc, htodo, hq, hn, hd]
  simp [leaving, withTeam]

theorem stream_withTeam {w w' : Worker} {d d' : Distributor} {cs cs' : List Child}
    (hc : p.crew = some (.team w d cs))
    (hcs : teamStream p.sequencer.issued cs' = teamStream p.sequencer.issued cs)
    (hd : d'.todo = d.todo) : (p.withTeam w' d' cs').stream = p.stream := by
  rw [stream_team (p := p.withTeam w' d' cs') rfl, stream_team hc, hd, ← hcs]
  rfl

/-- The records of a batch that is not sent are lost. -/
theorem edit_unsent {w : Worker} {d : Distributor} {cs : List Child} {b : OrderedBatch}
    {l : List Delivery} (hc : p.crew = some (.team w d cs)) (ha : d.agenda = .offer b :: l) :
    Edit g [] b.records p.stream
      (stream { p.withTeam w d.next cs with
        sequencer := b.run.elim p.sequencer p.sequencer.release }) := by
  have hissued : (b.run.elim p.sequencer p.sequencer.release).issued = p.sequencer.issued := by
    cases b.run <;> simp
  have htodo : d.todo = b.records ++ d.next.todo := by
    simp [Distributor.todo, Distributor.next, ha, Delivery.records]
  have hedit := Edit.lose (g := g)
    (a := p.leaving.map .line ++ teamStream p.sequencer.issued cs)
    (b := d.next.todo.map .record ++ p.input.items.flatten.map .record) b.records
  rw [stream_team (p := { p.withTeam w d.next cs with
    sequencer := b.run.elim p.sequencer p.sequencer.release }) rfl, stream_team hc, hissued, htodo]
  simp only [List.map_append, List.append_assoc] at hedit ⊢
  exact hedit

/-- Without workers the records of each batch are lost. -/
theorem edit_drain {b : Batch} {rest : List Batch} (hc : p.crew = none)
    (hq : p.input.items = b :: rest) :
    Edit g [] b p.stream (stream { p with input.items := rest }) := by
  have hedit := Edit.lose (g := g) (a := p.leaving.map .line) (b := rest.flatten.map .record) b
  have hheld : p.held = [] := by simp [held, hc]
  have h1 : p.stream = p.leaving.map .line ++ b.map .record ++ rest.flatten.map .record := by
    rw [stream, hheld, hq]
    simp
  have h2 : stream { p with input.items := rest }
      = p.leaving.map .line ++ rest.flatten.map .record := by
    simp only [stream]
    rw [show held { p with input.items := rest } = [] from hheld, List.append_nil]
    rfl
  rw [h1, h2]
  exact hedit

/-! ## Every step -/

theorem Writes.of_crew (hw : p.Writes g) (hc : p'.crew = p.crew) : p'.Writes g :=
  fun c h => hw c (hc ▸ h)

theorem writes_start {bp : Blueprint} {tag : String} {now : Instant} :
    ∀ m ∈ (Crew.start bp g tag now).members, m.processor.Writes g := by
  intro m hm
  unfold Crew.start at hm
  split at hm
  · rw [List.mem_singleton.1 hm]
    exact ⟨rfl, .inl rfl⟩
  · obtain ⟨c, hc, rfl⟩ := List.mem_map.1 hm
    obtain ⟨k, -, rfl⟩ := List.mem_map.1 hc
    exact ⟨rfl, .inl rfl⟩

/-- Steps that only wind down or start the pipeline keep what it holds. -/
theorem passage_windDown (hw : p.Writes g) :
    p.windDown.Writes g ∧ Passage g .supervisor p p.windDown gr gr := by
  refine ⟨hw.of_crew ?_, .keep (stream_windDown p) rfl ⟨rfl, rfl⟩⟩
  unfold windDown
  split <;> rfl

theorem Sound.leaving_start (h : p.Sound) (hst : p.status = .starting)
    (hcheck : gr.blueprint.settings.check = .ok ()) {capacity : Nat}
    (ho : Output.start p.tag p.id capacity gr.blueprint.worker gr.now gr.destination = .ok o) :
    p.leaving = [] ∧ o.lines = [] := by
  obtain ⟨-, -, h1, h2⟩ := Output.sound_start (PipelineSettings.of_check hcheck).2.2.2 ho
  exact ⟨by simp [leaving, h.outputless (.inl hst)], by simp [Output.lines, h1, h2]⟩

theorem lines_held (h : o.Sound) {d : Chunk} {deadline : Instant}
    (hh : o.held = some (d, deadline)) : o.lines = d.lines ++ o.finish.lines := by
  rw [lines_finish h]
  simp [Output.lines, hh]

/-- A step of a party edits what the pipeline holds, or delivers what is at its front. -/
theorem Sound.passage_step (h : p.Sound) (hg : g.Proper) (hst : p.status ≠ .collecting)
    (hw : p.Writes g) (hstages : gr.blueprint.stages = some g)
    (hcheck : gr.blueprint.settings.check = .ok ()) (hs : Step i p gr role p' gr') :
    p'.Writes g ∧ Passage g role p p' gr gr' := by
  cases hs with
  | collect hs hb => exact ⟨hw, .keep rfl rfl ⟨rfl, rfl⟩⟩
  | noOutput hs => exact ⟨hw, .keep rfl rfl ⟨rfl, rfl⟩⟩
  | noStages hs ho =>
    obtain ⟨h1, h2⟩ := h.leaving_start hs hcheck ho
    refine ⟨hw, .keep ?_ rfl ⟨rfl, rfl⟩⟩
    rw [stream, stream, h1, leaving_eq rfl, h2]
    rfl
  | @launch o capacity stages hs ho hstages' =>
    obtain rfl := Option.some.inj (hstages.symm.trans hstages')
    obtain ⟨h1, h2⟩ := h.leaving_start hs hcheck ho
    refine ⟨fun c hc => ?_, .keep ?_ rfl ⟨rfl, rfl⟩⟩
    · obtain rfl := Option.some.inj hc
      exact writes_start
    · have hheld : p.held = [] := by simp [held, h.crewless (.inl hs)]
      rw [stream, stream, h1, hheld, leaving_eq rfl, h2, held_eq rfl, stream_start]
  | report hs hq => exact absurd hs hst
  | reported hs hq => exact absurd hs hst
  | @drain b rest hs hq =>
    exact ⟨hw, .edit (c := []) (r := b) (edit_drain (h.crewless (.inr (.inr hs))) hq) (.inl rfl)
      (.inr (by simp [batchInHand, hq])) rfl ⟨rfl, rfl⟩⟩
  | drained hs hq => exact passage_windDown hw
  | crewGone hs hc => exact passage_windDown hw
  | outputGone hs ho => exact ⟨hw, .keep rfl rfl ⟨rfl, rfl⟩⟩
  | @deliver o c deadline ho hh =>
    exact ⟨hw, .deliver (t := ⟨o.tag, o.id, c⟩) (stream_output ho (lines_held (h.output o ho) hh))
      rfl ⟨rfl, rfl⟩⟩
  | @giveUp o c deadline timedOut ho hh =>
    refine ⟨hw, .edit (c := [c]) (r := []) ?_ (.inr (by simp [chunkInHand, ho, hh])) (.inl rfl)
      rfl (by cases timedOut <;> exact ⟨rfl, rfl⟩)⟩
    rw [stream_output ho (lines_held (h.output o ho) hh)]
    exact Edit.drop (a := []) c
  | claim =>
    refine ⟨hw, .keep rfl ?_ ⟨rfl, rfl⟩⟩
    unfold Destination.claim
    split <;> rfl
  | @consumed o ho hh hb =>
    refine ⟨hw, .keep (stream_of_output ho ?_) rfl ⟨rfl, rfl⟩⟩
    rw [lines_finish (h.output o ho)]
    simp [Output.lines, hh]
  | @consume o w c deadline q ho hh hb hc =>
    refine ⟨hw, .keep (stream_of_output ho ?_) rfl ⟨rfl, rfl⟩⟩
    cases hc with
    | input hp hq => simp [Output.lines, hh, hq]
  | @consumerCall o w cb q ho hh hb hc hcb =>
    refine ⟨hw, .keep (stream_of_output ho ?_) rfl ⟨rfl, rfl⟩⟩
    cases hc with
    | input hp hq => exact absurd rfl (hcb _ _)
    | tick hp => rfl
    | lastTick hp => rfl
    | stop hp => rfl
  | member hc ho hb hx => exact passage_member hg h hw hc ho hb hx rfl rfl
  | memberCall hc hb hcb =>
    obtain ⟨h1, h2⟩ := passage_memberCall h hw hc hb hcb
    exact ⟨h1, .keep h2 rfl ⟨rfl, rfl⟩⟩
  | @distributed w d cs hc hb ha =>
    refine ⟨hw.team hc rfl rfl, .keep ?_ rfl ⟨rfl, rfl⟩⟩
    rw [stream_team (p := { p.withTeam w.finish d cs with input := w.finish.leave p.input }) rfl,
      stream_team hc, h.items_leave hc]
    rfl
  | @sent w d cs b l c hc hb ha hd hq hr hroom =>
    have hwrites := hw.child hc hq
    refine ⟨hw.set (e := { c with queue := c.queue.push b }) hc hwrites rfl, ?_⟩
    exact .keep (stream_sent h hc ha hq) rfl ⟨rfl, rfl⟩
  | @unsent w d cs b l timedOut hc hb ha =>
    refine ⟨hw.team hc rfl rfl, .edit (c := []) (r := b.records) ?_ (.inl rfl) (.inr ?_) rfl ?_⟩
    · exact edit_unsent hc ha
    · simp [batchInHand, hc, ha, Delivery.records]
    · cases timedOut <;> exact ⟨rfl, rfl⟩
  | @rotate w d cs l hc hb ha =>
    refine ⟨hw.team hc rfl rfl, .keep (stream_withTeam hc rfl ?_) rfl ⟨rfl, rfl⟩⟩
    simp [Distributor.todo, Distributor.rotate, Distributor.next, ha, Delivery.records]
  | @letGo w d cs l hc hb ha =>
    refine ⟨hw.team hc rfl (by simp), .keep (stream_withTeam hc ?_ ?_) rfl ⟨rfl, rfl⟩⟩
    · simp only [teamStream, List.flatMap_map]
      rfl
    · simp [Distributor.todo, Distributor.letGo, Distributor.next, ha, Delivery.records]
  | @awaited w d cs l hc hb ha hs =>
    refine ⟨hw.team hc rfl rfl, .keep (stream_withTeam hc rfl ?_) rfl ⟨rfl, rfl⟩⟩
    simp [Distributor.todo, Distributor.next, ha, Delivery.records]
  | @receive w w' d cs b deadline q hc hb hcb =>
    refine ⟨hw.team hc rfl rfl, .keep (stream_received (b := [b]) h hc hb ?_ ?_ ?_) rfl ⟨rfl, rfl⟩⟩
    · cases hcb with
      | input hp hq => exact hq
    · rw [Distributor.todo_receive]
      simp
    · exact d.issued_receive b p.sequencer
  | @tick w w' d cs q hc hb hcb =>
    refine ⟨hw.team hc rfl rfl, .keep (stream_received (b := []) h hc hb ?_ ?_ (.inl rfl)) rfl
      ⟨rfl, rfl⟩⟩
    · cases hcb <;> rfl
    · exact d.todo_tick
  | @stop w w' d cs q hc hb hcb =>
    refine ⟨hw.team hc rfl rfl, .keep (stream_received (b := []) h hc hb ?_ ?_ (.inl rfl)) rfl
      ⟨rfl, rfl⟩⟩
    · cases hcb
      rfl
    · exact d.todo_stop
  | child hc hk ho hb hx => exact passage_child hg h hw hc hk ho hb hx rfl rfl
  | @childCall w w' d cs k c cb q hc hk hb hcb =>
    have hteam : TeamSound p.sequencer p.input w d cs := h.crew _ hc
    have hm := (hteam.child k c hk).member
    refine ⟨hw.set (e := ⟨q, c.member.begin gr.now cb w'⟩) hc ?_ rfl, ?_⟩
    · exact Member.writes_begin (hw.child hc hk) hm.sound (hm.idle hb)
    · refine .keep (stream_withTeam hc (teamStream_set hk ?_) rfl) rfl ⟨rfl, rfl⟩
      exact Child.stream_call (hteam.child k c hk) hb hcb
  | rest => exact ⟨hw, .keep rfl rfl ⟨rfl, rfl⟩⟩

end Pipeline

end LogPipeline
