import LogPipeline.Proofs.Closings

/-!
# What a shutdown leaves behind

An output is shut down after the last worker of its pipeline has stopped, and before the owner token
is let go of (`Depot.InOrder`). Once a shutdown has returned, nothing is left in any pipeline
(`Depot.Drained`), and nothing comes to one any more. What sinks hold or are given then is lost, and
counted once (`Depot.Afterwards`).
-/

namespace LogPipeline

open Relation

/-! ## A pipeline at its end -/

/-- All workers of a crew, the root first. -/
def Crew.workers : Crew → List Worker
  | alone m => [m.worker]
  | team w _ cs => w :: cs.map (·.member.worker)

namespace Pipeline

variable {p : Pipeline} {o : Output}

/-- Nothing is in the input or can come, and every worker has stopped. -/
structure Unmanned (p : Pipeline) : Prop where
  input : p.input.items = [] ∧ p.input.isOpen = false
  workers : ∀ c, p.crew = some c → ∀ w ∈ c.workers, w.phase = .stopped

/-- Nothing is left in any part of the pipeline. -/
structure Empty (p : Pipeline) : Prop where
  unmanned : p.Unmanned
  members : ∀ c, p.crew = some c → ∀ m ∈ c.members, m.processor.agenda = []
    ∧ m.processor.run = none ∧ m.processor.pending = [] ∧ m.processor.maker.hasPending = false
  queues : ∀ w d cs, p.crew = some (.team w d cs) →
    d.agenda = [] ∧ ∀ c ∈ cs, c.queue.items = []
  output : ∀ o, p.output = some o → o.queue.items = [] ∧ o.queue.isOpen = false
    ∧ o.held = none ∧ o.consumer.phase = .stopped

theorem Sound.unmanned (h : p.Sound) (hs : p.status = .stopping ∨ p.status = .stopped) :
    p.Unmanned := by
  obtain ⟨hitems, hopen, hroot, -⟩ := h.finished hs
  refine ⟨⟨hitems, hopen⟩, fun c hc w hw => ?_⟩
  cases c with
  | alone m =>
    rw [List.mem_singleton.1 hw]
    exact hroot _ hc
  | team w' d cs =>
    rcases List.mem_cons.1 hw with rfl | hw
    · exact hroot _ hc
    · obtain ⟨c, hmem, rfl⟩ := List.mem_map.1 hw
      exact TeamSound.stopped (h.crew _ hc) (hroot _ hc) c hmem

/-- An output is shut down after the last worker has stopped. -/
theorem Sound.unmanned_of_shut (h : p.Sound) (ho : p.output = some o)
    (hc : o.queue.isOpen = false) : p.Unmanned := by
  refine h.unmanned ?_
  rcases hs : p.status
  case stopping => exact .inl rfl
  case stopped => exact .inr rfl
  case running | draining =>
    have hopen := h.opened (by simp [hs]) o ho
    simp [hc] at hopen
  case starting | collecting =>
    have hnone := h.outputless (by simp [hs])
    simp [ho] at hnone

/-- Nothing is left in a pipeline that has stopped. -/
theorem Sound.empty (h : p.Sound) (hs : p.isStopped = true) : p.Empty := by
  have hst : p.status = .stopped := by simpa [isStopped] using hs
  obtain ⟨-, -, hroot, hclosed⟩ := h.finished (.inr hst)
  have hteam : ∀ {w d cs}, p.crew = some (.team w d cs) → TeamSound p.sequencer p.input w d cs :=
    fun hc => h.crew _ hc
  have hchild : ∀ {w d cs}, p.crew = some (.team w d cs) → ∀ c ∈ cs, c.member.processor.agenda = []
      ∧ c.member.processor.run = none ∧ c.member.processor.pending = []
      ∧ c.member.processor.maker.hasPending = false ∧ c.queue.items = [] := by
    intro w d cs hc c hmem
    obtain ⟨k, hk⟩ := List.getElem?_of_mem hmem
    exact ((hteam hc).child k c hk).member.of_stopped ((hteam hc).stopped (hroot _ hc) c hmem)
  refine ⟨h.unmanned (.inr hst), fun c hc m hm => ?_, fun w d cs hc => ?_, fun o ho => ?_⟩
  · cases c with
    | alone m' =>
      obtain rfl := List.mem_singleton.1 hm
      obtain ⟨ha, hrun, hpending, hmaker, -⟩ := (h.crew _ hc).2.2.of_stopped (hroot _ hc)
      exact ⟨ha, hrun, hpending, hmaker⟩
    | team w d cs =>
      obtain ⟨c, hmem, rfl⟩ := List.mem_map.1 hm
      obtain ⟨ha, hrun, hpending, hmaker, -⟩ := hchild hc c hmem
      exact ⟨ha, hrun, hpending, hmaker⟩
  · refine ⟨(hteam hc).idle ((hteam hc).tends.idle (hroot _ hc)), fun c hmem => ?_⟩
    obtain ⟨-, -, -, -, hq⟩ := hchild hc c hmem
    exact hq
  · have hphase := h.drained hst o ho
    have hsound := h.output o ho
    exact ⟨(hsound.tends.emptied (by simp [hphase])).2, hclosed o ho,
      hsound.idle (hsound.tends.idle hphase), hphase⟩

end Pipeline

/-! ## Nothing happens any more -/

/-- A pipeline that has stopped stays as it is, and so does what others see of it. -/
theorem Pipeline.Sound.stays {p p' : Pipeline} {g g' : Ground} {i : Nat} {role : Role}
    (h : p.Sound) (hs : p.isStopped = true) (hstep : p.Step i g role p' g') :
    p' = p ∧ g'.books = g.books ∧ g'.destination.queue = g.destination.queue := by
  have hst : p.status = .stopped := by simpa [Pipeline.isStopped] using hs
  obtain ⟨-, hroot, hchildren, hconsumer, -⟩ := h.ended hs
  have hheld : ∀ o, p.output = some o → o.held = none := fun o ho =>
    (h.output o ho).idle ((h.output o ho).tends.idle (hconsumer o ho))
  cases hstep with
  | claim => exact ⟨rfl, rfl, Destination.queue_claim i _⟩
  | rest => exact ⟨rfl, rfl, rfl⟩
  | deliver ho hh | giveUp ho hh => simp [hheld _ ho] at hh
  | consumed ho hh hb => exact absurd (hconsumer _ ho) ((h.output _ ho).tends.running hb)
  | consume ho hh hb hc | consumerCall ho hh hb hc => exact absurd (hconsumer _ ho) hc.phase
  | member hc ho hb => exact absurd (hroot _ hc) ((h.crew _ hc).2.2.tends.running hb)
  | memberCall hc hb hcb => exact absurd (hroot _ hc) hcb.phase
  | distributed hc hb | sent hc hb | unsent hc hb | rotate hc hb | letGo hc hb | awaited hc hb =>
    exact absurd (hroot _ hc) ((TeamSound.tends (h.crew _ hc)).running hb)
  | receive hc hb hcb | tick hc hb hcb | stop hc hb hcb => exact absurd (hroot _ hc) hcb.phase
  | child hc hk ho hb =>
    have hphase := hchildren _ _ _ hc _ (List.mem_of_getElem? hk)
    exact absurd hphase ((TeamSound.child (h.crew _ hc) _ _ hk).member.tends.running hb)
  | childCall hc hk hb hcb =>
    exact absurd (hchildren _ _ _ hc _ (List.mem_of_getElem? hk)) hcb.phase
  | collect hs | noOutput hs | noStages hs | launch hs | report hs | reported hs | drain hs
    | drained hs | crewGone hs | outputGone hs => simp [hst] at hs

namespace Plant

variable {x x' : Plant}

theorem Sound.stays (h : x.Sound) (hs : ∀ p ∈ x.pipelines, p.isStopped = true)
    (hstep : x.Step x') : x'.pipelines = x.pipelines ∧ x'.ground.books = x.ground.books
      ∧ x'.ground.destination.queue = x.ground.destination.queue := by
  cases hstep with
  | pipeline hp hstep =>
    have hmem := List.mem_of_getElem? hp
    obtain ⟨rfl, hbooks, hqueue⟩ := (h.pipelines _ hmem).1.stays (hs _ hmem) hstep
    exact ⟨(List.getElem?_eq_some_iff.1 hp).2 ▸ List.set_getElem_self _, hbooks, hqueue⟩
  | rest => exact ⟨rfl, rfl, rfl⟩

theorem send_eq_closed (hx : ∀ p ∈ x.pipelines, p.input.isOpen = false) (deadline : Instant)
    (i : Nat) (b : Batch) : x.send deadline i b = .failed .closed := by
  unfold send
  rcases hp : x.pipelines[i]? with _ | p
  · simp
  · simp [hx p (List.mem_of_getElem? hp)]

end Plant

namespace Depot

variable {d d' d'' : Depot} {o : Orchestrator} {l : List Batch}

/-- What stays as it is when all is over. -/
structure Stays (d d' : Depot) : Prop where
  pipelines : d'.pipelines = d.pipelines
  launched : d'.counters.pipelinesLaunched = d.counters.pipelinesLaunched
  unworked : d.orchestrator.books.Unworked d'.orchestrator.books
  entered : d'.entered = d.entered
  delivered : d'.delivered = d.delivered

theorem Stays.refl (d : Depot) : d.Stays d := ⟨rfl, rfl, .refl _, rfl, rfl⟩

theorem Stays.trans (h : d.Stays d') (h' : d'.Stays d'') : d.Stays d'' :=
  ⟨h'.pipelines.trans h.pipelines, h'.launched.trans h.launched, h.unworked.trans h'.unworked,
    h'.entered.trans h.entered, h'.delivered.trans h.delivered⟩

theorem Over.closed (hd : d.Over) (h : d.Sound) : d.Closed :=
  ⟨hd.shut, fun p hp =>
    ((h.orchestrator.plant.pipelines p hp).1.empty (hd.stopped p hp)).unmanned.input.2⟩

theorem Over.stays (hd : d.Over) (h : d.Sound) (hm : Move d d') : d.Stays d' := by
  have hsame : d'.pipelines = d.pipelines → d'.orchestrator.books = d.orchestrator.books →
      d'.entered = d.entered → d'.delivered = d.delivered → d.Stays d' := fun hp hb he hn =>
    ⟨hp, congrArg (·.counters.pipelinesLaunched) hb, hb ▸ .refl _, he, hn⟩
  cases h.effect hm with
  | served hx he hn =>
    obtain ⟨rfl, hpipelines, hbooks⟩ := hx.stays hd.shut (hd.closed h).inputs
    exact ⟨hpipelines, hbooks.launched, hx.unworked, he.trans (List.append_nil _), hn⟩
  | step hs he hn =>
    obtain ⟨hpipelines, hbooks, hqueue⟩ := h.orchestrator.plant.stays hd.stopped hs
    exact hsame hpipelines hbooks he (hn (congrArg Queue.items hqueue))
  | closed i hp he hn =>
    have hplant := hp.trans (Plant.close_eq (hd.closed h).inputs i)
    exact hsame (congrArg Plant.pipelines hplant) (congrArg (·.ground.books) hplant) he hn
  | kept hp hb he hn => exact hsame hp hb he hn

theorem Over.move (hd : d.Over) (h : d.Sound) (hm : Move d d') : d'.Over :=
  ⟨hd.shut.move h hm, (hd.stays h hm).pipelines ▸ hd.stopped⟩

/-! ## What is lost -/

/-- The records that a sink holds. -/
def held (id : Nat) (d : Depot) : Batch := ((d.orchestrator.sink? id).map Sink.pending).getD []

/-- The records that sinks hold, and those in the hands of calls. -/
def waiting (d : Depot) : Nat := d.orchestrator.gathered + d.carried

/-- A call has lost some records, and has the rest of its errands left to do. -/
structure Loss (n k : Nat) (l : List Errand) (d d' : Depot) : Prop where
  lost : d'.counters.recordsLost = d.counters.recordsLost + n
  gathered : d'.orchestrator.gathered = d.orchestrator.gathered
  visits : ∃ v, d.visits[k]? = some v
    ∧ d'.visits = d.visits.set k { v with errands := l, sender := none }

/-- How records are lost when all is over. No call waits for anything. What a dropped sink holds is
lost, what a flushed sink holds is lost once the call sends it, and what a sink without buffers is
given is lost at once. -/
structure Loses (d : Depot) : Prop where
  able : ∀ v ∈ d.visits, v.errands ≠ [] → (d.orchestrator.lend v).callAble = true
  dropped : ∀ id, (d.change (d.orchestrator.dropSink id)).counters.recordsLost
    = d.counters.recordsLost + (d.held id).length
  flushed : ∀ id, (d.call id (d.orchestrator.close id)).held id = []
    ∧ (d.call id (d.orchestrator.close id)).carried = d.carried + (d.held id).length
  sent : ∀ (k : Nat) (v : Visit) (i : Nat) (b : Batch) (l : List Errand),
    d.visits[k]? = some v → v.errands = .send i b :: l → Loss b.length k l d (d.goOn k)
  refused : ∀ (k : Nat) (v : Visit) (id : Nat) (r : Record) (l : List Errand),
    d.visits[k]? = some v → v.errands = .route id r :: l →
    (∀ s, d.orchestrator.sink? id = some s → s.outlets = []) → Loss 1 k l d (d.goOn k)

/-- A sink without buffers has nowhere to put a record, and no pipeline is launched for it. -/
theorem route_of_outlets {o : Orchestrator} (ho : o.router.isOpen = false) {id : Nat}
    (hs : ∀ s, o.sink? id = some s → s.outlets = []) (r : Record) :
    o.route id r = (o.onBooks (·.lose [r])).next none := by
  unfold Orchestrator.route
  split
  · rename_i out _ hsink
    simpa [Sink.outlets] using hs _ hsink
  · rename_i cache fields template map hsink hr
    have hcache : cache.entries = [] := by simpa [Sink.outlets] using hs _ hsink
    have hd : map.destroyed = true := by simpa [hr, Router.isOpen] using ho
    simp only [LocalCache.getOrCreate, LocalCache.find?, hcache, List.find?_nil, Option.map_none,
      KeyMap.getOrCreate, hd, ↓reduceIte, bind, Except.bind]
  · rfl

theorem loss_goOn {k n : Nat} {v : Visit} {t : Errand} {l : List Errand}
    (hv : d.visits[k]? = some v) (hl : v.errands = t :: l) {f : Books → Books}
    (hf : ∀ b, (f b).counters.recordsLost = b.counters.recordsLost + n)
    (hact : (d.orchestrator.lend v).callAct
      = ((d.orchestrator.lend v).onBooks f).next none)
    (hwaits : (d.orchestrator.lend v).waitsFor = none) : Loss n k l d (d.goOn k) := by
  have hrest : (d.orchestrator.lend v).callAct.errands = l := by
    rw [hact]
    simp [Orchestrator.next, Orchestrator.onBooks, Orchestrator.lend, hl]
  refine ⟨?_, ?_, ⟨v, hv, ?_⟩⟩
  · simp only [Depot.goOn, hv, counters, Depot.change, hact]
    exact hf _
  · simp only [Depot.goOn, hv, Depot.change, hact]
    rfl
  · simp only [Depot.goOn, hv, hrest, hwaits]

/-- A sink that is flushed hands over what it holds. -/
theorem flushed (id : Nat) (d : Depot) : (d.call id (d.orchestrator.close id)).held id = []
    ∧ (d.call id (d.orchestrator.close id)).carried = d.carried + (d.held id).length := by
  unfold held carried Depot.call Depot.change Orchestrator.close
  rcases hs : d.orchestrator.sink? id with _ | s
  · have hnone : d.orchestrator.sinks.find? (·.1 == id) = none := by
      simpa [Orchestrator.sink?] using hs
    simp [Orchestrator.begin, Orchestrator.sink?, hnone]
  · have hput := Orchestrator.sink?_putSink hs s.emptied id
    constructor
    · show ((Orchestrator.sink? id (d.orchestrator.putSink id s.emptied)).map _).getD [] = []
      simp [hput]
    · simp only [Orchestrator.begin, total_append, total_cons, total_nil, total_map,
        Option.map_some, Option.getD_some]
      change _ + (total (fun b => b.2.length) s.batches + 0) = _
      rw [s.load_batches, s.length_pending, Nat.add_zero]

theorem Over.loses (hd : d.Over) (h : d.Sound) : d.Loses := by
  refine ⟨fun v => (hd.closed h).able h, fun id => rfl, (d.flushed ·), fun k v i b l hv hl => ?_,
    fun k v id r l hv hl hs => ?_⟩
  · have hsend := Plant.send_eq_closed (hd.closed h).inputs v.deadline i b
    refine loss_goOn hv hl (f := (·.loseSend false b)) (fun _ => rfl) ?_ ?_
    · simp only [Orchestrator.callAct, Orchestrator.lend, hl, hsend]
      rfl
    · simp only [Orchestrator.waitsFor, Orchestrator.sends?, Orchestrator.lend, hl, hsend]
  · refine loss_goOn hv hl (f := (·.lose [r])) (fun _ => rfl) ?_ ?_
    · have hroute := route_of_outlets (o := d.orchestrator.lend v) hd.shut hs r
      simp only [Orchestrator.callAct, Orchestrator.lend, hl] at hroute ⊢
      exact hroute
    · simp only [Orchestrator.waitsFor, Orchestrator.sends?, Orchestrator.lend, hl]

/-- What comes after the end of a shutdown: the pipelines stay as they are, nothing more comes to
one or out of it, and every record that leaves the sinks and the calls is counted lost, once. -/
structure Afterwards (d d' : Depot) : Prop extends d.Stays d' where
  lost : d'.counters.recordsLost + d'.waiting + d.counters.recordsIn
    = d.counters.recordsLost + d.waiting + d'.counters.recordsIn
  loses : d'.Loses

theorem Over.load (hd : d.Over) (h : d.Sound) : d.orchestrator.plant.load = 0 :=
  h.orchestrator.plant.load_stopped hd.stopped

theorem Over.afterwards (hd : d.Over) (h : d.Sound) (hb : d.Balanced)
    (hr : ReflTransGen Move d d') : d.Afterwards d' := by
  obtain ⟨hstays, hd', h', hb'⟩ : d.Stays d' ∧ d'.Over ∧ d'.Sound ∧ d'.Balanced := by
    induction hr with
    | refl => exact ⟨.refl d, hd, h, hb⟩
    | tail _ hm ih =>
      obtain ⟨hstays, hd', h', hb'⟩ := ih
      exact ⟨hstays.trans (hd'.stays h' hm), hd'.move h' hm, h'.move hm, hb'.move h' hm⟩
  refine ⟨hstays, ?_, hd'.loses h'⟩
  have hin := hb.entered
  have hin' := hb'.entered
  simp only [Depot.load, hd.load h, hd'.load h', Counters.recordsAccounted] at hin hin'
  have hfiltered : d'.counters.recordsFiltered = d.counters.recordsFiltered :=
    hstays.unworked.filtered
  have hserialized : d'.counters.recordsSerialized = d.counters.recordsSerialized :=
    hstays.unworked.serialized
  simp only [waiting]
  omega

/-! ## What is left -/

/-- The router still has the owner token of a pipeline. -/
def HoldsToken (i : Nat) (d : Depot) : Prop :=
  match d.orchestrator.router with
  | .single _ => ∃ p, d.pipelines[i]? = some p ∧ p.isStopped = false
  | .keyed _ _ map => i ∈ map.live

/-- An output is shut down after the last worker of its pipeline has stopped, and before the owner
token is let go of. -/
structure InOrder (d : Depot) : Prop where
  workers : ∀ p ∈ d.pipelines, ∀ o, p.output = some o → o.queue.isOpen = false → p.Unmanned
  token : ∀ (i : Nat) (p : Pipeline), d.pipelines[i]? = some p → ¬d.HoldsToken i →
    p.Ended ∧ ∀ o, p.output = some o → o.queue.isOpen = false

theorem Sound.inOrder (h : d.Sound) : d.InOrder := by
  refine ⟨fun p hp o => ((h.orchestrator.plant.pipelines p hp).1.unmanned_of_shut),
    fun i p hp hn => ?_⟩
  have hsound := (h.orchestrator.plant.pipelines p (List.mem_of_getElem? hp)).1
  have hstop : p.isStopped = true := by
    by_contra hs
    have hs : p.isStopped = false := Bool.eq_false_iff.2 hs
    refine hn ?_
    unfold HoldsToken
    split
    · exact ⟨p, hp, hs⟩
    · exact (h.orchestrator.owned _ _ _ ‹_›).2 i p hp hs
  exact ⟨hsound.ended hstop, fun o ho => ((hsound.empty hstop).output o ho).2.1⟩

/-- Nothing is left in any pipeline and nobody can bring anything. What came into an input was
processed or was lost, and what did not is lost or waits outside. -/
structure Drained (d : Depot) : Prop where
  pipelines : ∀ p ∈ d.pipelines, p.Ended ∧ p.Empty
  senders : ∀ v ∈ d.visits, v.sender = none
  entered : ∃ lost, lost + d.strayed = d.counters.recordsLost ∧ total List.length d.entered
    = d.counters.recordsFiltered + d.counters.recordsSerialized + lost
  outside : d.counters.recordsIn = d.counters.recordsFiltered + d.counters.recordsSerialized
    + d.counters.recordsLost + d.waiting

theorem Over.drained (hd : d.Over) (h : d.Sound) (hb : d.Balanced) : d.Drained := by
  have hin := hb.entered
  have hparted := hb.parted
  have hstrayed := hb.strayed
  simp only [Depot.load, hd.load h, Counters.recordsAccounted] at hin hparted
  refine ⟨fun p hp => ?_, fun v hv => ?_, ⟨d.counters.recordsLost - d.strayed, ?_, ?_⟩, ?_⟩
  · have hsound := (h.orchestrator.plant.pipelines p hp).1
    exact ⟨hsound.ended (hd.stopped p hp), hsound.empty (hd.stopped p hp)⟩
  · refine Option.eq_none_iff_forall_ne_some.2 fun i hi => ?_
    obtain ⟨p, hp, ho⟩ := Plant.getElem?_gates.1 ((h.visits v hv).sender i hi).1
    simp [(hd.closed h).inputs p (List.mem_of_getElem? hp)] at ho
  · omega
  · omega
  · simp only [waiting]
    omega

/-- A shutdown never waits for sinks, and leaves nothing behind. At any time outputs are shut down
in order. Once a shutdown was called there is a course, and on every course every shutdown returns,
and so does every call. When one has returned every pipeline is empty, and whatever happens then,
no pipeline is launched, nothing is delivered, and what sinks hold or are given is counted lost
once. -/
theorem shutdown_of_reaches {schema : Schema} {x : Plant} (hx : x.IsNew)
    (hb : Orchestrator.build schema x = .ok o) (hr : ReflTransGen Move { orchestrator := o } d) :
    d.InOrder
      ∧ (d.IsShut → (∃ σ, Course σ ∧ σ 0 = d) ∧ ∀ σ, Course σ → σ 0 = d →
        ∀ k, ∃ n, k ≤ n ∧ (σ n).orchestrator.stopped = some true
          ∧ ∀ v ∈ (σ n).visits, v.errands = [])
      ∧ (d.orchestrator.stopped = some true →
        d.Drained ∧ ∀ d', ReflTransGen Move d d' → d.Afterwards d') := by
  obtain ⟨h, hbal⟩ := sound_of_reaches hx hb hr
  refine ⟨h.inOrder, fun hshut => ⟨exists_course h, ?_⟩, fun hs => ?_⟩
  · rintro σ hσ rfl
    exact hσ.returns h hbal hshut
  · have hd : d.Over := ⟨h.halted hs, (h.orchestrator.halted hs).1⟩
    exact ⟨hd.drained h hbal, fun d' => hd.afterwards h hbal⟩

theorem reaches_acts (l : List Actor) (d : Depot) :
    ReflTransGen Move d (l.foldl (fun d a => d.act a) d) :=
  reaches_foldl (fun _ a => .single (.inr (.act a))) l d

/-- A record waits in a sink that nobody closes, and a call waits for room in the input, when the
shutdown is called. -/
theorem shutdown_of_open_sinks :
    ∃ x o d d', Plant.IsNew x ∧ Orchestrator.build ⟨["name"]⟩ x = .ok o
      ∧ ReflTransGen Move { orchestrator := o } d ∧ ReflTransGen Move d d'
      ∧ (d.IsShut ∧ (d.held 1).length = 1 ∧ d.visits.map Visit.sender = [none, some 0])
      ∧ (∃ σ n, Course σ ∧ σ 0 = d ∧ (σ n).orchestrator.stopped = some true)
      ∧ (d'.orchestrator.stopped = some true ∧ d'.InOrder ∧ d'.Drained)
      ∧ (d'.change (d'.orchestrator.dropSink 1)).counters.recordsLost
        = d'.counters.recordsLost + 1
      ∧ ∀ d'', ReflTransGen Move d' d'' → d'.Afterwards d'' := by
  let x : Plant := { Docket.narrow with
    ground.blueprint.settings.buffer := { maxRecords := 2 } }
  let o : Orchestrator :=
    ⟨Orchestrator.launch Orchestrator.singleTag [] x, .single true, [], [], 0, none⟩
  have hx : x.IsNew := ⟨rfl, rfl, rfl, rfl⟩
  have hb : Orchestrator.build ⟨["name"]⟩ x = .ok o := rfl
  let d₀ : Depot := { orchestrator := o }
  let d₁ := d₀.change (d₀.orchestrator.addSink 1)
  let d₂ := d₁.change (d₁.orchestrator.addSink 2)
  let d₃ := (d₂.call 1 (d₂.orchestrator.accept 1 [{}])).goOn 0
  let d₄ := d₃.call 2 (d₃.orchestrator.accept 2 [{}, {}, {}, {}])
  let d₅ := (((((d₄.goOn 1).goOn 1).goOn 1).goOn 1).goOn 1).goOn 1
  let d₆ := d₅.shutDown
  let d₇ := [Actor.mk 0 .supervisor, ⟨0, .root⟩].foldl (fun d a => d.act a) d₆
  let d₈ := (d₇.goOn 1).letGo 0
  let d₉ := ((List.replicate 45 Docket.parties).flatten.foldl (fun d a => d.act a) d₈).comeBack
  have hsinks : ReflTransGen Move d₀ d₂ :=
    .tail (.single (.inl (.addSink 1 (by decide +kernel)))) (.inl (.addSink 2 (by decide +kernel)))
  have hfirst : ReflTransGen Move d₂ d₃ :=
    .tail (.single (.inl (.accept 1 _ (by decide +kernel)))) (.inr (.goOn 0))
  -- the second batch finds no room
  have hsecond : ReflTransGen Move d₃ d₅ :=
    .head (.inl (.accept 2 _ (by decide +kernel))) <| .head (.inr (.goOn 1)) <|
      .head (.inr (.goOn 1)) <| .head (.inr (.goOn 1)) <| .head (.inr (.goOn 1)) <|
      .head (.inr (.goOn 1)) <| .single (.inr (.goOn 1))
  have hr : ReflTransGen Move d₀ d₆ :=
    ((hsinks.trans hfirst).trans hsecond).tail (.inl .shutDown)
  -- the first batch leaves the input, so that the call returns and the input can be closed
  have hgo : ReflTransGen Move d₆ d₈ :=
    ((reaches_acts _ d₆).tail (.inr (.goOn 1))).tail
      (.inr (.letGo 0 (by decide +kernel) (by decide +kernel)))
  have hend : ReflTransGen Move d₆ d₉ :=
    (hgo.trans (reaches_acts _ d₈)).tail (.inr (.comeBack (by decide +kernel)))
  have hshut : d₆.IsShut ∧ (d₆.held 1).length = 1
      ∧ d₆.visits.map Visit.sender = [none, some 0] := by decide +kernel
  have hstop : d₉.orchestrator.stopped = some true ∧ (d₉.held 1).length = 1 := by decide +kernel
  obtain ⟨-, hreturns, -⟩ := shutdown_of_reaches hx hb hr
  obtain ⟨⟨σ, hσ, h₀⟩, hreturns⟩ := hreturns hshut.1
  obtain ⟨n, -, hn, -⟩ := hreturns σ hσ h₀ 0
  obtain ⟨horder, -, hafter⟩ := shutdown_of_reaches hx hb (hr.trans hend)
  obtain ⟨hdrained, hafter⟩ := hafter hstop.1
  refine ⟨x, o, d₆, d₉, hx, hb, hr, hend, hshut, ⟨σ, n, hσ, h₀, hn⟩,
    ⟨hstop.1, horder, hdrained⟩, ?_, hafter⟩
  rw [(hafter d₉ .refl).loses.dropped 1, hstop.2]

end Depot

end LogPipeline
