import LogPipeline.Proofs.Stewardship

/-!
# Everything that sinks are given is delivered

A docket goes with an orchestrator and notes which records its sinks were given, and which chunks
have come to the destination. As long as the destination has room nothing is lost, whatever the
sizes of the queues: parties and calls go on only so often before nobody can, and the call has
returned then, so that nothing waits for the clock (`Docket.delivered_of_reaches`). Once a shutdown
has returned, every record that a sink was given before it was filtered, or written and delivered.
-/

namespace LogPipeline

/-- An orchestrator with the records that its sinks were given, and the chunks that have come to the
destination. -/
structure Docket where
  orchestrator : Orchestrator
  accepted : List Record := []
  delivered : List TaggedChunk := []

namespace Docket

variable {late : Bool} {g : Stages} {d d' : Docket}

/-- The counters. -/
def counters (d : Docket) : Counters := d.orchestrator.books.counters

/-- The lines that were delivered. -/
def lines (d : Docket) : List ByteArray := d.delivered.flatMap (·.chunk.lines)

/-- The chunks at the destination that nobody has taken yet. -/
def waiting (o : Orchestrator) : List TaggedChunk := o.plant.ground.destination.queue.items

/-- The destination has room for one more chunk. -/
def HasRoom (o : Orchestrator) : Prop := o.plant.ground.destination.queue.hasRoom = true

/-- A party acts, and what comes to the destination is noted. -/
def act (a : Actor) (d : Docket) : Docket :=
  { d with
    orchestrator := d.orchestrator.act a
    delivered := d.delivered ++
      (waiting (d.orchestrator.act a)).drop (waiting d.orchestrator).length }

/-- Neither a party nor the call under way can go on. -/
structure Rests (d : Docket) : Prop where
  parties : ∀ a, d.orchestrator.plant.able a = false
  call : d.orchestrator.callAble = false

/-- What may happen over a destination that always has room. The user makes calls one after the
other, and shuts down once the sinks are empty; the clock moves when nobody can go on. `late` tells
whether a sink may be given records that has let go of its only buffer, being closed. -/
inductive Move (late : Bool) (d : Docket) : Docket → Prop where
  | addSink (id : Nat) (ho : d.orchestrator.router.isOpen = true)
      (hs : d.orchestrator.sink? id = none) :
      Move late d { d with orchestrator := d.orchestrator.addSink id }
  | accept (id : Nat) (l : Batch) {s : Sink} (ho : d.orchestrator.router.isOpen = true)
      (hc : d.orchestrator.errands = []) (hs : d.orchestrator.sink? id = some s)
      (ht : late = true ∨ s.Takes) :
      Move late d { d with
        orchestrator := d.orchestrator.accept id l
        accepted := d.accepted ++ l }
  | tick (id : Nat) (ho : d.orchestrator.router.isOpen = true)
      (hc : d.orchestrator.errands = []) :
      Move late d { d with orchestrator := d.orchestrator.tick id }
  | close (id : Nat) (ho : d.orchestrator.router.isOpen = true)
      (hc : d.orchestrator.errands = []) :
      Move late d { d with orchestrator := d.orchestrator.close id }
  | shutDown (ho : d.orchestrator.router.isOpen = true) (hc : d.orchestrator.errands = [])
      (hs : ∀ e ∈ d.orchestrator.sinks, e.2.pending = []) :
      Move late d { d with orchestrator := d.orchestrator.shutDown }
  | goOn : Move late d { d with orchestrator := d.orchestrator.callAct }
  | act (a : Actor) (hr : HasRoom (d.orchestrator.act a)) : Move late d (d.act a)
  | tickEarly (a : Actor) :
      Move late d { d with orchestrator.plant := d.orchestrator.plant.tickEarly a }
  | setNow (t : Instant) (hr : d.Rests) :
      Move late d { d with orchestrator.plant := d.orchestrator.plant.setNow t }
  | take (n : Option Nat) :
      Move late d { d with orchestrator.plant := (d.orchestrator.plant.take n).2 }

/-- The call or a party goes on, being able to. -/
inductive GoesOn (d : Docket) : Docket → Prop where
  | call (h : d.orchestrator.callAble = true) :
      GoesOn d { d with orchestrator := d.orchestrator.callAct }
  | party (a : Actor) (h : d.orchestrator.plant.able a = true)
      (hr : HasRoom (d.orchestrator.act a)) : GoesOn d (d.act a)

/-- Nothing was lost, and the lines of all records that sinks were given were delivered or are
outstanding. -/
structure Sound (g : Stages) (d : Docket) : Prop where
  kept : d.orchestrator.Kept g
  balanced : d.orchestrator.Balanced
  entered : d.counters.recordsIn = d.accepted.length
  lines : ∀ ψ, total (g.measure ψ) d.accepted = total ψ d.lines + d.orchestrator.outstanding g ψ

theorem Sound.of_passes (h : d.Sound g) (hk : d'.orchestrator.Kept g)
    (hp : d.orchestrator.Passes d'.orchestrator) (ha : d'.accepted = d.accepted)
    (hl : ∀ ψ, total ψ d'.lines + d'.orchestrator.outstanding g ψ
      = total ψ d.lines + d.orchestrator.outstanding g ψ) : d'.Sound g := by
  refine ⟨hk, h.balanced.of_passes hp, ?_, fun ψ => ?_⟩
  · obtain ⟨n, hleave, -⟩ := hp
    rw [ha]
    exact hleave.entered.trans h.entered
  · rw [ha, h.lines, hl]

theorem Sound.act (hg : g.Proper) (h : d.Sound g) {a : Actor}
    (hr : HasRoom (d.orchestrator.act a)) : (d.act a).Sound g := by
  obtain ⟨hk, ts, hitems, hweigh⟩ := h.kept.act hg a hr
  refine h.of_passes hk (h.kept.steady.sound.act a).2 rfl fun ψ => ?_
  have hnew : (waiting (d.orchestrator.act a)).drop (waiting d.orchestrator).length = ts := by
    unfold waiting
    rw [hitems, List.drop_left]
  have hweigh := hweigh ψ
  simp only [Docket.act, Docket.lines, hnew, List.flatMap_append, total_append]
  omega

theorem Sound.goOn (h : d.Sound g) :
    Sound g { d with orchestrator := d.orchestrator.callAct } := by
  obtain ⟨hk, hweigh⟩ := h.kept.callAct
  exact h.of_passes hk h.kept.steady.sound.callAct.2 rfl fun ψ => congrArg _ (hweigh ψ)

/-- Nothing is lost by a move. -/
theorem Sound.move (hg : g.Proper) (h : d.Sound g) (hm : Move false d d') : d'.Sound g := by
  have hsound := h.kept.steady.sound
  have hsame : ∀ {o : Orchestrator}, (o.Kept g ∧ ∀ ψ, o.outstanding g ψ
      = d.orchestrator.outstanding g ψ) → d.orchestrator.Passes o →
      Sound g { d with orchestrator := o } := fun hk hp =>
    h.of_passes hk.1 hp rfl fun ψ => congrArg _ (hk.2 ψ)
  cases hm with
  | addSink id ho hs => exact hsame (h.kept.addSink ho hs) (hsound.addSink id).2
  | @accept id l s ho hc hs ht =>
    obtain ⟨hk, hweigh⟩ := h.kept.accept ho hc hs (ht.resolve_left (by simp)) l
    refine ⟨hk, (hsound.accept h.balanced hc id l).2, ?_, fun ψ => ?_⟩
    · rw [List.length_append, ← h.entered]
      rfl
    · have hlines := h.lines ψ
      rw [total_append, hweigh]
      show _ = total ψ d.lines + _
      omega
  | tick id ho hc => exact hsame (h.kept.tick ho hc id) (hsound.tick hc id).2
  | close id ho hc => exact hsame (h.kept.close ho hc id) (hsound.close hc id).2
  | shutDown ho hc hs => exact hsame (h.kept.shutDown ho hc hs) (hsound.shutDown hc).2
  | goOn => exact h.goOn
  | act a hr => exact h.act hg hr
  | tickEarly a =>
    exact hsame (h.kept.tickEarly hg a) (hsound.ofStep (Plant.step_tickEarly a) (.inl rfl)).2
  | setNow t hr => exact hsame (h.kept.setNow hr.parties hr.call t) ⟨0, .refl _, rfl⟩
  | take n => exact hsame (h.kept.take n) ⟨0, .refl _, rfl⟩

/-! ## From the start -/

theorem sound_build {schema : Schema} {x : Plant} {o : Orchestrator} (hx : x.IsNew)
    (hh : x.ground.Healthy g) (hb : Orchestrator.build schema x = .ok o) :
    Sound g { orchestrator := o } := by
  obtain ⟨hsound, hbalanced⟩ := Orchestrator.sound_build hx hb
  have hkept : x.Kept g := ⟨hh, by simp [hx.pipelines]⟩
  have hclean : x.ground.books.Clean := by
    constructor <;> simp [hx.counters]
  have hin : x.Inputs true := by simp [Plant.Inputs, hx.pipelines]
  have hweigh : ∀ ψ, x.weigh g ψ = 0 := fun ψ => by simp [Plant.weigh, hx.pipelines]
  obtain ⟨-, rfl | ⟨fields, template, rfl⟩⟩ := Orchestrator.build_cases hb
  · have hlaunch := fun ψ => hkept.launch (ψ := ψ) hkept.lt_queueCapacity x.pipelines.length
      Orchestrator.singleTag []
    have hone : (Orchestrator.launch Orchestrator.singleTag [] x).pipelines.length = 1 := by
      simp [Orchestrator.launch, Plant.launch, Plant.onBooks, hx.pipelines]
    refine ⟨⟨⟨hsound, (hlaunch fun _ => 0).1.onBooks _,
        ⟨hclean.records, hclean.chunks, hclean.timeouts⟩, hone, by simp,
        Plant.Inputs.launch hin _ _ _ _⟩, fun _ => ⟨by simp, by simp⟩, ?_⟩, hbalanced, ?_,
      fun ψ => ?_⟩
    · simp [Router.isOpen]
    · show x.ground.books.counters.recordsIn = 0
      rw [hx.counters]
    · show 0 = 0 + (0 + (x.launch _ _ _ _).weigh g ψ)
      rw [(hlaunch ψ).2, hweigh]
  · refine ⟨⟨⟨hsound, hkept, hclean, ⟨by simp, by simp [hx.pipelines], List.nodup_nil, by simp⟩,
        by simp, hin⟩, fun _ => ⟨by simp, by simp⟩, ?_⟩, hbalanced, ?_, fun ψ => ?_⟩
    · simp [Router.isOpen]
    · show x.ground.books.counters.recordsIn = 0
      rw [hx.counters]
    · show 0 = 0 + (0 + x.weigh g ψ)
      rw [hweigh]

theorem Sound.reaches (hg : g.Proper) (h : d.Sound g)
    (hr : Relation.ReflTransGen (Move false) d d') : d'.Sound g := by
  induction hr with
  | refl => exact h
  | tail _ hm ih => exact ih.move hg hm

theorem Sound.effort_lt (hg : g.Proper) (h : d.Sound g) (hs : GoesOn d d') :
    d'.orchestrator.effort < d.orchestrator.effort := by
  cases hs with
  | call hcall => exact Orchestrator.effort_callAct hcall
  | party a hable hr => exact h.kept.effort_act (h.act hg hr).kept hable

/-- Whoever is able to go on does so only so often. -/
theorem Sound.goesOn_ends (hg : g.Proper) {σ : Nat → Docket} (h : (σ 0).Sound g) :
    ∃ n, ¬GoesOn (σ n) (σ (n + 1)) := by
  by_contra hno
  push Not at hno
  have hsound : ∀ n, (σ n).Sound g := by
    intro n
    induction n with
    | zero => exact h
    | succ n ih =>
      have hs := hno n
      generalize σ (n + 1) = d' at hs
      cases hs with
      | call => exact ih.goOn
      | party a _ hr => exact ih.act hg hr
  obtain ⟨n, hn⟩ := WellFounded.not_rel_apply_succ (r := (· < ·)) fun n => (σ n).orchestrator.effort
  exact hn ((hsound n).effort_lt hg (hno n))

/-- After a shutdown everything rests. -/
theorem Sound.rests (h : d.Sound g) (hshut : d.orchestrator.router.isOpen = false)
    (hcall : d.orchestrator.errands = []) : d.Rests := by
  obtain ⟨hstop, -⟩ := h.kept.outstanding_shut hshut hcall
  refine ⟨fun a => ?_, by simp [Orchestrator.callAble, hcall]⟩
  unfold Plant.able
  rcases hp : d.orchestrator.plant.pipelines[a.pipeline]? with _ | p
  · rfl
  · have hmem := List.mem_of_getElem? hp
    exact (h.kept.steady.plant.pipelines p hmem).sound.able_of_stopped
      ((h.kept.steady.sound.halted hstop).1 p hmem) ..

/-- What is worth the same by every measure is the same up to order. -/
theorem perm_of_total {α : Type} [DecidableEq α] {k l : List α}
    (h : ∀ ψ : α → Nat, total ψ k = total ψ l) : k.Perm l := by
  have hcount : ∀ (a : α) (l : List α), total (fun b => if b = a then 1 else 0) l = l.count a := by
    intro a l
    induction l with
    | nil => rfl
    | cons b l ih =>
      rw [total_cons, ih, List.count_cons]
      simp [Nat.add_comm]
  refine List.perm_iff_count.2 fun a => ?_
  rw [← hcount a k, ← hcount a l, h]

/-- Every record was filtered or written by the end of a shutdown. -/
theorem Sound.accounted (h : d.Sound g) (hshut : d.orchestrator.router.isOpen = false)
    (hcall : d.orchestrator.errands = []) :
    d.counters.recordsFiltered + d.counters.recordsSerialized = d.accepted.length := by
  obtain ⟨hstop, -⟩ := h.kept.outstanding_shut hshut hcall
  have hempty := (h.kept.closing hshut).1
  have hin := h.balanced.entered
  have hlost := h.kept.steady.clean.records
  have hgathered : d.orchestrator.gathered = 0 := total_eq_zero fun e he => by simp [hempty e he]
  have hcarried : d.orchestrator.carried = 0 := by simp [Orchestrator.carried, hcall]
  have hload := h.kept.steady.sound.plant.load_stopped (h.kept.steady.sound.halted hstop).1
  simp only [Orchestrator.load, hgathered, hcarried, hload, Counters.recordsAccounted, hlost] at hin
  rw [← h.entered]
  unfold counters
  omega

/-- Every line that was written was delivered by the end of a shutdown. -/
theorem Sound.perm_lines (h : d.Sound g) (hshut : d.orchestrator.router.isOpen = false)
    (hcall : d.orchestrator.errands = []) : d.lines.Perm (d.accepted.filterMap g.line?) := by
  obtain ⟨-, hnone⟩ := h.kept.outstanding_shut hshut hcall
  refine perm_of_total fun ψ => ?_
  have hlines := h.lines ψ
  rw [Stages.total_measure, hnone ψ] at hlines
  exact hlines.symm

/-! ## Runs of all in turn -/

/-- A party acts, unless the destination would have no more room. -/
def attempt (a : Actor) (d : Docket) : Docket :=
  if (d.orchestrator.act a).plant.ground.destination.queue.hasRoom then d.act a else d

/-- The call and then the parties go on, again and again. -/
def rounds (l : List Actor) (n : Nat) (d : Docket) : Docket :=
  n.repeat (fun d => l.foldl (fun d a => d.attempt a)
    { d with orchestrator := d.orchestrator.callAct }) d

theorem reaches_attempts (l : List Actor) (d : Docket) :
    Relation.ReflTransGen (Move late) d (l.foldl (fun d a => d.attempt a) d) := by
  refine reaches_foldl (fun d a => ?_) l d
  unfold attempt
  split
  · exact .single (.act a ‹_›)
  · exact .refl

theorem reaches_rounds (l : List Actor) (n : Nat) (d : Docket) :
    Relation.ReflTransGen (Move late) d (d.rounds l n) := by
  induction n with
  | zero => exact .refl
  | succ n ih => exact (ih.tail .goOn).trans (reaches_attempts l _)

/-- All queues hold one item, and so do batches and chunks. -/
def narrow : Plant :=
  let settings : PipelineSettings :=
    { workers := 2, queueCapacity := 1, buffer := { maxRecords := 1 }
      distributor := { maxRecords := 1 }
      processing := { chunkMaxBytes := 1, maxPendingChunks := 1 } }
  ⟨{ blueprint := { settings, stages := some (.standard ⟨["name"]⟩ []), output := some 1 }
     destination := ⟨{ capacity := 10 }, []⟩ }, []⟩

theorem isNew_narrow : narrow.IsNew := ⟨rfl, rfl, rfl, rfl⟩

theorem ready_narrow : narrow.ground.destination.Ready := ⟨rfl, rfl, rfl⟩

theorem build_narrow : Orchestrator.build ⟨["name"]⟩ narrow
    = .ok ⟨Orchestrator.launch Orchestrator.singleTag [] narrow, .single true, [], [], 0, none⟩ :=
  rfl

/-- The parties of the first pipeline. -/
def parties : List Actor :=
  [Role.supervisor, .root, .child 0, .child 1, .consumer].map (Actor.mk 0)

/-! ## Delivery -/

/-- Over a destination that always has room no record and no chunk is lost, and no send is late,
however small the queues are, as long as no sink is given records that has let go of its only
buffer. Those able to go on do so only so often while the clock stands still, and when nobody is
able to any more the call has returned, so that a shutdown returns without the clock. All pipelines
have stopped then, every record that came in was filtered or written, and the lines of all that were
written have come to the destination. -/
theorem delivered_of_reaches {schema : Schema} {rules : List Rule} {x : Plant} {o : Orchestrator}
    (hx : x.IsNew) (hstages : x.ground.blueprint.stages = some (.standard schema rules))
    (hout : x.ground.blueprint.output ≠ none) (hready : x.ground.destination.Ready)
    (hb : Orchestrator.build schema x = .ok o)
    (hr : Relation.ReflTransGen (Move false) { orchestrator := o } d) :
    (d.counters.recordsLost = 0 ∧ d.counters.chunksLost = 0 ∧ d.counters.sendTimeouts = 0)
      ∧ (∀ σ : Nat → Docket, σ 0 = d → ∃ n, ¬GoesOn (σ n) (σ (n + 1)))
      ∧ (d.Rests → d.orchestrator.errands = [])
      ∧ (d.orchestrator.router.isOpen = false → d.orchestrator.errands = [] →
        d.orchestrator.stopped = some true
          ∧ d.counters.recordsIn = d.accepted.length
          ∧ d.counters.recordsFiltered + d.counters.recordsSerialized = d.accepted.length
          ∧ d.lines.Perm (d.accepted.filterMap (Stages.standard schema rules).line?)) := by
  have hg : (Stages.standard schema rules).Proper := Stages.proper_standard schema rules
  have hcheck := (Orchestrator.build_cases hb).1
  have h := (sound_build hx ⟨hcheck, hx.processing, hstages, hout, hready⟩ hb).reaches hg hr
  obtain ⟨hlost, hchunks, htimeouts⟩ := h.kept.steady.clean
  refine ⟨⟨hlost, hchunks, htimeouts⟩, ?_, fun hrest => h.kept.returned hrest.parties hrest.call,
    fun hshut hcall => ?_⟩
  · rintro σ rfl
    exact h.goesOn_ends hg
  · exact ⟨(h.kept.outstanding_shut hshut hcall).1, h.entered, h.accounted hshut hcall,
      h.perm_lines hshut hcall⟩

/-- Three records are given to a sink, and the call that brings them waits for room. -/
theorem delivered_of_narrow_queues :
    ∃ x o d, Plant.IsNew x ∧ x.ground.blueprint.stages = some (.standard ⟨["name"]⟩ [])
      ∧ x.ground.blueprint.output ≠ none ∧ x.ground.destination.Ready
      ∧ Orchestrator.build ⟨["name"]⟩ x = .ok o
      ∧ Relation.ReflTransGen (Move false) { orchestrator := o } d
      ∧ (d.counters.recordsLost = 0 ∧ d.counters.chunksLost = 0 ∧ d.counters.sendTimeouts = 0)
      ∧ (∀ σ : Nat → Docket, σ 0 = d → ∃ n, ¬GoesOn (σ n) (σ (n + 1)))
      ∧ (d.Rests ∧ d.orchestrator.router.isOpen = false ∧ d.orchestrator.errands = [])
      ∧ d.orchestrator.stopped = some true ∧ d.counters.recordsIn = 3
      ∧ d.counters.recordsFiltered + d.counters.recordsSerialized = 3
      ∧ d.lines.Perm (d.accepted.filterMap (Stages.standard ⟨["name"]⟩ []).line?) := by
  let l : Batch := [{ timestamp := 1 }, { timestamp := 2 }, { timestamp := 3 }]
  let d₀ : Docket :=
    { orchestrator :=
      ⟨Orchestrator.launch Orchestrator.singleTag [] narrow, .single true, [], [], 0, none⟩ }
  let d₁ : Docket := { orchestrator := (d₀.orchestrator.addSink 1).accept 1 l, accepted := l }
  let d₂ : Docket := d₁.rounds parties 7
  let d₃ : Docket := { d₂ with orchestrator := d₂.orchestrator.close 1 }
  let d₄ : Docket := { d₃ with orchestrator := d₃.orchestrator.shutDown }
  let d₅ : Docket := d₄.rounds parties 33
  have h₁ : Relation.ReflTransGen (Move false) d₀ d₁ :=
    .tail (.tail .refl (.addSink 1 rfl rfl)) (.accept 1 l rfl rfl rfl (.inr trivial))
  have h₂ := h₁.trans (reaches_rounds parties 7 d₁)
  have h₃ : Move false d₂ d₃ := .close 1 (by decide +kernel) (by decide +kernel)
  have h₄ : Move false d₃ d₄ :=
    .shutDown (by decide +kernel) (by decide +kernel) (by decide +kernel)
  have h₅ : Relation.ReflTransGen (Move false) d₀ d₅ :=
    ((h₂.tail h₃).tail h₄).trans (reaches_rounds parties 33 d₄)
  have hout : narrow.ground.blueprint.output ≠ none := Option.some_ne_none 1
  obtain ⟨hlost, hends, -, hshut⟩ :=
    delivered_of_reaches isNew_narrow rfl hout ready_narrow build_narrow h₅
  have hopen : d₅.orchestrator.router.isOpen = false := by decide +kernel
  have hcall : d₅.orchestrator.errands = [] := by decide +kernel
  obtain ⟨hstop, hin, hsum, hlines⟩ := hshut hopen hcall
  have haccepted : d₅.accepted.length = 3 := by decide +kernel
  have hproper : (Stages.standard ⟨["name"]⟩ []).Proper := Stages.proper_standard ⟨["name"]⟩ []
  have hsound := (sound_build isNew_narrow ⟨rfl, rfl, rfl, hout, ready_narrow⟩ build_narrow).reaches
    hproper h₅
  exact ⟨narrow, _, d₅, isNew_narrow, rfl, hout, ready_narrow, build_narrow, h₅, hlost, hends,
    ⟨hsound.rests hopen hcall, hopen, hcall⟩, hstop, hin.trans haccepted, hsum.trans haccepted,
    hlines⟩

/-- A record is lost that is given to a sink after it was closed, although the pipeline is still
there. -/
theorem lost_of_late :
    ∃ x o d, Plant.IsNew x ∧ x.ground.blueprint.stages = some (.standard ⟨["name"]⟩ [])
      ∧ x.ground.blueprint.output ≠ none ∧ x.ground.destination.Ready
      ∧ Orchestrator.build ⟨["name"]⟩ x = .ok o
      ∧ Relation.ReflTransGen (Move true) { orchestrator := o } d
      ∧ d.orchestrator.router.isOpen = false ∧ d.orchestrator.errands = []
      ∧ d.orchestrator.stopped = some true ∧ d.accepted.length = 1
      ∧ d.counters.recordsLost = 1 ∧ d.counters.recordsSerialized = 0 ∧ d.lines = [] := by
  let l : Batch := [{ timestamp := 1 }]
  let d₀ : Docket :=
    { orchestrator :=
      ⟨Orchestrator.launch Orchestrator.singleTag [] narrow, .single true, [], [], 0, none⟩ }
  let d₁ : Docket :=
    { orchestrator := ((d₀.orchestrator.addSink 1).close 1).accept 1 l, accepted := l }
  let d₂ : Docket := { d₁ with orchestrator := d₁.orchestrator.callAct }
  let d₃ : Docket := { d₂ with orchestrator := d₂.orchestrator.shutDown }
  let d₄ : Docket := d₃.rounds parties 20
  have h₁ : Relation.ReflTransGen (Move true) d₀ d₁ :=
    .tail (.tail (.tail .refl (.addSink 1 rfl rfl)) (.close 1 rfl rfl))
      (.accept 1 l rfl rfl rfl (.inl rfl))
  have h₂ : Move true d₁ d₂ := .goOn
  have h₃ : Move true d₂ d₃ := .shutDown (by decide) (by decide) (by decide)
  have h₄ : Relation.ReflTransGen (Move true) d₀ d₄ :=
    ((h₁.tail h₂).tail h₃).trans (reaches_rounds parties 20 d₃)
  exact ⟨narrow, _, d₄, isNew_narrow, rfl, Option.some_ne_none 1, ready_narrow, build_narrow, h₄,
    by decide +kernel, by decide +kernel, by decide +kernel, by decide +kernel, by decide +kernel,
    by decide +kernel, by decide +kernel⟩

end Docket

end LogPipeline
