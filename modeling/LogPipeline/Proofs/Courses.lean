import LogPipeline.Proofs.Clocks
import LogPipeline.Proofs.Instants
import LogPipeline.Proofs.Shutdowns

/-!
# How a pipeline comes to its end

A course is an endless run in which the clock moves on only when nobody is able to act, as far as
one likes, and never stops for good. From every state there is one, since no instant holds more than
so many acts (`Journal.acts_end`, `Journal.course_onward`). Once the input is closed, every course
comes to a pipeline that has stopped with all its workers, and with every run completed
(`Journal.ends_of_closed`): the work that is left never grows, and while it stays as it is the sends
under way only get older.
-/

namespace LogPipeline

/-- The pipeline has stopped with all its workers, and nothing waits for a turn. -/
structure Pipeline.Ended (p : Pipeline) : Prop where
  stopped : p.isStopped = true
  root : ∀ c, p.crew = some c → c.root.phase = .stopped
  children : ∀ w d cs, p.crew = some (.team w d cs) → ∀ c ∈ cs, c.member.worker.phase = .stopped
  consumer : ∀ o, p.output = some o → o.consumer.phase = .stopped
  released : p.crew ≠ none → p.sequencer.next = p.sequencer.issued ∧ p.sequencer.parked = []

namespace Pipeline

variable {i : Nat} {role : Role} {p p' : Pipeline} {g g' : Ground}

/-- Whoever has stopped holds no ticket. -/
theorem Sound.ended (h : p.Sound) (hs : p.isStopped = true) : p.Ended := by
  have hst : p.status = .stopped := by simpa [isStopped] using hs
  obtain ⟨-, -, hcrew, -⟩ := h.finished (.inr hst)
  refine ⟨hs, hcrew, fun w d cs hc => ?_, h.drained hst, fun hne => ?_⟩
  · exact TeamSound.stopped (h.crew _ hc) (hcrew _ hc)
  · obtain ⟨c, hc⟩ := Option.ne_none_iff_exists'.1 hne
    cases c with
    | alone m =>
      rw [(h.crew _ hc).1]
      exact ⟨rfl, rfl⟩
    | team w d cs =>
      have hteam : TeamSound p.sequencer p.input w d cs := h.crew _ hc
      have hw : w.phase = .stopped := hcrew _ hc
      have hall := hteam.stopped hw
      have ha := hteam.idle (hteam.tends.idle hw)
      have hdel := hteam.delivers
      have hend : w.ended = true := by simp [Worker.ended, hw]
      rw [ha, hend] at hdel
      have ho : d.openRun = none := by simpa using hdel.2.2.2 rfl
      refine hteam.valid.next_eq_issued (List.perm_nil.1 ?_)
      have hnil : d.tickets ++ cs.flatMap Child.tickets = [] := by
        refine List.append_eq_nil_iff.2 ⟨by simp [Distributor.tickets, ho, ha], ?_⟩
        refine List.flatMap_eq_nil_iff.2 fun c hc => ?_
        obtain ⟨k, hk⟩ := List.getElem?_of_mem hc
        exact (hteam.child k c hk).tickets_of_stopped (hall c hc)
      exact hnil ▸ hteam.references

end Pipeline

/-! ## Clocks -/

/-- Under a clock that waits until everybody rests, and goes on for ever, everybody comes to rest
again and again, as late as one likes. -/
theorem rests_of_endless {now : Nat → Instant} {rests : Nat → Prop}
    (forward : ∀ n, now n ≤ now (n + 1)) (patient : ∀ n, now n < now (n + 1) → rests n)
    (endless : ∀ t, ∃ n, t ≤ now n) (n : Nat) (t : Instant) :
    ∃ m, n ≤ m ∧ t ≤ now m ∧ rests m := by
  have hmono : Monotone now := monotone_nat_of_le_succ forward
  obtain ⟨k, hk⟩ := endless t
  have hlate : t ≤ now (max n k) := Nat.le_trans hk (hmono (Nat.le_max_right n k))
  obtain ⟨e, he⟩ := endless (now (max n k) + 1)
  by_contra hno
  have hstill : ∀ d, now (max n k + d) = now (max n k) := by
    intro d
    induction d with
    | zero => rfl
    | succ d ih =>
      by_contra hne
      have hlt := Nat.lt_of_le_of_ne (forward (max n k + d)) fun heq => hne (heq.symm.trans ih)
      exact hno ⟨max n k + d, Nat.le_trans (Nat.le_max_left n k) (Nat.le_add_right ..),
        ih.symm ▸ hlate, patient _ hlt⟩
  have hle := hmono (Nat.le_add_left e (max n k))
  exact absurd (Nat.le_trans he (Nat.le_trans hle (Nat.le_of_eq (hstill e))))
    (Nat.not_succ_le_self _)

/-- The work never grows, and where it stays as it is a send is not put off. So a pipeline that
never stopped would come to rest past the deadline of a send. -/
theorem Pipeline.stops_of_steps {i : Nat} {P : Nat → Pipeline} {G : Nat → Ground}
    (hP : ∀ n, (P n).Sound ∧ (P n).status ≠ .collecting) (hi : ∀ n, (P n).input.isOpen = false)
    (hs : ∀ n, ∃ role g', (P n).Step i (G n) role (P (n + 1)) g')
    (hrests : ∀ n t, ∃ m, n ≤ m ∧ t ≤ (G m).now ∧ ∀ r, (P m).able (G m) i r = false) :
    ∃ n, ∀ m, n ≤ m → (P m).isStopped = true := by
  have hwork : ∀ n, (P (n + 1)).work < (P n).work
      ∨ (P (n + 1)).work = (P n).work ∧ (P n).Sends (P (n + 1)) := by
    intro n
    obtain ⟨role, g', hstep⟩ := hs n
    exact (hP n).1.work_step hstep
  have hanti : Antitone fun n => (P n).work := antitone_nat_of_succ_le fun n => by
    rcases hwork n with hlt | ⟨heq, -⟩
    · exact Nat.le_of_lt hlt
    · exact Nat.le_of_eq heq
  obtain ⟨_, ⟨n, rfl⟩, hn⟩ := wellFounded_lt.has_min (Set.range fun n => (P n).work) ⟨_, 0, rfl⟩
  have hsends : ∀ m, n ≤ m → (P m).Sends (P (m + 1)) := by
    intro m hm
    rcases hwork m with hlt | ⟨-, hsend⟩
    · exact absurd (Nat.lt_of_lt_of_le hlt (hanti hm)) (hn _ ⟨m + 1, rfl⟩)
    · exact hsend
  obtain ⟨k, hk, -, hable⟩ := hrests n 0
  rcases (hP k).1.stopped_or_sending (hP k).2 (hi k) hable with hst | ⟨r, t, hsend⟩
  · refine ⟨k, fun m hm => ?_⟩
    induction m, hm using Nat.le_induction with
    | base => simp [Pipeline.isStopped, hst]
    | succ m _ ih =>
      obtain ⟨role, g', hstep⟩ := hs m
      exact Pipeline.isStopped_step ih hstep
  · have hlasts : ∀ m, k ≤ m → (P m).sending? r = some t := by
      intro m hm
      induction m, hm using Nat.le_induction with
      | base => exact hsend
      | succ m hm ih => exact hsends m (Nat.le_trans hk hm) r t ih
    obtain ⟨m, hm, ht, hrest⟩ := hrests k t
    have hable := (hP m).1.able_of_sending (i := i) (hlasts m hm) ht
    rw [hrest r] at hable
    exact absurd hable (by simp)

namespace Journal

variable {j j' : Journal} {p : Pipeline}

def now (j : Journal) : Instant := j.feed.plant.ground.now

/-- No party is able to act. -/
def Resting (j : Journal) : Prop := ∀ a, j.feed.plant.able a = false

/-- Nothing more comes to the pipeline. -/
def Closed (j : Journal) : Prop := ∀ p ∈ j.feed.plant.pipelines, p.input.isOpen = false

instance (j : Journal) : Decidable j.Closed :=
  inferInstanceAs (Decidable (∀ p ∈ j.feed.plant.pipelines, p.input.isOpen = false))

/-- A party that is able to act does so. -/
def Acts (j j' : Journal) : Prop :=
  ∃ a, j.feed.plant.able a = true ∧ j' = j.note a.role (j.feed.plant.act a)

/-- An endless run under a clock that waits for the parties and goes on for ever. -/
structure Course (σ : Nat → Journal) : Prop where
  moves : ∀ n, Move (σ n) (σ (n + 1))
  forward : ∀ n, (σ n).now ≤ (σ (n + 1)).now
  patient : ∀ n, (σ n).now < (σ (n + 1)).now → (σ n).Resting
  endless : ∀ t, ∃ n, t ≤ (σ n).now

/-! ## An instant -/

theorem Tells.fitted_change (h : p.Fitted j.feed.plant.ground.blueprint) (hc : Change j p j' p') :
    p'.Fitted j'.feed.plant.ground.blueprint := by
  cases hc with
  | step hs => exact Pipeline.blueprint_step hs ▸ h.step hs
  | sent l hq hs ha => exact ha.blueprint ▸ ⟨h.crew, h.output⟩

theorem exists_fitted {id : Nat} {tag : String} {capacity : Nat} {ground : Ground}
    (hcheck : ground.blueprint.settings.check = .ok ())
    (hcollects : ground.blueprint.collects = false)
    (hr : Relation.ReflTransGen Move (start id tag capacity ground) j) :
    ∃ p, j.Tells p ∧ p.Fitted j.feed.plant.ground.blueprint := by
  induction hr with
  | refl => exact ⟨_, tells_start hcheck hcollects, by simp, by simp⟩
  | tail _ hm ih =>
    obtain ⟨p, ht, hf⟩ := ih
    obtain ⟨p', ht', hc⟩ := change_of_move ht hm
    exact ⟨p', ht', Tells.fitted_change hf hc⟩

/-- The party is one of the only pipeline. -/
theorem Tells.able (h : j.Tells p) {a : Actor} (ha : j.feed.plant.able a = true) :
    a.pipeline = 0 ∧ p.able j.feed.plant.ground 0 a.role = true := by
  obtain ⟨i, r⟩ := a
  unfold Plant.able at ha
  rw [h.pipelines] at ha
  cases i with
  | zero => exact ⟨rfl, by simpa using ha⟩
  | succ i => simp at ha

theorem Tells.resting (h : j.Tells p) (hr : j.Resting) (r : Role) :
    p.able j.feed.plant.ground 0 r = false := by
  simpa [Plant.able, h.pipelines] using hr ⟨0, r⟩

theorem Tells.acts_lt (h : j.Tells p) (hf : p.Fitted j.feed.plant.ground.blueprint)
    (ha : Acts j j') (h' : j'.Tells p') :
    p'.effort 0 j'.feed.plant.ground < p.effort 0 j.feed.plant.ground := by
  obtain ⟨⟨i, r⟩, ha, rfl⟩ := ha
  obtain ⟨rfl, ha⟩ := h.able ha
  have hlt := h.sound.1.act_lt hf h.plant.checked ha
  have hx := h'.pipelines
  simp only [Plant.act, h.pipelines, List.getElem?_cons_zero, List.set_cons_zero] at hx ⊢
  obtain rfl := List.singleton_inj.1 hx
  exact hlt

/-- While the clock stands still the parties do not act for ever. -/
theorem acts_end {id : Nat} {tag : String} {capacity : Nat} {ground : Ground}
    (hcheck : ground.blueprint.settings.check = .ok ())
    (hcollects : ground.blueprint.collects = false) {τ : Nat → Journal}
    (hr : Relation.ReflTransGen Move (start id tag capacity ground) (τ 0)) :
    ∃ n, ¬Acts (τ n) (τ (n + 1)) := by
  by_contra hno
  push Not at hno
  have hreach : ∀ n, Relation.ReflTransGen Move (start id tag capacity ground) (τ n) := by
    intro n
    induction n with
    | zero => exact hr
    | succ n ih =>
      obtain ⟨a, -, ha⟩ := hno n
      exact ha ▸ ih.tail (.act a)
  choose P hP hF using fun n => exists_fitted hcheck hcollects (hreach n)
  obtain ⟨n, hn⟩ := WellFounded.not_rel_apply_succ (r := (· < ·))
    fun n => (P n).effort 0 (τ n).feed.plant.ground
  exact hn ((hP n).acts_lt (hF n) (hno n) (hP (n + 1)))

/-! ## There is a course -/

open Classical in
/-- Somebody able acts, and if nobody is the clock moves on. -/
noncomputable def onward (j : Journal) : Journal :=
  if h : ∃ a, j.feed.plant.able a = true then j.note h.choose.role (j.feed.plant.act h.choose)
  else { j with feed.plant := j.feed.plant.setNow (j.now + 1) }

theorem move_onward (j : Journal) : Move j j.onward := by
  unfold onward
  split
  · exact .act _
  · exact .setNow _

theorem onward_cases (j : Journal) :
    Acts j j.onward ∨ j.Resting ∧ j.onward.now = j.now + 1 := by
  unfold onward
  split
  · rename_i h
    exact .inl ⟨_, h.choose_spec, rfl⟩
  · rename_i h
    refine .inr ⟨fun a => ?_, rfl⟩
    simpa using fun ha => h ⟨a, ha⟩

theorem Tells.now_acts (h : j.Tells p) (ha : Acts j j') : j'.now = j.now := by
  obtain ⟨⟨i, r⟩, ha, rfl⟩ := ha
  obtain ⟨rfl, -⟩ := h.able ha
  have hs := Pipeline.step_act (i := 0) (g := j.feed.plant.ground) h.sound.1.manned r
  have hnow := Pipeline.now_step hs
  simpa [now, Journal.note, Plant.act, h.pipelines] using hnow

theorem course_onward {id : Nat} {tag : String} {capacity : Nat} {ground : Ground}
    (hcheck : ground.blueprint.settings.check = .ok ())
    (hcollects : ground.blueprint.collects = false)
    (hr : Relation.ReflTransGen Move (start id tag capacity ground) j) :
    Course fun n => onward^[n] j := by
  have hsucc : ∀ n, onward^[n + 1] j = (onward^[n] j).onward :=
    fun n => Function.iterate_succ_apply' ..
  have hreach : ∀ n, Relation.ReflTransGen Move (start id tag capacity ground) (onward^[n] j) := by
    intro n
    induction n with
    | zero => exact hr
    | succ n ih => exact hsucc n ▸ ih.tail (move_onward _)
  have hnow : ∀ n, Acts (onward^[n] j) (onward^[n + 1] j) →
      (onward^[n + 1] j).now = (onward^[n] j).now := by
    intro n ha
    obtain ⟨p, hp, -⟩ := exists_fitted hcheck hcollects (hreach n)
    exact hp.now_acts ha
  have hcases : ∀ n, Acts (onward^[n] j) (onward^[n + 1] j)
      ∨ (onward^[n] j).Resting ∧ (onward^[n + 1] j).now = (onward^[n] j).now + 1 :=
    fun n => hsucc n ▸ onward_cases _
  have hforward : ∀ n, (onward^[n] j).now ≤ (onward^[n + 1] j).now := by
    intro n
    rcases hcases n with ha | ⟨-, ht⟩
    · exact Nat.le_of_eq (hnow n ha).symm
    · exact ht ▸ Nat.le_succ _
  refine ⟨fun n => hsucc n ▸ move_onward _, hforward, fun n hlt => ?_,
    exists_le_of_ticks hforward fun n => ?_⟩
  · rcases hcases n with ha | ⟨hrest, -⟩
    · exact absurd (hnow n ha) (Nat.ne_of_gt hlt)
    · exact hrest
  · obtain ⟨k, hk⟩ := acts_end (τ := fun k => onward^[n + k] j) hcheck hcollects (hreach n)
    rcases hcases (n + k) with ha | ⟨-, ht⟩
    · exact absurd ha hk
    · exact ⟨k, ht ▸ Nat.lt_succ_self _⟩

/-! ## The end -/

/-- Once the input is closed, all that happens to the pipeline is what its parties do. -/
theorem Tells.closed_move (h : j.Tells p) (hi : p.input.isOpen = false) (hm : Move j j') :
    ∃ p' role g', j'.Tells p' ∧ p.Step 0 j.feed.plant.ground role p' g' := by
  have hkeep : j'.Tells p → ∃ p' role g', j'.Tells p' ∧ p.Step 0 j.feed.plant.ground role p' g' :=
    fun ht => ⟨p, .root, _, ht, .rest⟩
  have hparty : ∀ {role x}, j.feed.plant.Step x →
      ∃ p' role' g', (j.note role x).Tells p' ∧ p.Step 0 j.feed.plant.ground role' p' g' := by
    intro role x hx
    have hsound := h.plant.step hx
    cases hx with
    | @pipeline i role' q p' g' hq hs =>
      rw [h.pipelines] at hq hsound
      rcases i with _ | i
      · obtain rfl : p = q := by simpa using hq
        refine ⟨p', role', g', ⟨by simpa [Journal.note, h.pipelines] using hsound, ?_⟩, hs⟩
        simp [Journal.note, h.pipelines]
      · simp at hq
    | rest => exact ⟨p, .root, _, ⟨h.plant, h.pipelines⟩, .rest⟩
  cases hm with
  | send b timeout hs => exact hkeep ⟨h.plant, h.pipelines⟩
  | close =>
    have hclose : p.input.close = p.input := by simp [Queue.close, ← hi]
    exact hkeep ⟨h.plant.close 0, by simp [Feed.close, Plant.onInput, h.pipelines, hclose]⟩
  | goOn =>
    refine hkeep ?_
    rcases hs : j.feed.sending with _ | ⟨b, deadline⟩
    · simp only [Feed.callAct, hs]
      exact ⟨h.plant, h.pipelines⟩
    · have hfail : j.feed.plant.send deadline 0 b = .failed .closed := by
        simp [Plant.send, h.pipelines, hi]
      simp only [Feed.callAct, hs, hfail]
      exact ⟨h.plant, h.pipelines⟩
  | act a => exact hparty (h.plant.step_act a)
  | tickEarly a => exact hparty (Plant.step_tickEarly a)
  | setNow t =>
    exact hkeep ⟨⟨h.plant.checked, h.plant.processing, h.plant.pipelines⟩, h.pipelines⟩
  | receive d =>
    exact hkeep ⟨⟨h.plant.checked, h.plant.processing, h.plant.pipelines⟩, h.pipelines⟩

/-- Again and again everybody has come to rest, as late as one likes. -/
theorem Course.rests {σ : Nat → Journal} (h : Course σ) (n : Nat) (t : Instant) :
    ∃ m, n ≤ m ∧ t ≤ (σ m).now ∧ (σ m).Resting :=
  rests_of_endless h.forward h.patient h.endless n t

/-- On a course a pipeline whose input is closed stops. -/
theorem Course.ends {σ : Nat → Journal} (h : Course σ) {P : Nat → Pipeline}
    (hP : ∀ n, (σ n).Tells (P n)) (hi : ∀ n, (P n).input.isOpen = false)
    (hs : ∀ n, ∃ role g', (P n).Step 0 (σ n).feed.plant.ground role (P (n + 1)) g') :
    ∃ n, ∀ m, n ≤ m → (P m).isStopped = true := by
  refine Pipeline.stops_of_steps (fun n => (hP n).sound) hi hs fun n t => ?_
  obtain ⟨m, hm, ht, hrest⟩ := h.rests n t
  exact ⟨m, hm, ht, fun r => (hP m).resting hrest r⟩

theorem Course.exists_ended {σ : Nat → Journal} (h : Course σ) (ht : (σ 0).Tells p)
    (hi : (σ 0).Closed) : ∃ n, ∀ m, n ≤ m → ∀ q ∈ (σ m).feed.plant.pipelines, q.Ended := by
  have hclosed : ∀ n, ∃ p, (σ n).Tells p ∧ p.input.isOpen = false := by
    intro n
    induction n with
    | zero => exact ⟨p, ht, hi p (by simp [ht.pipelines])⟩
    | succ n ih =>
      obtain ⟨p, hp, hi⟩ := ih
      obtain ⟨p', role, g', hp', hs⟩ := hp.closed_move hi (h.moves n)
      exact ⟨p', hp', (Pipeline.isOpen_step hs).trans hi⟩
  choose P hP hopen using hclosed
  have hstep : ∀ n, ∃ role g', (P n).Step 0 (σ n).feed.plant.ground role (P (n + 1)) g' := by
    intro n
    obtain ⟨p', role, g', hp', hs⟩ := (hP n).closed_move (hopen n) (h.moves n)
    obtain rfl : p' = P (n + 1) := by simpa [hp'.pipelines] using (hP (n + 1)).pipelines
    exact ⟨role, g', hs⟩
  obtain ⟨n, hn⟩ := h.ends hP hopen hstep
  refine ⟨n, fun m hm q hq => ?_⟩
  obtain rfl : q = P m := by simpa [(hP m).pipelines] using hq
  exact (hP m).sound.1.ended (hn m hm)

/-- However a pipeline with a distributor is used and whatever the destination does, no member's run
is past one that is queued for it, and a member does not wait once all runs before its own have
completed. Once the input is closed, the pipeline comes to its end with all its workers on every
course, and there is a course. -/
theorem ends_of_closed {id : Nat} {tag : String} {capacity : Nat} {ground : Ground}
    (hcheck : ground.blueprint.settings.check = .ok ())
    (hcollects : ground.blueprint.collects = false)
    (hr : Relation.ReflTransGen Move (start id tag capacity ground) j) :
    (∀ p ∈ j.feed.plant.pipelines, ∀ w d cs, p.crew = some (.team w d cs) →
      ∀ c ∈ cs, ∀ r, c.member.processor.run = some r →
        (∀ b ∈ c.queue.items, ∃ r', b.run = some r' ∧ r ≤ r')
          ∧ ((∀ q < r, p.sequencer.Completed q) →
            c.member.processor.isWaiting p.sequencer = false))
      ∧ (∃ σ, Course σ ∧ σ 0 = j)
      ∧ (j.Closed → ∀ σ, Course σ → σ 0 = j →
        ∃ n, ∀ m, n ≤ m → ∀ p ∈ (σ m).feed.plant.pipelines, p.Ended) := by
  obtain ⟨p, ht, -⟩ := exists_fitted hcheck hcollects hr
  refine ⟨fun q hq w d cs hc c hmem r hrun => ?_, ⟨_, course_onward hcheck hcollects hr, rfl⟩,
    fun hclosed σ hσ h0 => hσ.exists_ended (h0 ▸ ht) (h0 ▸ hclosed)⟩
  obtain rfl : q = p := by simpa [ht.pipelines] using hq
  have hteam : TeamSound q.sequencer q.input w d cs := ht.sound.1.crew _ hc
  obtain ⟨k, hk⟩ := List.getElem?_of_mem hmem
  have hchild := hteam.child k c hk
  have hticket : r ∈ q.sequencer.references := by
    refine hteam.references.mem_iff.2 (List.mem_append_right _ (List.mem_flatMap.2 ⟨c, hmem, ?_⟩))
    simp [Child.tickets, Processor.tickets, hrun]
  exact ⟨fun b hb => hchild.run_le hrun hb,
    hchild.not_waiting hteam.valid hrun (hteam.valid.lt_issued r hticket)⟩

/-- The destination has room for one chunk and nobody takes it. A member is blocked on the output,
and the next one waits for its turn, when the input is closed. -/
theorem ends_of_full_destination :
    ∃ ground j σ, ground.blueprint.settings.check = .ok () ∧ ground.blueprint.collects = false
      ∧ Relation.ReflTransGen Move (start 1 "a" 2 ground) j ∧ j.Closed
      ∧ j.feed.plant.pipelines.any Pipeline.isSending = true ∧ Course σ ∧ σ 0 = j
      ∧ ∃ n, ∀ m, n ≤ m → ∀ p ∈ (σ m).feed.plant.pipelines, p.Ended := by
  let settings : PipelineSettings :=
    { workers := 2, queueCapacity := 1, tickInterval := 10000
      distributor := { maxRecords := 2 }, processing := { chunkMaxBytes := 1 } }
  let ground : Ground :=
    { blueprint := { settings, stages := some (.standard ⟨["name"]⟩ []), output := some 1 }
      destination := ⟨{ capacity := 1 }, []⟩ }
  have hcheck : ground.blueprint.settings.check = .ok () := rfl
  let b : Batch := [{ timestamp := 1 }, { timestamp := 2 }, { timestamp := 3 }, { timestamp := 4 }]
  let rounds := (List.replicate 16 [Role.root, .child 0, .child 1, .consumer]).flatten
  have h₁ := reaches_offer (j := start 1 "a" 2 ground) b 5 rfl
  have h₂ := h₁.trans (reaches_acts ((.supervisor :: rounds).map (Actor.mk 0)) _)
  have h₃ := h₂.trans (reaches_offer [{ timestamp := 5 }, { timestamp := 6 }] 5 (by decide +kernel))
  have h₄ := (h₃.trans (reaches_acts (rounds.map (Actor.mk 0)) _)).tail .close
  obtain ⟨-, ⟨σ, hσ, h0⟩, hends⟩ := ends_of_closed hcheck rfl h₄
  exact ⟨ground, _, σ, hcheck, rfl, h₄, by decide +kernel, by decide +kernel, hσ, h0,
    hends (by decide +kernel) σ hσ h0⟩

end Journal

end LogPipeline
