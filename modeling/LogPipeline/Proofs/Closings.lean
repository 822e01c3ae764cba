import LogPipeline.Proofs.Courses
import LogPipeline.Proofs.Losses

/-!
# How a shutdown returns

Once a shutdown was called it returns on every course, in which the clock moves on only when nobody
can go on and the users bring only so many more records (`Depot.Course.returns`). It does not wait
for sinks, but for the calls under way that have a batch to send. Each sends it by its deadline, and
with so many records there is a last send; then no input is held open any more, every pipeline comes
to its end, and nothing is left to wait for, whatever else the users do. There is a course from
everywhere, since what an instant holds comes to an end whoever goes on (`Depot.exists_course`).
-/

namespace LogPipeline

/-! ## Pipelines that share a destination -/

/-- A claim of another output is none of the party's business. -/
theorem Pipeline.claims_step {i j : Nat} {p p' : Pipeline} {g g' : Ground} {role : Role}
    (hs : p.Step i g role p' g') (hj : j ≠ i) :
    g'.destination.claims.contains j = g.destination.claims.contains j := by
  have herase : (g.destination.claims.erase i).contains j = g.destination.claims.contains j := by
    rw [Bool.eq_iff_iff, List.contains_iff_mem, List.contains_iff_mem]
    exact List.mem_erase_of_ne hj
  cases hs with
  | deliver => exact herase
  | giveUp => exact herase
  | claim =>
    simp only [Destination.claim]
    split
    · rfl
    · simp [hj]
  | _ => rfl

namespace Plant

variable {x x' : Plant}

/-- A step of a party is one of a pipeline, and the others stay as they are. -/
theorem step_of_step {i : Nat} {p p' : Pipeline} (hs : x.Step x') (hp : x.pipelines[i]? = some p)
    (hp' : x'.pipelines[i]? = some p') : ∃ role g', p.Step i x.ground role p' g' := by
  cases hs with
  | @pipeline j role q q' g' hq hstep =>
    rw [List.getElem?_set] at hp'
    split at hp'
    · rename_i hij
      subst hij
      obtain rfl := Option.some.inj (hp.symm.trans hq)
      obtain rfl : q' = p' := by simpa [(List.getElem?_eq_some_iff.1 hp).1] using hp'
      exact ⟨role, g', hstep⟩
    · obtain rfl := Option.some.inj (hp.symm.trans hp')
      exact ⟨.root, _, .rest⟩
  | rest =>
    obtain rfl := Option.some.inj (hp.symm.trans hp')
    exact ⟨.root, _, .rest⟩

/-- What the parties have left to do before the clock has to move. -/
def toil (x : Plant) : ℕ ×ₗ ℕ ×ₗ ℕ :=
  toLex (total Pipeline.work x.pipelines, toLex (total (·.status.rank) x.pipelines,
    total (fun e => e.1.chores x.ground.now (x.ground.destination.claims.contains e.2))
      x.pipelines.zipIdx))

/-- Whoever is able to act brings the instant closer to its end, as it leaves the other pipelines
as they are. -/
theorem Sound.toil_lt (h : x.Sound) (hf : ∀ p ∈ x.pipelines, p.Fitted x.ground.blueprint)
    {a : Actor} (hable : x.able a = true) : (x.act a).toil < x.toil := by
  obtain ⟨p, hp, hable⟩ := (Option.any_eq_true _ _).1 hable
  obtain ⟨i, role⟩ := a
  have hmem := List.mem_of_getElem? hp
  have hsound := (h.pipelines p hmem).1
  have hlt := hsound.act_lt (hf p hmem) h.checked hable
  have hstep := Pipeline.step_act (i := i) (g := x.ground) hsound.manned role
  have hact : x.act ⟨i, role⟩
      = ⟨(p.act i role x.ground).2, x.pipelines.set i (p.act i role x.ground).1⟩ := by
    simp only [Plant.act, hp]
  rw [hact]
  generalize p.act i role x.ground = y at *
  obtain ⟨p', g'⟩ := y
  dsimp only at hlt hstep ⊢
  obtain ⟨pre, post, hx, rfl⟩ := exists_seat hp
  have hother : ∀ l : List (Pipeline × Nat), (∀ e ∈ l, e.2 ≠ pre.length) →
      total (fun e => e.1.chores g'.now (g'.destination.claims.contains e.2)) l
        = total (fun e => e.1.chores x.ground.now (x.ground.destination.claims.contains e.2)) l :=
    fun l hl => total_congr fun e he => by
      rw [Pipeline.now_step hstep, Pipeline.claims_step hstep (hl e he)]
  have hpre := hother pre.zipIdx fun e he => Nat.ne_of_lt (List.snd_lt_of_mem_zipIdx he)
  have hpost := hother (post.zipIdx (pre.length + 1)) fun e he =>
    Nat.ne_of_gt (List.le_snd_of_mem_zipIdx he)
  unfold toil
  simp only [hx, set_seat, List.zipIdx_append, List.zipIdx_cons, Nat.zero_add, total_append,
    total_cons, hpre, hpost, Prod.Lex.toLex_lt_toLex]
  rw [Pipeline.effort_lt] at hlt
  omega

end Plant

/-! ## Going on -/

namespace Depot

variable {d d' : Depot} {i k : Nat} {v : Visit}

def now (d : Depot) : Instant := d.orchestrator.now

/-- Somebody who is able to goes on: a call, an input that nobody holds open, a shutdown, or a
party. -/
inductive GoesOn (d : Depot) : Depot → Prop where
  | visit {k : Nat} {v : Visit} (hv : d.visits[k]? = some v)
      (ha : (d.orchestrator.lend v).callAble = true) : GoesOn d (d.goOn k)
  | letGo {i : Nat} (hi : i ∈ d.leaving) (hv : ∀ v ∈ d.visits, v.sender ≠ some i) :
    GoesOn d (d.letGo i)
  | comeBack (hs : d.IsShut) (hq : d.orchestrator.isQuiet = true)
      (hn : d.orchestrator.stopped ≠ some true) : GoesOn d d.comeBack
  | act {a : Actor} (ha : d.orchestrator.plant.able a = true) : GoesOn d (d.act a)

/-- Nobody is able to go on. -/
def Rests (d : Depot) : Prop := ∀ d', ¬GoesOn d d'

theorem GoesOn.turn (h : GoesOn d d') : Turn d d' := by
  cases h with
  | @visit k => exact .goOn k
  | letGo hi hv => exact .letGo _ hi hv
  | comeBack hs => exact .comeBack hs
  | @act a => exact .act a

/-- What the calls under way have left to do. -/
def chores (d : Depot) : Nat := total (fun v => total Errand.chores v.errands) d.visits

/-- What is left to do before the clock has to move. -/
def effort (d : Depot) : ℕ ×ₗ ℕ ×ₗ ℕ ×ₗ ℕ ×ₗ ℕ ×ₗ ℕ :=
  toLex (d.chores, toLex (d.leaving.length,
    toLex (if d.orchestrator.stopped = some true then 0 else 1, d.orchestrator.plant.toil)))

theorem chores_goOn (hv : d.visits[k]? = some v)
    (ha : (d.orchestrator.lend v).callAble = true) : (d.goOn k).chores < d.chores := by
  have hlt := Orchestrator.chores_callAct ha
  have htotal := total_set (fun v => total Errand.chores v.errands) hv
    { v with
      errands := (d.orchestrator.lend v).callAct.errands
      sender := (d.orchestrator.lend v).waitsFor }
  have hold : (d.orchestrator.lend v).chores = total Errand.chores v.errands := rfl
  rw [hold, Orchestrator.chores] at hlt
  simp only [chores, Depot.goOn, hv]
  dsimp only at htotal
  omega

theorem Sound.effort_lt (h : d.Sound) (hg : GoesOn d d') : d'.effort < d.effort := by
  unfold effort
  rw [Prod.Lex.toLex_lt_toLex, Prod.Lex.toLex_lt_toLex, Prod.Lex.toLex_lt_toLex]
  cases hg with
  | visit hv ha => exact .inl (chores_goOn hv ha)
  | letGo hi hv =>
    refine .inr ⟨rfl, .inl ?_⟩
    exact List.length_filter_lt_length_iff_exists.2 ⟨_, hi, by simp⟩
  | comeBack hs hq hn =>
    rw [comeBack_eq]
    refine .inr ⟨rfl, .inr ⟨rfl, .inl ?_⟩⟩
    simp [hq, hn]
  | act ha =>
    exact .inr ⟨rfl, .inr ⟨rfl, .inr ⟨rfl, h.orchestrator.plant.toil_lt h.fitted ha⟩⟩⟩

/-- What an instant holds comes to an end. -/
theorem Sound.goesOn_ends {τ : Nat → Depot} (h : (τ 0).Sound) :
    ∃ n, ¬GoesOn (τ n) (τ (n + 1)) := by
  by_contra hno
  push Not at hno
  have hsound : ∀ n, (τ n).Sound := by
    intro n
    induction n with
    | zero => exact h
    | succ n ih => exact ih.turn (hno n).turn
  obtain ⟨n, hn⟩ := WellFounded.not_rel_apply_succ (r := (· < ·)) fun n => (τ n).effort
  exact hn ((hsound n).effort_lt (hno n))

/-! ## Courses -/

/-- An endless run in which the users bring only so many records, under a clock that waits for
everybody and goes on for ever. -/
structure Course (σ : Nat → Depot) : Prop where
  moves : ∀ n, Move (σ n) (σ (n + 1))
  bounded : ∃ limit, ∀ n, (σ n).counters.recordsIn ≤ limit
  forward : ∀ n, (σ n).now ≤ (σ (n + 1)).now
  patient : ∀ n, (σ n).now < (σ (n + 1)).now → (σ n).Rests
  endless : ∀ t, ∃ n, t ≤ (σ n).now

open Classical in
/-- Somebody able goes on, and if nobody is the clock does. -/
noncomputable def onward (d : Depot) : Depot :=
  if h : ∃ d', GoesOn d d' then h.choose
  else { d with orchestrator.plant := d.orchestrator.plant.setNow (d.now + 1) }

theorem onward_cases (d : Depot) :
    GoesOn d d.onward ∨ d.Rests ∧ Turn d d.onward ∧ d.onward.now = d.now + 1 := by
  unfold onward
  split
  · exact .inl (Exists.choose_spec _)
  · rename_i h
    exact .inr ⟨fun d' hd => h ⟨d', hd⟩, .setNow _, rfl⟩

theorem Sound.now_goesOn (h : d.Sound) (hg : GoesOn d d') : d'.now = d.now := by
  cases hg with
  | @visit k v hv ha =>
    simp only [Depot.goOn, hv]
    have hx := (Orchestrator.served_callAct (o := d.orchestrator.lend v)
      (h.visits v (List.mem_of_getElem? hv)).errands).1
    exact hx.ground.2.1
  | letGo => rfl
  | comeBack =>
    rw [comeBack_eq]
    rfl
  | @act a =>
    have hstep := h.orchestrator.plant.step_act a
    show (d.orchestrator.plant.act a).ground.now = d.orchestrator.plant.ground.now
    generalize d.orchestrator.plant.act a = x at hstep
    cases hstep with
    | pipeline hp hs => exact Pipeline.now_step hs
    | rest => rfl

theorem exists_course (h : d.Sound) : ∃ σ, Course σ ∧ σ 0 = d := by
  have hsucc : ∀ n, onward^[n + 1] d = (onward^[n] d).onward :=
    fun n => Function.iterate_succ_apply' ..
  have hcases : ∀ n, GoesOn (onward^[n] d) (onward^[n + 1] d) ∨ (onward^[n] d).Rests
      ∧ Turn (onward^[n] d) (onward^[n + 1] d)
      ∧ (onward^[n + 1] d).now = (onward^[n] d).now + 1 :=
    fun n => hsucc n ▸ onward_cases _
  have hturn : ∀ n, Turn (onward^[n] d) (onward^[n + 1] d) := fun n => by
    rcases hcases n with hg | ⟨-, ht, -⟩
    · exact hg.turn
    · exact ht
  have hsound : ∀ n, (onward^[n] d).Sound := by
    intro n
    induction n with
    | zero => exact h
    | succ n ih => exact ih.turn (hturn n)
  have hin : ∀ n, (onward^[n] d).counters.recordsIn = d.counters.recordsIn := by
    intro n
    induction n with
    | zero => rfl
    | succ n ih => exact ((hsound n).recordsIn_turn (hturn n)).trans ih
  have hforward : ∀ n, (onward^[n] d).now ≤ (onward^[n + 1] d).now := by
    intro n
    rcases hcases n with hg | ⟨-, -, ht⟩
    · exact Nat.le_of_eq ((hsound n).now_goesOn hg).symm
    · exact ht ▸ Nat.le_succ _
  refine ⟨fun n => onward^[n] d, ⟨fun n => .inr (hturn n), ⟨_, fun n => Nat.le_of_eq (hin n)⟩,
    hforward, fun n hlt => ?_, exists_le_of_ticks hforward fun n => ?_⟩, rfl⟩
  · rcases hcases n with hg | ⟨hrest, -⟩
    · exact absurd ((hsound n).now_goesOn hg) (Nat.ne_of_gt hlt)
    · exact hrest
  · obtain ⟨k, hk⟩ := Sound.goesOn_ends (τ := fun k => onward^[n + k] d) (hsound n)
    rcases hcases (n + k) with hg | ⟨-, -, ht⟩
    · exact absurd hg hk
    · exact ⟨k, ht ▸ Nat.lt_succ_self _⟩

/-! ## The last sends -/

/-- A call stays as it is until it goes on. -/
theorem visits_move (hm : Move d d') (hv : d.visits[k]? = some v) :
    d'.visits[k]? = some v ∨ d' = d.goOn k := by
  have hcall : ∀ u, (d.visits ++ [u])[k]? = some v := fun u =>
    (List.getElem?_append_left (List.getElem?_eq_some_iff.1 hv).1).trans hv
  rcases hm with hc | ht
  · cases hc with
    | accept | tick | close => exact .inl (hcall _)
    | _ => exact .inl hv
  · cases ht with
    | goOn j =>
      rcases eq_or_ne j k with rfl | hj
      · exact .inr rfl
      · unfold Depot.goOn
        split
        · exact .inl hv
        · exact .inl ((List.getElem?_set_ne hj).trans hv)
    | comeBack =>
      rw [comeBack_eq]
      exact .inl hv
    | _ => exact .inl hv

/-- A send that is not put off is the end of its batch. -/
theorem shipped_goOn {b : Batch} {l : List Errand} (hv : d.visits[k]? = some v)
    (hl : v.errands = .send i b :: l) (hb : b ≠ []) : d.shipped < (d.goOn k).shipped
      ∨ (d.goOn k).visits[k]? = some { v with sender := some i } := by
  have hpos := List.length_pos_iff.2 hb
  have hlt := (List.getElem?_eq_some_iff.1 hv).1
  simp only [shipped, Depot.goOn, hv, Depot.change, Orchestrator.callAct, Orchestrator.entering,
    Orchestrator.waitsFor, Orchestrator.sends?, Orchestrator.lend, hl]
  rcases hsend : d.orchestrator.plant.send v.deadline i b with x | reason | -
  · refine .inl ?_
    simp only [total_append, total_cons, total_nil]
    omega
  · refine .inl ?_
    have hlost : (d.orchestrator.books.loseSend (reason = .timeout) b).counters.recordsLost
        = d.counters.recordsLost + b.length := by
      unfold Books.loseSend
      split <;> rfl
    show _ < total List.length (d.entered ++ []) + (d.strayed +
      ((d.orchestrator.books.loseSend (reason = .timeout) b).counters.recordsLost
        - d.counters.recordsLost))
    rw [hlost, List.append_nil]
    omega
  · refine .inr ?_
    simp [hlt, ← hl]

/-- A send that is under way is still under way after a move, or is over. -/
theorem Sound.send_move (h : d.Sound) {b : Batch} {l : List Errand} (hv : d.visits[k]? = some v)
    (hl : v.errands = .send i b :: l) (hm : Move d d') : d.shipped < d'.shipped
      ∨ ∃ v', d'.visits[k]? = some v' ∧ v'.errands = v.errands ∧ v'.deadline = v.deadline := by
  rcases visits_move hm hv with hv' | rfl
  · exact .inr ⟨v, hv', rfl, rfl⟩
  · have hb : Errand.OfSink (.send i b) :=
      (h.visits v (List.mem_of_getElem? hv)).errands _ (hl ▸ List.mem_cons_self)
    exact (shipped_goOn hv hl hb).imp_right fun hv' =>
      ⟨{ v with sender := some i }, hv', rfl, rfl⟩

/-- A call that has not returned and cannot go on waits for room, and not past its deadline. -/
theorem Sound.waits_of_unable (h : d.Sound) {v : Visit} (hv : v ∈ d.visits) (hne : v.errands ≠ [])
    (hable : (d.orchestrator.lend v).callAble = false) :
    d.now < v.deadline ∧ ∃ i b l, v.errands = .send i b :: l := by
  obtain ⟨t, l, hl⟩ := List.exists_cons_of_ne_nil hne
  simp only [Orchestrator.callAble, Orchestrator.lend, hl] at hable
  cases t with
  | route | tick => simp at hable
  | awaitStop limit =>
    exact ((h.visits v hv).errands (.awaitStop limit) (hl ▸ List.mem_cons_self)).elim
  | send i b =>
    refine ⟨Nat.lt_of_not_le fun ht => ?_, i, b, l, hl⟩
    have ht : v.deadline ≤ d.orchestrator.plant.ground.now := ht
    simp only [Plant.decides] at hable
    rcases hp : d.orchestrator.plant.pipelines[i]? with _ | p
    · simp [hp] at hable
    · simp [hp, Queue.decides, ht] at hable

/-- When everybody rests, a call that has not returned waits for room, and not past its deadline. -/
theorem Sound.waits_of_rests (h : d.Sound) (hr : d.Rests) {v : Visit} (hv : v ∈ d.visits)
    (hne : v.errands ≠ []) : d.now < v.deadline ∧ ∃ i b l, v.errands = .send i b :: l := by
  obtain ⟨k, hk⟩ := List.getElem?_of_mem hv
  exact h.waits_of_unable hv hne (Bool.eq_false_iff.2 fun ha => hr _ (.visit hk ha))

/-! ## Closed inputs -/

theorem isOpen_turn (h : d.Sound) (ht : Turn d d') :
    d'.orchestrator.router.isOpen = d.orchestrator.router.isOpen := by
  cases ht with
  | goOn k =>
    unfold Depot.goOn
    split
    · rfl
    · rename_i v hv
      exact (Orchestrator.served_callAct (o := d.orchestrator.lend v)
        (h.visits v (List.mem_of_getElem? hv)).errands).1.isOpen
  | comeBack =>
    rw [comeBack_eq]
  | act a => exact (Orchestrator.router_act d.orchestrator a).1
  | _ => rfl

theorem IsShut.move (hshut : d.IsShut) (h : d.Sound) (hm : Move d d') : d'.IsShut := by
  rcases hm with hc | ht
  · cases hc with
    | close id =>
      show (d.orchestrator.close id).router.isOpen = false
      unfold Orchestrator.close
      split <;> exact hshut
    | shutDown => exact Router.isOpen_shut _
    | _ => exact hshut
  · exact (isOpen_turn h ht).trans hshut

/-- A shutdown was called, and no input is open any more. -/
structure Closed (d : Depot) : Prop where
  shut : d.IsShut
  inputs : ∀ p ∈ d.pipelines, p.input.isOpen = false

/-- When no call is under way and nobody is able to go on, every input is closed. -/
theorem Sound.closed_of_rests (h : d.Sound) (hshut : d.IsShut) (hr : d.Rests)
    (hv : ∀ v ∈ d.visits, v.errands = []) : d.Closed := by
  have hleaving : d.leaving = [] := by
    refine List.eq_nil_iff_forall_not_mem.2 fun i hi => hr _ (.letGo hi fun v hmem hs => ?_)
    obtain ⟨-, b, l, hl⟩ := (h.visits v hmem).sender i hs
    simp [hv v hmem] at hl
  refine ⟨hshut, fun p hp => Bool.eq_false_iff.2 fun ho => ?_⟩
  obtain ⟨i, hi⟩ := List.getElem?_of_mem hp
  rcases h.held i (Plant.getElem?_gates.2 ⟨p, hi, ho⟩) with hr | hl
  · simp [show d.orchestrator.router.isOpen = false from hshut] at hr
  · simp [hleaving] at hl

/-- Every pipeline goes on by itself, whatever the users do. -/
theorem Closed.step (hd : d.Closed) (h : d.Sound) (hm : Move d d') :
    d'.pipelines.length = d.pipelines.length ∧ ∀ (i : Nat) (p p' : Pipeline),
      d.pipelines[i]? = some p → d'.pipelines[i]? = some p' →
      ∃ role g', p.Step i d.orchestrator.plant.ground role p' g' := by
  have hsame : d'.pipelines = d.pipelines → d'.pipelines.length = d.pipelines.length
      ∧ ∀ (i : Nat) (p p' : Pipeline), d.pipelines[i]? = some p → d'.pipelines[i]? = some p' →
        ∃ role g', p.Step i d.orchestrator.plant.ground role p' g' := fun heq =>
    ⟨congrArg _ heq, fun i p p' hp hp' => by
      rw [heq, hp] at hp'
      obtain rfl := Option.some.inj hp'
      exact ⟨.root, _, .rest⟩⟩
  cases h.effect hm with
  | served hx => exact hsame (hx.stays hd.shut hd.inputs).2.1
  | step hs =>
    exact ⟨(Plant.follows_step hs).1, fun i p p' hp hp' => Plant.step_of_step hs hp hp'⟩
  | closed i hp =>
    refine hsame (congrArg Plant.pipelines (hp.trans ?_))
    exact Plant.close_eq hd.inputs i
  | kept hp => exact hsame hp

theorem Closed.move (hd : d.Closed) (h : d.Sound) (hm : Move d d') : d'.Closed := by
  obtain ⟨hlength, hstep⟩ := hd.step h hm
  refine ⟨hd.shut.move h hm, fun p' hp' => ?_⟩
  obtain ⟨i, hi⟩ := List.getElem?_of_mem hp'
  have hlt : i < d.pipelines.length := hlength ▸ (List.getElem?_eq_some_iff.1 hi).1
  have hp : d.pipelines[i]? = some d.pipelines[i] := List.getElem?_eq_getElem hlt
  obtain ⟨role, g', hs⟩ := hstep i _ p' hp hi
  exact (Pipeline.isOpen_step hs).trans (hd.inputs _ (List.mem_of_getElem? hp))

/-- No call waits for anything. -/
theorem Closed.able (hd : d.Closed) (h : d.Sound) {v : Visit} (hv : v ∈ d.visits)
    (hl : v.errands ≠ []) : (d.orchestrator.lend v).callAble = true := by
  rcases hl' : v.errands with _ | ⟨t, l⟩
  · exact absurd hl' hl
  · simp only [Orchestrator.callAble, Orchestrator.lend, hl']
    cases t with
    | route | tick => rfl
    | send i b =>
      simp only [Plant.decides]
      rcases hp : d.orchestrator.plant.pipelines[i]? with _ | p
      · rfl
      · simp [hd.inputs p (List.mem_of_getElem? hp)]
    | awaitStop limit =>
      exact ((h.visits v hv).errands (.awaitStop limit) (hl' ▸ List.mem_cons_self)).elim

/-! ## The return -/

/-- A shutdown was called, and every pipeline has stopped. -/
structure Over (d : Depot) : Prop where
  shut : d.IsShut
  stopped : ∀ p ∈ d.pipelines, p.isStopped = true

/-- The shutdown returns when everybody rests and every pipeline has stopped. -/
theorem Sound.stopped_of_rests (h : d.Sound) (hshut : d.IsShut) (hr : d.Rests)
    (hs : ∀ p ∈ d.pipelines, p.isStopped = true) : d.orchestrator.stopped = some true := by
  by_contra hn
  exact hr _ (.comeBack hshut (Orchestrator.isQuiet_of_stopped h.router hshut hs) hn)

namespace Course

variable {σ : Nat → Depot}

theorem sound (h : Course σ) (h₀ : (σ 0).Sound) (n : Nat) : (σ n).Sound := by
  induction n with
  | zero => exact h₀
  | succ n ih => exact ih.move (h.moves n)

theorem balanced (h : Course σ) (h₀ : (σ 0).Sound) (hb : (σ 0).Balanced) (n : Nat) :
    (σ n).Balanced := by
  induction n with
  | zero => exact hb
  | succ n ih => exact ih.move (h.sound h₀ n) (h.moves n)

theorem isShut (h : Course σ) (h₀ : (σ 0).Sound) (hshut : (σ 0).IsShut) (n : Nat) :
    (σ n).IsShut := by
  induction n with
  | zero => exact hshut
  | succ n ih => exact ih.move (h.sound h₀ n) (h.moves n)

/-- Again and again everybody has come to rest, as late as one likes. -/
theorem rests (h : Course σ) (n : Nat) (t : Instant) : ∃ m, n ≤ m ∧ t ≤ (σ m).now ∧ (σ m).Rests :=
  rests_of_endless h.forward h.patient h.endless n t

/-- Only so many records can leave the sinks, so that there is a last send. -/
theorem sent (h : Course σ) (h₀ : (σ 0).Sound) (hb : (σ 0).Balanced) :
    ∃ n, ∀ m, n ≤ m → ∀ v ∈ (σ m).visits, ∀ i b l, v.errands ≠ .send i b :: l := by
  obtain ⟨limit, hlimit⟩ := h.bounded
  have hle : ∀ n, (σ n).shipped ≤ limit := fun n =>
    Nat.le_trans (h.balanced h₀ hb n).shipped_le (hlimit n)
  have hmono : Monotone fun n => (σ n).shipped :=
    monotone_nat_of_le_succ fun n => shipped_move (h.moves n)
  obtain ⟨_, ⟨n, rfl⟩, hn⟩ :=
    wellFounded_lt.has_min (Set.range fun n => limit - (σ n).shipped) ⟨_, 0, rfl⟩
  have hlast : ∀ m, n ≤ m → ¬(σ m).shipped < (σ (m + 1)).shipped := fun m hm hlt => by
    have hshipped : (σ n).shipped ≤ (σ m).shipped := hmono hm
    have hlast := hn _ ⟨m + 1, rfl⟩
    have hbound := hle (m + 1)
    dsimp only at hlast
    omega
  refine ⟨n, fun m hm v hv i b l hl => ?_⟩
  obtain ⟨k, hk⟩ := List.getElem?_of_mem hv
  -- the send is still under way after its deadline
  have hstays : ∀ m', m ≤ m' → ∃ v', (σ m').visits[k]? = some v' ∧ v'.errands = v.errands
      ∧ v'.deadline = v.deadline := by
    intro m' hm'
    induction m', hm' using Nat.le_induction with
    | base => exact ⟨v, hk, rfl, rfl⟩
    | succ m' hm' ih =>
      obtain ⟨v', hv', he, hdeadline⟩ := ih
      obtain ⟨v'', hv'', he', hdeadline'⟩ := ((h.sound h₀ m').send_move hv' (he.trans hl)
        (h.moves m')).resolve_left (hlast m' (Nat.le_trans hm hm'))
      exact ⟨v'', hv'', he'.trans he, hdeadline'.trans hdeadline⟩
  obtain ⟨e, he, ht, hrest⟩ := h.rests m v.deadline
  obtain ⟨v', hv', hv'l, hdeadline⟩ := hstays e he
  have hlate := ((h.sound h₀ e).waits_of_rests hrest (List.mem_of_getElem? hv')
    (by simp [hv'l, hl])).1
  exact absurd ht (Nat.not_le_of_lt (hdeadline ▸ hlate))

/-- The calls that have an input open return, and it is closed for good. -/
theorem closes (h : Course σ) (h₀ : (σ 0).Sound) (hb : (σ 0).Balanced) (hshut : (σ 0).IsShut) :
    ∃ n, ∀ m, n ≤ m → (σ m).Closed := by
  obtain ⟨n, hn⟩ := h.sent h₀ hb
  obtain ⟨k, hk, -, hrest⟩ := h.rests n 0
  refine ⟨k, fun m hm => ?_⟩
  induction m, hm using Nat.le_induction with
  | base =>
    refine (h.sound h₀ k).closed_of_rests (h.isShut h₀ hshut k) hrest fun v hv => ?_
    by_contra hne
    obtain ⟨-, i, b, l, hl⟩ := (h.sound h₀ k).waits_of_rests hrest hv hne
    exact hn k hk v hv i b l hl
  | succ m hm ih => exact ih.move (h.sound h₀ m) (h.moves m)

/-- Every pipeline comes to its end. -/
theorem ends (h : Course σ) (h₀ : (σ 0).Sound) (hb : (σ 0).Balanced) (hshut : (σ 0).IsShut) :
    ∃ n, ∀ m, n ≤ m → (σ m).Closed ∧ (σ m).Over := by
  obtain ⟨n, hn⟩ := h.closes h₀ hb hshut
  have hstep := fun k => (hn (n + k) (Nat.le_add_right n k)).step (h.sound h₀ _) (h.moves (n + k))
  have hlength : ∀ k, (σ (n + k)).pipelines.length = (σ n).pipelines.length := by
    intro k
    induction k with
    | zero => rfl
    | succ k ih => exact (hstep k).1.trans ih
  have hrests : ∀ k t, ∃ m, k ≤ m ∧ t ≤ (σ (n + m)).now ∧ (σ (n + m)).Rests := by
    intro k t
    obtain ⟨m, hm, ht, hrest⟩ := h.rests (n + k) t
    obtain ⟨j, rfl⟩ := Nat.exists_eq_add_of_le (Nat.le_trans (Nat.le_add_right n k) hm)
    exact ⟨j, Nat.le_of_add_le_add_left hm, ht, hrest⟩
  have hone : ∀ i < (σ n).pipelines.length, ∃ e, ∀ k, e ≤ k →
      ∀ p, (σ (n + k)).pipelines[i]? = some p → p.isStopped = true := by
    intro i hi
    have hat : ∀ k, ∃ p, (σ (n + k)).pipelines[i]? = some p := fun k =>
      ⟨_, List.getElem?_eq_getElem ((hlength k).symm ▸ hi)⟩
    choose P hP using hat
    have hmem := fun k => List.mem_of_getElem? (hP k)
    obtain ⟨e, he⟩ := Pipeline.stops_of_steps (i := i) (P := P)
      (G := fun k => (σ (n + k)).orchestrator.plant.ground)
      (fun k => (h.sound h₀ _).orchestrator.plant.pipelines _ (hmem k))
      (fun k => (hn (n + k) (Nat.le_add_right n k)).inputs _ (hmem k))
      (fun k => (hstep k).2 i _ _ (hP k) (hP (k + 1)))
      (fun k t => by
        obtain ⟨m, hm, ht, hrest⟩ := hrests k t
        refine ⟨m, hm, ht, fun r => Bool.eq_false_iff.2 fun ha => hrest _ (.act (a := ⟨i, r⟩) ?_)⟩
        exact (Option.any_eq_true _ _).2 ⟨_, hP m, ha⟩)
    refine ⟨e, fun k hk p hp => ?_⟩
    obtain rfl := Option.some.inj ((hP k).symm.trans hp)
    exact he k hk
  choose! e he using hone
  refine ⟨n + total e (List.range (σ n).pipelines.length), fun m hm => ?_⟩
  obtain ⟨k, rfl⟩ := Nat.exists_eq_add_of_le (Nat.le_trans (Nat.le_add_right n _) hm)
  refine ⟨hn _ (Nat.le_add_right n k), h.isShut h₀ hshut _, fun p hp => ?_⟩
  obtain ⟨i, hi⟩ := List.getElem?_of_mem hp
  have hlt : i < (σ n).pipelines.length := hlength k ▸ (List.getElem?_eq_some_iff.1 hi).1
  exact he i hlt k (Nat.le_trans (le_total e (List.mem_range.2 hlt))
    (Nat.le_of_add_le_add_left hm)) p hi

/-- Every shutdown returns, and so does every call. -/
theorem returns (h : Course σ) (h₀ : (σ 0).Sound) (hb : (σ 0).Balanced) (hshut : (σ 0).IsShut)
    (k : Nat) : ∃ n, k ≤ n ∧ (σ n).orchestrator.stopped = some true
      ∧ ∀ v ∈ (σ n).visits, v.errands = [] := by
  obtain ⟨n, hn⟩ := h.ends h₀ hb hshut
  obtain ⟨m, hm, -, hrest⟩ := h.rests (max k n) 0
  obtain ⟨hclosed, hover⟩ := hn m (Nat.le_trans (Nat.le_max_right k n) hm)
  refine ⟨m, Nat.le_trans (Nat.le_max_left k n) hm,
    (h.sound h₀ m).stopped_of_rests hover.shut hrest hover.stopped, fun v hv => ?_⟩
  by_contra hne
  obtain ⟨j, hj⟩ := List.getElem?_of_mem hv
  exact hrest _ (.visit hj (hclosed.able (h.sound h₀ m) hv hne))

end Course

end Depot

end LogPipeline
