import LogPipeline.Orchestrator
import LogPipeline.Proofs.Gathering
import LogPipeline.Proofs.Plants
import LogPipeline.Proofs.Runs

/-!
# No record is lost uncounted

A record that was handed to a sink waits in its buffer, is in the hands of a call, is inside a
pipeline, or has left; and what has left was counted and given back once (`Orchestrator.Balanced`).
Every move of an orchestrator keeps this, whoever makes it (`Sound.move`). Once every pipeline has
stopped and no sink holds anything, everything that came in is accounted for.
-/

namespace LogPipeline

/-- The records in the hands of a call. -/
def Errand.load : Errand → Nat
  | route _ _ => 1
  | send _ b => b.length
  | _ => 0

namespace Orchestrator

variable {o o' : Orchestrator} {id : Nat} {s : Sink}

/-- The records that wait in sinks. -/
def gathered (o : Orchestrator) : Nat := total (fun e => e.2.pending.length) o.sinks

/-- The records in the hands of the call under way. -/
def carried (o : Orchestrator) : Nat := total Errand.load o.errands

/-- All records that came in and have not left. -/
def load (o : Orchestrator) : Nat := o.gathered + o.carried + o.plant.load

/-- The books. -/
def books (o : Orchestrator) : Books := o.plant.ground.books

/-- What is always so of an orchestrator over pipelines that process what they are sent. -/
structure Sound (o : Orchestrator) : Prop where
  plant : o.plant.Sound
  ids : (o.sinks.map Prod.fst).Nodup
  sinks : ∀ e ∈ o.sinks, e.2.Neat
  owned : ∀ fields template map, o.router = .keyed fields template map →
    map.created = o.plant.pipelines.length ∧ ∀ (j : Nat) (p : Pipeline),
      o.plant.pipelines[j]? = some p → p.isStopped = false → j ∈ map.live
  halted : o.stopped = some true → (∀ p ∈ o.plant.pipelines, p.isStopped = true)
    ∧ ∀ fields template map, o.router = .keyed fields template map → map.destroyed = true

/-- What came in has left or is still there, and what has left was given back. -/
structure Balanced (o : Orchestrator) : Prop where
  entered : o.books.counters.recordsIn = o.books.counters.recordsAccounted + o.load
  returned : o.books.pool.returns + o.books.pool.drops = o.books.counters.recordsAccounted

/-- As many records as are no longer there have left. -/
def Passes (o o' : Orchestrator) : Prop :=
  ∃ n, Books.Leave n o.books o'.books ∧ o.load = o'.load + n

theorem Balanced.of_passes (h : o.Balanced) (hp : o.Passes o') : o'.Balanced := by
  obtain ⟨n, ⟨h1, h2, h3⟩, hn⟩ := hp
  obtain ⟨he, hr⟩ := h
  exact ⟨by omega, by omega⟩

theorem Passes.trans {o'' : Orchestrator} (h : o.Passes o') (h' : o'.Passes o'') :
    o.Passes o'' := by
  obtain ⟨n, ⟨h1, h2, h3⟩, hn⟩ := h
  obtain ⟨n', ⟨h1', h2', h3'⟩, hn'⟩ := h'
  exact ⟨n + n', ⟨h1'.trans h1, by omega, by omega⟩, by omega⟩

/-! ## Sinks -/

theorem Sound.total_putSink (h : o.Sound) (hs : o.sink? id = some s) (s' : Sink) (f : Sink → Nat) :
    total (fun e => f e.2) (o.putSink id s').sinks + f s
      = total (fun e => f e.2) o.sinks + f s' := by
  obtain ⟨pre, post, hl, hput, -⟩ := exists_entry h.ids hs
  simp only [Orchestrator.putSink, hput s']
  simp only [hl, total_append, total_cons]
  omega

theorem Sound.putSink (h : o.Sound) (hs : o.sink? id = some s) {s' : Sink} (hn : s'.Neat) :
    (o.putSink id s').Sound ∧ (o.putSink id s').gathered + s.load = o.gathered + s'.load := by
  refine ⟨?_, by simpa [gathered, Sink.length_pending] using h.total_putSink hs s' Sink.load⟩
  obtain ⟨pre, post, hl, hput, -⟩ := exists_entry h.ids hs
  have hput := hput s'
  refine ⟨h.plant, ?_, ?_, h.owned, h.halted⟩
  · have hkeys :
        (pre ++ (id, s') :: post).map Prod.fst = (pre ++ (id, s) :: post).map Prod.fst := by
      simp
    simp only [Orchestrator.putSink, hput, hkeys]
    exact hl ▸ h.ids
  · have hpre : ∀ e ∈ pre ++ post, e.2.Neat := fun e he =>
      h.sinks e (by rw [hl]; exact List.perm_middle.symm.subset (List.mem_cons_of_mem _ he))
    simp only [Orchestrator.putSink, hput]
    intro e he
    rcases List.mem_cons.1 (List.perm_middle.subset he) with rfl | he
    · exact hn
    · exact hpre e he

theorem Sound.neat (h : o.Sound) (hs : o.sink? id = some s) : s.Neat := by
  obtain ⟨e, he, rfl⟩ := Option.map_eq_some_iff.1 hs
  exact h.sinks e (List.mem_of_find?_eq_some he)

theorem Sound.onBooks (h : o.Sound) (f : Books → Books) : (o.onBooks f).Sound :=
  ⟨⟨h.plant.checked, h.plant.processing, h.plant.pipelines⟩, h.ids, h.sinks, h.owned, h.halted⟩

theorem Sound.begin (h : o.Sound) (l : List Errand) : (o.begin l).Sound :=
  ⟨h.plant, h.ids, h.sinks, h.owned, h.halted⟩

theorem Sound.next (h : o.Sound) (b : Option (Nat × Batch)) : (o.next b).Sound :=
  ⟨h.plant, h.ids, h.sinks, h.owned, h.halted⟩

/-- A router knows the pipelines that go on from those it knew. -/
theorem Sound.owned_follows (h : o.Sound) {x : Plant} (hf : o.plant.Follows x) {fields : KeyFields}
    {template : TagTemplate} {map : KeyMap PipelineEntry}
    (hr : o.router = .keyed fields template map) :
    map.created = x.pipelines.length ∧ ∀ (j : Nat) (p : Pipeline),
      x.pipelines[j]? = some p → p.isStopped = false → j ∈ map.live := by
  obtain ⟨hcreated, hlive⟩ := h.owned _ _ _ hr
  refine ⟨hcreated.trans hf.1.symm, fun j p hp hs => ?_⟩
  obtain ⟨q, hq, hqs⟩ := hf.2 j p hp hs
  exact hlive j q hq hqs

theorem carried_next {t : Errand} {l : List Errand} (hl : o.errands = t :: l)
    (b : Option (Nat × Batch)) : (o.next b).carried + t.load = handed b + o.carried := by
  rcases b with _ | ⟨i, b⟩
  · simp [carried, next, hl, handed]
    omega
  · simp [carried, next, hl, handed, Errand.load]
    omega

theorem Sound.dropSink (h : o.Sound) (id : Nat) :
    (o.dropSink id).Sound ∧ o.Passes (o.dropSink id)
      ∧ ∀ e ∈ (o.dropSink id).sinks, e.1 ≠ id := by
  have hsub : ∀ e ∈ o.sinks.filter (·.1 != id), e ∈ o.sinks := fun e he => (List.mem_filter.1 he).1
  refine ⟨⟨(h.onBooks _).plant, h.ids.sublist (List.filter_sublist.map _), fun e he =>
    h.sinks e (hsub e he), h.owned, h.halted⟩, ?_, fun e he => ?_⟩
  · rcases hs : o.sink? id with _ | s
    · have hne : ∀ e ∈ o.sinks, (e.1 != id) = true := by
        have : o.sinks.find? (·.1 == id) = none := by simpa [sink?] using hs
        intro e he
        simpa [bne] using List.find?_eq_none.1 this e he
      refine ⟨0, ?_, ?_⟩
      · simp only [books, Orchestrator.dropSink, hs]
        exact Books.leave_lose [] _
      · simp only [load, gathered, Orchestrator.dropSink, List.filter_eq_self.2 hne]
        rfl
    · obtain ⟨pre, post, hl, -, hfilter⟩ := exists_entry h.ids hs
      refine ⟨s.pending.length, ?_, ?_⟩
      · simp only [books, Orchestrator.dropSink, hs]
        exact Books.leave_lose s.pending _
      · simp only [load, gathered, Orchestrator.dropSink, hfilter]
        simp only [hl, total_append, total_cons, carried, Plant.load, Orchestrator.onBooks,
          Plant.onBooks]
        omega
  · simpa [bne] using (List.mem_filter.1 he).2

theorem Sound.addSink (h : o.Sound) (id : Nat) :
    (o.addSink id).Sound ∧ o.Passes (o.addSink id) := by
  obtain ⟨hs, ⟨n, hleave, hn⟩, hne⟩ := h.dropSink id
  have hempty : ∀ s : Sink, s.load = 0 → s.Neat →
      Sound { o.dropSink id with sinks := (o.dropSink id).sinks ++ [(id, s)] }
        ∧ o.Passes { o.dropSink id with sinks := (o.dropSink id).sinks ++ [(id, s)] } := by
    intro s hload hneat
    refine ⟨⟨hs.plant, ?_, fun e he => ?_, hs.owned, hs.halted⟩, n, hleave, ?_⟩
    · simp only [List.map_append, List.map_cons, List.map_nil]
      refine List.nodup_append.2 ⟨hs.ids, by simp, fun k hk k' hk' hkk => ?_⟩
      obtain ⟨e, he, rfl⟩ := List.mem_map.1 hk
      exact hne e he (hkk.trans (List.mem_singleton.1 hk'))
    · rcases List.mem_append.1 he with he | he
      · exact hs.sinks e he
      · rw [List.mem_singleton.1 he]
        exact hneat
    · rw [hn]
      simp only [load, gathered, total_append, total_cons, total_nil, Sink.length_pending, hload]
      rfl
  unfold Orchestrator.addSink
  dsimp only
  split
  · exact hempty _ rfl trivial
  · exact hempty _ rfl trivial
  · exact hempty _ rfl List.nodup_nil

/-! ## Calls -/

theorem Sound.tick (h : o.Sound) (hc : o.errands = []) (id : Nat) :
    (o.tick id).Sound ∧ o.Passes (o.tick id) := by
  refine ⟨h.begin _, 0, .refl _, ?_⟩
  simp only [load, carried, hc, Orchestrator.tick, Orchestrator.begin, total_map]
  rw [total_eq_zero (f := fun i => (Errand.tick id i o.now).load) fun _ _ => rfl]
  rfl

theorem Sound.close (h : o.Sound) (hc : o.errands = []) (id : Nat) :
    (o.close id).Sound ∧ o.Passes (o.close id) := by
  unfold Orchestrator.close
  split
  · refine ⟨h.begin _, 0, .refl _, ?_⟩
    simp only [load, carried, hc]
    rfl
  · rename_i s hs
    obtain ⟨hput, hgathered⟩ := h.putSink hs s.neat_emptied
    refine ⟨hput.begin _, 0, .refl _, ?_⟩
    rw [Sink.load_emptied, ← s.load_batches] at hgathered
    simp only [load, carried, hc, Orchestrator.begin, total_map, total_nil]
    change o.gathered + 0 + o.plant.load = (o.putSink id s.emptied).gathered
      + total (fun b => b.2.length) s.batches + o.plant.load + 0
    omega

theorem Sound.accept (h : o.Sound) (hb : o.Balanced) (hc : o.errands = []) (id : Nat) (l : Batch) :
    (o.accept id l).Sound ∧ (o.accept id l).Balanced := by
  refine ⟨(h.onBooks _).begin _, ?_, hb.returned⟩
  have hcarried : total Errand.load (l.map (Errand.route id)) = l.length := by
    rw [total_map]
    exact total_one l
  have hin := hb.entered
  simp only [load, carried, hc, total_nil] at hin
  simp only [load, carried, Orchestrator.accept, Orchestrator.begin, hcarried]
  change o.books.counters.recordsIn + l.length
    = o.books.counters.recordsAccounted + (o.gathered + l.length + o.plant.load)
  omega

theorem Sound.closeAll {x : Plant} (h : x.Sound) (l : List (String × PipelineEntry)) :
    (l.foldl (fun (x : Plant) e => x.onInput e.2.id Queue.close) x).Sound
      ∧ x.Follows (l.foldl (fun (x : Plant) e => x.onInput e.2.id Queue.close) x)
      ∧ (l.foldl (fun (x : Plant) e => x.onInput e.2.id Queue.close) x).ground = x.ground
      ∧ (l.foldl (fun (x : Plant) e => x.onInput e.2.id Queue.close) x).load = x.load := by
  induction l generalizing x with
  | nil => exact ⟨h, .refl x, rfl, rfl⟩
  | cons e l ih =>
    obtain ⟨h1, h2, h3, h4⟩ := ih (h.close e.2.id)
    exact ⟨h1, (Plant.follows_onInput _ _ x).trans h2, h3, h4.trans (Plant.load_close _ x)⟩

/-- Nothing changes for the records when every input is closed. -/
theorem Sound.shutDown (h : o.Sound) (hc : o.errands = []) :
    o.shutDown.Sound ∧ o.Passes o.shutDown := by
  unfold Orchestrator.shutDown
  dsimp only
  split
  · refine ⟨⟨h.plant.close 0, h.ids, h.sinks, by simp [Orchestrator.begin], ?_⟩, 0, .refl _, ?_⟩
    · simp [Orchestrator.begin]
    · simp only [load, carried, hc, Orchestrator.begin, Plant.load_close, gathered]
      rfl
  · rename_i fields template map hr
    obtain ⟨h1, h2, h3, h4⟩ := Sound.closeAll h.plant map.entries
    refine ⟨⟨h1, h.ids, h.sinks, ?_, by simp [Orchestrator.begin]⟩, 0, ?_, ?_⟩
    · rintro _ _ _ ⟨⟩
      have howned := h.owned_follows h2 hr
      exact howned
    · simp only [books, Orchestrator.begin, KeyMap.destroy, h3]
      exact .refl _
    · simp only [load, carried, hc, Orchestrator.begin, gathered, KeyMap.destroy, h4]
      rfl

/-! ## Errands -/

/-- An errand that is given up is the loss of what it carries. -/
theorem Sound.lose (h : o.Sound) {t : Errand} {l : List Errand} {b : Batch} {n : Bool}
    (hl : o.errands = t :: l) (ht : t.load = b.length) :
    ((o.onBooks (·.lose b)).next none).Sound ∧ o.Passes ((o.onBooks (·.lose b)).next none)
      ∧ ((o.onBooks (·.loseSend n b)).next none).Sound
      ∧ o.Passes ((o.onBooks (·.loseSend n b)).next none) := by
  have hcarried := fun f : Books → Books =>
    carried_next (o := o.onBooks f) (t := t) (l := l) hl none
  have hload : ∀ f : Books → Books, o.load = ((o.onBooks f).next none).load + b.length := by
    intro f
    have := hcarried f
    simp only [handed] at this
    change o.gathered + o.carried + o.plant.load
      = o.gathered + ((o.onBooks f).next none).carried + o.plant.load + b.length
    change ((o.onBooks f).next none).carried + t.load = 0 + o.carried at this
    omega
  exact ⟨(h.onBooks _).next none, ⟨b.length, Books.leave_lose b _, hload _⟩,
    (h.onBooks _).next none, ⟨b.length, Books.leave_loseSend n b _, hload _⟩⟩

/-- A record that finds its buffer waits there, or goes on with the batch it completes. -/
theorem Sound.put (h : o.Sound) {t : Errand} {l : List Errand} (hl : o.errands = t :: l)
    (hs : o.sink? id = some s) (s' : Sink) {b : Option (Nat × Batch)} (hn : s'.Neat)
    (hload : handed b + s'.load = s.load + t.load) :
    ((o.putSink id s').next b).Sound ∧ o.Passes ((o.putSink id s').next b) := by
  obtain ⟨hput, hgathered⟩ := h.putSink hs hn
  refine ⟨hput.next b, 0, .refl _, ?_⟩
  have hcarried := carried_next (o := o.putSink id s') (t := t) (l := l) hl b
  change ((o.putSink id s').next b).carried + t.load = handed b + o.carried at hcarried
  change o.gathered + o.carried + o.plant.load
    = (o.putSink id s').gathered + ((o.putSink id s').next b).carried + o.plant.load + 0
  omega

/-- A pipeline is launched for key values not seen before, and takes the next number. -/
theorem Sound.grow (h : o.Sound) {fields : KeyFields} {template : TagTemplate}
    {map map' : KeyMap PipelineEntry} (hr : o.router = .keyed fields template map)
    (hm : LocalCache.Grown map map') (tag : String) (keySet : List String) :
    let plant := if map'.created = map.created then o.plant else launch tag keySet o.plant
    Sound { o with plant, router := .keyed fields template map' }
      ∧ o.Passes { o with plant, router := .keyed fields template map' } := by
  obtain ⟨hcreated, hlive⟩ := h.owned _ _ _ hr
  rcases hm with rfl | ⟨hd, hn, hl, hd'⟩
  · simp only [↓reduceIte]
    rw [← hr]
    exact ⟨h, 0, .refl _, rfl⟩
  · have hne : map'.created ≠ map.created := by omega
    simp only [if_neg hne]
    obtain ⟨h1, h2⟩ := h.plant.launch o.plant.pipelines.length tag keySet
      o.plant.ground.blueprint.settings.queueCapacity
    refine ⟨⟨⟨h1.checked, h1.processing, h1.pipelines⟩, h.ids, h.sinks, ?_, fun hs => ?_⟩,
      0, o.books.leave_count ⟨rfl, rfl⟩, congrArg (o.gathered + o.carried + ·) h2.symm⟩
    · rintro _ _ _ ⟨⟩
      refine ⟨?_, fun j p hp hs => ?_⟩
      · rw [hn, hcreated]
        simp [launch, Plant.launch, Plant.onBooks]
      · simp only [launch, Plant.launch, Plant.onBooks, List.getElem?_append] at hp
        rw [hl, List.mem_append]
        split at hp
        · exact .inl (hlive j p hp hs)
        · obtain ⟨hj, -⟩ := List.getElem?_eq_some_iff.1 hp
          simp only [List.length_cons, List.length_nil] at hj
          exact .inr (List.mem_singleton.2 (by omega))
    · simp [(h.halted hs).2 _ _ _ hr] at hd

theorem Sound.route (h : o.Sound) {r : Record} {l : List Errand}
    (hl : o.errands = .route id r :: l) : (o.route id r).Sound ∧ o.Passes (o.route id r) := by
  have hlose := h.lose (b := [r]) (n := false) hl rfl
  unfold Orchestrator.route
  split
  · rename_i out hs
    have happend := Outlet.load_append o.now out r
    exact h.put hl hs (.single (some (out.append o.now r).2)) trivial happend
  · rename_i cache fields template map hs hr
    dsimp only
    split
    · exact ⟨hlose.1, hlose.2.1⟩
    · rename_i out cache' map' hget
      obtain ⟨hneat, hfind, hgrown, hcache⟩ := LocalCache.getOrCreate_ok (h.neat hs) hget
      obtain ⟨h1, h2⟩ := h.grow hr hgrown out.buffer.key (KeySet.split (fields.key r))
      obtain ⟨hn, hput⟩ := LocalCache.put_neat hneat hfind Outlet.load (out.append o.now r).2
      have happend := Outlet.load_append o.now out r
      have hentries : total (fun e => Outlet.load e.2) cache'.entries
          = total (fun e => Outlet.load e.2) cache.entries := by
        rcases hcache with rfl | ⟨v, rfl, he⟩
        · rfl
        · rw [he, total_append]
          rfl
      -- the pipeline is launched first, and the buffer then filled
      obtain ⟨h3, h4⟩ := h1.put hl hs (.keyed (cache'.put (fields.key r)
        (out.append o.now r).2)) (b := (out.append o.now r).1) hn (by
          simp only [Sink.load_keyed, Errand.load]
          omega)
      exact ⟨h3, h2.trans h4⟩
  · exact ⟨hlose.1, hlose.2.1⟩

/-- An errand that carries nothing is done. -/
theorem passes_next {t : Errand} {l : List Errand} (hl : o.errands = t :: l) (ht : t.load = 0)
    (stopped : Option Bool) : o.Passes ({ o with stopped }.next none) := by
  refine ⟨0, .refl _, ?_⟩
  have hcarried := carried_next hl none
  rw [ht] at hcarried
  simp only [handed] at hcarried
  change o.gathered + o.carried + o.plant.load
    = o.gathered + (o.next none).carried + o.plant.load
  omega

/-- A buffer that is due hands on its batch. The sink may have been closed. -/
theorem Sound.act_tick (h : o.Sound) {i : Nat} {now : Instant} {l : List Errand}
    (hl : o.errands = .tick id i now :: l) : o.callAct.Sound ∧ o.Passes o.callAct := by
  unfold Orchestrator.callAct
  simp only [hl]
  rcases hs : o.sink? id with _ | s
  · exact ⟨h.next none, passes_next hl rfl o.stopped⟩
  · obtain ⟨hn, hload⟩ := Sink.load_tick (h.neat hs) now i
    exact h.put hl hs _ hn hload

/-- A batch enters the input of its pipeline, or is lost. -/
theorem Sound.act_send (h : o.Sound) {i : Nat} {b : Batch} {l : List Errand}
    (hl : o.errands = .send i b :: l) : o.callAct.Sound ∧ o.Passes o.callAct := by
  rcases hsend : o.plant.send o.deadline i b with plant | reason | _
  · have hact : o.callAct = ({ o with plant } : Orchestrator).next none := by
      simp only [Orchestrator.callAct, hl, hsend]
    rw [hact]
    obtain ⟨h1, h2, h3, h4⟩ := h.plant.send hsend
    refine ⟨⟨h1, h.ids, h.sinks, fun fields template map hr => h.owned_follows h2 hr,
      fun hs => ⟨h2.isStopped (h.halted hs).1, (h.halted hs).2⟩⟩, 0, ?_, ?_⟩
    · simp only [books, Orchestrator.next, h3]
      exact .refl _
    · have := carried_next hl none
      simp only [handed, Errand.load] at this
      change o.gathered + o.carried + o.plant.load
        = o.gathered + (o.next none).carried + plant.load
      omega
  · obtain ⟨-, -, h1, h2⟩ := h.lose (b := b) (n := reason = .timeout) hl rfl
    simp only [Orchestrator.callAct, hl, hsend]
    exact ⟨h1, h2⟩
  · simp only [Orchestrator.callAct, hl, hsend]
    exact ⟨h, 0, .refl _, rfl⟩

/-- Once every owner token is back, all pipelines have stopped, and no more are launched. -/
theorem Sound.stopped_of_isQuiet (h : o.Sound) (hq : o.isQuiet = true) :
    (∀ p ∈ o.plant.pipelines, p.isStopped = true)
      ∧ ∀ fields template map, o.router = .keyed fields template map → map.destroyed = true := by
  unfold isQuiet at hq
  split at hq
  · rename_i isOpen hr
    refine ⟨fun p hp => ?_, fun fields template map hk => by simp [hr] at hk⟩
    simp only [Plant.running, List.isEmpty_iff, List.map_eq_nil_iff, List.filter_eq_nil_iff] at hq
    simpa using hq p hp
  · rename_i fields template map hr
    obtain ⟨hd, hempty⟩ : map.destroyed = true ∧ map.live = [] := by
      simpa [KeyMap.isQuiet] using hq
    refine ⟨fun p hp => ?_, fun fields template map' hk => ?_⟩
    · obtain ⟨j, hj⟩ := List.getElem?_of_mem hp
      by_contra hns
      have := (h.owned _ _ _ hr).2 j p hj (by simpa using hns)
      simp [hempty] at this
    · obtain ⟨-, -, rfl⟩ := by simpa [hr] using hk
      exact hd

/-- The shutdown returns once all is quiet, or when it has waited long enough. -/
theorem Sound.act_awaitStop (h : o.Sound) {limit : Instant} {l : List Errand}
    (hl : o.errands = .awaitStop limit :: l) : o.callAct.Sound ∧ o.Passes o.callAct := by
  have hact : o.callAct =
      if o.isQuiet then ({ o with stopped := some true } : Orchestrator).next none
      else if limit ≤ o.now then ({ o with stopped := some false } : Orchestrator).next none
      else o := by
    simp only [Orchestrator.callAct, hl]
  rw [hact]
  split
  · exact ⟨⟨h.plant, h.ids, h.sinks, h.owned, fun _ => h.stopped_of_isQuiet ‹_›⟩,
      passes_next hl rfl _⟩
  · split
    · exact ⟨⟨h.plant, h.ids, h.sinks, h.owned, by simp [Orchestrator.next]⟩, passes_next hl rfl _⟩
    · exact ⟨h, 0, .refl _, rfl⟩

theorem Sound.callAct (h : o.Sound) : o.callAct.Sound ∧ o.Passes o.callAct := by
  rcases hl : o.errands with _ | ⟨t, l⟩
  · simp only [Orchestrator.callAct, hl]
    exact ⟨h, 0, .refl _, rfl⟩
  · cases t with
    | route id r =>
      simp only [Orchestrator.callAct, hl]
      exact h.route hl
    | tick id i now => exact h.act_tick hl
    | send i b => exact h.act_send hl
    | awaitStop limit => exact h.act_awaitStop hl

/-! ## Parties -/

/-- A party of a pipeline makes a step. The router keeps the tokens of those that still run. -/
theorem Sound.ofStep (h : o.Sound) {plant : Plant} {router : Router} (hs : o.plant.Step plant)
    (hr : router = o.router ∨ ∃ fields template map i, o.router = .keyed fields template map
      ∧ router = .keyed fields template (map.release i)
      ∧ ∀ p, plant.pipelines[i]? = some p → p.isStopped = true) :
    Sound { o with plant, router } ∧ o.Passes { o with plant, router } := by
  have hf := Plant.follows_step hs
  obtain ⟨n, hleave, hload⟩ := h.plant.load_step hs
  refine ⟨⟨h.plant.step hs, h.ids, h.sinks, ?_, fun hst => ?_⟩, n, hleave, ?_⟩
  · intro fields template map hk
    rcases hr with rfl | ⟨fields', template', map', i, hold, rfl, hstop⟩
    · exact h.owned_follows hf hk
    · obtain ⟨-, -, rfl⟩ := by simpa using hk
      obtain ⟨hcreated, hlive⟩ := h.owned_follows hf hold
      refine ⟨hcreated, fun j p hp hns => (List.mem_erase_of_ne ?_).2 (hlive j p hp hns)⟩
      rintro rfl
      simp [hstop p hp] at hns
  · obtain ⟨hall, hd⟩ := h.halted hst
    refine ⟨hf.isStopped hall, fun fields template map hk => ?_⟩
    rcases hr with rfl | ⟨fields', template', map', i, hold, rfl, -⟩
    · exact hd _ _ _ hk
    · obtain ⟨-, -, rfl⟩ := by simpa using hk
      exact hd _ _ map' hold
  · change o.gathered + o.carried + o.plant.load = o.gathered + o.carried + plant.load + n
    omega

theorem Sound.act (h : o.Sound) (a : Actor) : (o.act a).Sound ∧ o.Passes (o.act a) := by
  refine h.ofStep (h.plant.step_act a) ?_
  split
  · rename_i fields template map hr
    split
    · rename_i hstop
      refine .inr ⟨fields, template, map, a.pipeline, hr, rfl, fun p hp => ?_⟩
      simpa [hp] using hstop
    · exact .inl hr.symm
  · exact .inl rfl

/-! ## Moves -/

/-- What may happen to an orchestrator: its user calls it once the call before has returned, the
call or a party goes on, time passes, and something happens to the destination. -/
inductive Move (o : Orchestrator) : Orchestrator → Prop where
  | addSink (id : Nat) : Move o (o.addSink id)
  | dropSink (id : Nat) : Move o (o.dropSink id)
  | accept (id : Nat) (l : Batch) (hc : o.errands = []) : Move o (o.accept id l)
  | tick (id : Nat) (hc : o.errands = []) : Move o (o.tick id)
  | close (id : Nat) (hc : o.errands = []) : Move o (o.close id)
  | shutDown (hc : o.errands = []) : Move o o.shutDown
  | goOn : Move o o.callAct
  | act (a : Actor) : Move o (o.act a)
  | tickEarly (a : Actor) : Move o { o with plant := o.plant.tickEarly a }
  | setNow (t : Instant) : Move o { o with plant := o.plant.setNow t }
  | receive (d : Destination) : Move o { o with plant.ground.destination := d }

theorem Sound.move (h : o.Sound) (hb : o.Balanced) (hm : o.Move o') : o'.Sound ∧ o'.Balanced := by
  have hpass : ∀ {o'}, o'.Sound ∧ o.Passes o' → o'.Sound ∧ o'.Balanced := fun hp =>
    ⟨hp.1, hb.of_passes hp.2⟩
  cases hm with
  | addSink id => exact hpass (h.addSink id)
  | dropSink id => exact hpass ⟨(h.dropSink id).1, (h.dropSink id).2.1⟩
  | accept id l hc => exact h.accept hb hc id l
  | tick id hc => exact hpass (h.tick hc id)
  | close id hc => exact hpass (h.close hc id)
  | shutDown hc => exact hpass (h.shutDown hc)
  | goOn => exact hpass h.callAct
  | act a => exact hpass (h.act a)
  | tickEarly a => exact hpass (h.ofStep (Plant.step_tickEarly a) (.inl rfl))
  | setNow t =>
    exact hpass ⟨⟨⟨h.plant.checked, h.plant.processing, h.plant.pipelines⟩, h.ids, h.sinks, h.owned,
      h.halted⟩, 0, .refl _, rfl⟩
  | receive d =>
    exact hpass ⟨⟨⟨h.plant.checked, h.plant.processing, h.plant.pipelines⟩, h.ids, h.sinks, h.owned,
      h.halted⟩, 0, .refl _, rfl⟩

/-- However calls and parties are scheduled, they only make moves. -/
theorem reaches_of_machine (h : machine.Reaches o o') : Relation.ReflTransGen Move o o' := by
  induction h with
  | refl => exact .refl
  | tail _ hm ih =>
    cases hm with
    | act k => exact ih.tail (.act k)
    | call => exact ih.tail .goOn
    | setNow t => exact ih.tail (.setNow t)

end Orchestrator

/-! ## Runs -/

/-- Nothing was launched yet, nothing counted and nothing given back. -/
structure Plant.IsNew (x : Plant) : Prop where
  pipelines : x.pipelines = []
  processing : x.ground.blueprint.collects = false
  counters : x.ground.books.counters = {}
  pool : x.ground.books.pool.returns + x.ground.books.pool.drops = 0

namespace Orchestrator

variable {o o' : Orchestrator}

theorem build_cases {schema : Schema} {x : Plant} (hb : build schema x = .ok o) :
    x.ground.blueprint.settings.check = .ok ()
      ∧ (o = { plant := launch singleTag [] x, router := .single true }
        ∨ ∃ fields template, o = { plant := x, router := .keyed fields template {} }) := by
  unfold build at hb
  split at hb
  · rename_i names template hr
    simp only [buildKeyed, hr, bind, Except.bind] at hb
    split at hb
    · simp at hb
    · rename_i hcheck
      split at hb
      · simp at hb
      · split at hb
        · split at hb
          · simp at hb
          · obtain rfl := Except.ok.inj hb
            exact ⟨hcheck, .inr ⟨_, _, rfl⟩⟩
        · obtain rfl := Except.ok.inj hb
          exact ⟨hcheck, .inr ⟨_, _, rfl⟩⟩
  · simp only [bind, Except.bind] at hb
    split at hb
    · simp at hb
    · obtain rfl := Except.ok.inj hb
      exact ⟨‹_›, .inl rfl⟩

theorem sound_build {schema : Schema} {x : Plant} (hx : x.IsNew) (hb : build schema x = .ok o) :
    o.Sound ∧ o.Balanced := by
  obtain ⟨hcheck, ho⟩ := build_cases hb
  have hplant : x.Sound := ⟨hcheck, hx.processing, by simp [hx.pipelines]⟩
  have hload : x.load = 0 := by simp [Plant.load, hx.pipelines]
  rcases ho with rfl | ⟨fields, template, rfl⟩
  · obtain ⟨h1, h2⟩ := hplant.launch x.pipelines.length singleTag []
      x.ground.blueprint.settings.queueCapacity
    refine ⟨⟨⟨h1.checked, h1.processing, h1.pipelines⟩, List.nodup_nil, by simp, by simp, by simp⟩,
      ?_, ?_⟩
    · change x.ground.books.counters.recordsIn = x.ground.books.counters.recordsAccounted
        + (0 + 0 + (x.launch _ _ _ _).load)
      rw [h2, hload, hx.counters]
      rfl
    · exact hx.pool.trans (by simp [books, launch, Plant.launch, Plant.onBooks, Books.count,
        Counters.launched, Counters.recordsAccounted, hx.counters])
  · refine ⟨⟨hplant, List.nodup_nil, by simp, ?_, by simp⟩, ?_, ?_⟩
    · rintro _ _ _ ⟨⟩
      simp [hx.pipelines]
    · change x.ground.books.counters.recordsIn
        = x.ground.books.counters.recordsAccounted + (0 + 0 + x.load)
      rw [hload, hx.counters]
      rfl
    · exact hx.pool.trans (by simp [books, hx.counters, Counters.recordsAccounted])

/-- Whatever happens, what came in was filtered, lost or written, or is still in a sink, a call or a
pipeline, and what has left was given back once. Nothing is left anywhere once every pipeline has
stopped and no sink holds anything. -/
theorem recordsIn_of_reaches {schema : Schema} {x : Plant} {o₀ : Orchestrator} (hx : x.IsNew)
    (hb : build schema x = .ok o₀) (hr : Relation.ReflTransGen Move o₀ o) :
    let c := o.books.counters
    c.recordsIn = c.recordsFiltered + c.recordsLost + c.recordsSerialized
        + (o.gathered + o.carried + o.plant.load)
      ∧ o.books.pool.returns + o.books.pool.drops
        = c.recordsFiltered + c.recordsLost + c.recordsSerialized
      ∧ (o.stopped = some true → o.errands = [] → (∀ e ∈ o.sinks, e.2.pending = []) →
        c.recordsIn = c.recordsAccounted) := by
  have h : o.Sound ∧ o.Balanced := by
    induction hr with
    | refl => exact sound_build hx hb
    | tail _ hm ih => exact ih.1.move ih.2 hm
  obtain ⟨hs, hin, hback⟩ := h
  refine ⟨hin, hback, fun hstop hcall hsinks => ?_⟩
  have h1 : o.gathered = 0 := total_eq_zero fun e he => by simp [hsinks e he]
  have h2 : o.carried = 0 := by simp [carried, hcall]
  have h3 := hs.plant.load_stopped (hs.halted hstop).1
  simp only [load, h1, h2, h3] at hin
  exact hin

/-- A pipeline without an output loses the record that is sent to it, and is shut down. -/
theorem recordsIn_of_drained :
    ∃ x o₀ o, Plant.IsNew x ∧ build ⟨[]⟩ x = .ok o₀ ∧ Relation.ReflTransGen Move o₀ o
      ∧ (o.stopped = some true ∧ o.errands = [] ∧ ∀ e ∈ o.sinks, e.2.pending = [])
      ∧ o.books.counters.recordsIn = 1
      ∧ o.books.counters.recordsIn = o.books.counters.recordsAccounted := by
  let x : Plant :=
    ⟨{ blueprint := { settings := { buffer := { maxRecords := 1 } } }
       destination := ⟨{ capacity := 1 }, []⟩ }, []⟩
  have hx : x.IsNew := ⟨rfl, rfl, rfl, rfl⟩
  have hb : build ⟨[]⟩ x = .ok { plant := launch singleTag [] x, router := .single true } := rfl
  -- the record is sent on at once, and lost by the supervisor
  have h₁ : Relation.ReflTransGen Move
      { plant := launch singleTag [] x, router := .single true } _ :=
    .tail (.tail (.tail (.tail .refl (.addSink 1)) (.accept 1 [{}] rfl)) .goOn) .goOn
  have h₂ := h₁.tail (.act ⟨0, .supervisor⟩) |>.tail (.act ⟨0, .supervisor⟩)
  have h₃ := h₂.tail (.dropSink 1) |>.tail (.shutDown (by decide))
    |>.tail (.act ⟨0, .supervisor⟩) |>.tail .goOn
  have hend := recordsIn_of_reaches hx hb h₃
  refine ⟨x, _, _, hx, hb, h₃, ⟨by decide, by decide, by decide⟩, by decide, ?_⟩
  exact hend.2.2 (by decide) (by decide) (by decide)

end Orchestrator

end LogPipeline
