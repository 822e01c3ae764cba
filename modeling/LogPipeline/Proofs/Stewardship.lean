import LogPipeline.Proofs.Custody

/-!
# Nothing is lost on the way through an orchestrator

Whoever goes on, records pass from the call to the sinks and on to the pipelines
(`Orchestrator.Kept.callAct`), and lines from there to the destination (`Orchestrator.Kept.act`).
When nobody can go on the call has returned (`Orchestrator.Kept.returned`), so that no deadline is
ever waited for.
-/

namespace LogPipeline

/-- How many errands come of one, with itself. A record or a tick may lead to a batch. -/
def Errand.chores : Errand → Nat
  | route _ _ => 2
  | tick _ _ _ => 2
  | send _ _ => 1
  | awaitStop _ => 1

theorem Plant.decides_of_send {x : Plant} {deadline : Instant} {i : Nat} {b : Batch}
    (hs : x.send deadline i b = .blocked) : x.decides deadline i = false := by
  unfold Plant.send at hs
  unfold Plant.decides
  split at hs
  · simp at hs
  · rename_i p hp
    split at hs
    · simp at hs
    · split at hs
      · simp at hs
      · simp at hs
      · rename_i hopen _ hblocked
        have hd := Queue.trySend_eq_blocked_iff.1 hblocked
        have hopen : p.input.isOpen = true := by simpa using hopen
        simp [hp, hd, hopen]

namespace Orchestrator

variable {g : Stages} {o o' : Orchestrator} {id : Nat} {s s' : Sink}

/-! ## Errands -/

theorem Steady.kept_next (h : o.Steady g) (ho : o.router.isOpen = true)
    (hf : ∀ t ∈ o.errands, o.Fair t) (hd : o.now < o.deadline) {b : Option (Nat × Batch)}
    (hb : ∀ e, b = some e → e.1 < o.plant.pipelines.length) : (o.next b).Kept g := by
  have hmono : ∀ t, o.Fair t → (o.next b).Fair t := fun t ht =>
    ht.mono (fun id s hs htakes => ⟨s, hs, htakes⟩) (Nat.le_refl _)
  refine ⟨h.next b, fun _ => ⟨fun t ht => hmono t ?_, fun _ => hd⟩, fun hc => ?_⟩
  · rcases List.mem_append.1 ht with ht | ht
    · obtain ⟨e, he, rfl⟩ := List.mem_map.1 ht
      exact hb e (Option.mem_toList.1 he)
    · exact hf t (List.mem_of_mem_drop ht)
  · simp [show o.router.isOpen = false from hc] at ho

/-- The first errand changes one sink, and a batch may be handed on. -/
theorem Kept.put (h : o.Kept g) (ho : o.router.isOpen = true) {t : Errand} {l : List Errand}
    (hl : o.errands = t :: l) (hs : o.sink? id = some s) (hn : s'.Neat)
    (hserves : o.router.Serves s') (hbelow : s'.Below o.plant.pipelines.length)
    (htakes : s.Takes → s'.Takes) {b : Option (Nat × Batch)}
    (hb : ∀ e, b = some e → e.1 < o.plant.pipelines.length)
    (htotal : ∀ φ, total φ (handedOn b) + total φ s'.pending = total φ s.pending + t.weigh φ) :
    ((o.putSink id s').next b).Kept g
      ∧ ∀ ψ, ((o.putSink id s').next b).outstanding g ψ = o.outstanding g ψ := by
  obtain ⟨hfair, hd⟩ := h.working ho
  have hd := hd (by simp [hl])
  have hput := h.steady.putSink hs hn hserves hbelow
  refine ⟨hput.kept_next ho (fun u hu => (hfair u hu).mono (fun k s₁ hk htk => ?_) (Nat.le_refl _))
    hd hb, fun ψ => ?_⟩
  · rw [sink?_putSink hs]
    split
    · rename_i hkid
      subst hkid
      obtain rfl := Option.some.inj (hs.symm.trans hk)
      exact ⟨s', rfl, htakes htk⟩
    · exact ⟨s₁, hk, htk⟩
  · have hweigh := weigh_next (o := o.putSink id s') (φ := g.measure ψ) (t := t) (l := l) hl b
    have hgathered := h.steady.sound.total_putSink hs s' (fun s => total (g.measure ψ) s.pending)
    have htotal := htotal (g.measure ψ)
    have hweigh' : (o.putSink id s').weigh (g.measure ψ)
        = total (fun e => total (g.measure ψ) e.2.pending) (o.putSink id s').sinks
          + total (Errand.weigh (g.measure ψ)) o.errands := rfl
    have hplant : ((o.putSink id s').next b).plant = o.plant := rfl
    simp only [outstanding, hplant]
    unfold weigh at hweigh hweigh' ⊢
    omega

theorem Kept.tickSink (h : o.Kept g) (ho : o.router.isOpen = true) {i : Nat} {now : Instant}
    {l : List Errand} (hl : o.errands = .tick id i now :: l) (hs : o.sink? id = some s) :
    ((o.putSink id (s.tick now i).2).next (s.tick now i).1).Kept g
      ∧ ∀ ψ, ((o.putSink id (s.tick now i).2).next (s.tick now i).1).outstanding g ψ
        = o.outstanding g ψ := by
  obtain ⟨hserves, hbelow⟩ := h.steady.sink hs
  obtain ⟨h1, h2⟩ := hbelow.tick now i
  exact h.put ho hl hs (Sink.load_tick (h.steady.sound.neat hs) now i).1 (hserves.tick now i) h1
    Sink.Takes.tick h2 fun φ => Sink.total_tick φ now i s

/-- The map finds the pipeline of a key, or one is launched and takes the next number. -/
theorem Kept.grow (h : o.Kept g) (ho : o.router.isOpen = true) {fields : KeyFields}
    {template : TagTemplate} {map map' : KeyMap PipelineEntry}
    (hr : o.router = .keyed fields template map) {key : String} {v : PipelineEntry}
    (hm : map.getOrCreate (fun parts token => ⟨token, template.render parts⟩) key = .ok (v, map'))
    (tag : String) (keySet : List String) :
    let plant := if map'.created = map.created then o.plant else launch tag keySet o.plant
    Kept g { o with plant, router := .keyed fields template map' }
      ∧ o.plant.pipelines.length ≤ plant.pipelines.length ∧ v.id < plant.pipelines.length
      ∧ ∀ ψ, outstanding g ψ { o with plant, router := .keyed fields template map' }
        = o.outstanding g ψ := by
  have hfits : map.Fits o.plant.pipelines := by
    have := h.steady.router
    rwa [hr] at this
  have hcreated := (h.steady.sound.owned _ _ _ hr).1
  obtain ⟨hd, ⟨hfind, rfl⟩ | ⟨-, rfl, hmap⟩⟩ := KeyMap.getOrCreate_cases hm
  · obtain ⟨e, he, rfl⟩ := Option.map_eq_some_iff.1 hfind
    simp only [↓reduceIte, ← hr]
    exact ⟨h, Nat.le_refl _, hfits.bounded e (List.mem_of_find?_eq_some he), fun ψ => trivial⟩
  · have hgrown : LocalCache.Grown map map' :=
      .inr ⟨hd, by rw [hmap], by rw [hmap], by rw [hmap, hd]⟩
    have hfits' : map'.Fits (launch tag keySet o.plant).pipelines := by
      rw [hmap]
      exact hfits.launch hd hcreated rfl key rfl
    have hd' : map'.destroyed = false := by rw [hmap, hd]
    have hne : map'.created ≠ map.created := by
      rw [hmap]
      exact Nat.succ_ne_self _
    have hsound := (h.steady.sound.grow hr hgrown tag keySet).1
    simp only [if_neg hne] at hsound ⊢
    have hlen : (launch tag keySet o.plant).pipelines.length = o.plant.pipelines.length + 1 := by
      simp [launch, Plant.launch, Plant.onBooks]
    have hle : o.plant.pipelines.length ≤ (launch tag keySet o.plant).pipelines.length :=
      hlen ▸ Nat.le_succ _
    have hkept := fun ψ => h.steady.plant.launch (ψ := ψ) h.steady.plant.lt_queueCapacity
      o.plant.pipelines.length tag keySet
    have hin := h.steady.inputs
    rw [ho] at hin
    have hopen : (Router.keyed fields template map').isOpen = true := by simp [Router.isOpen, hd']
    have hserves : ∀ s, o.router.Serves s → (Router.keyed fields template map').Serves s :=
      fun s hs => Router.Serves.keyed (hr ▸ hs) map'
    have hsteady := h.steady.of_plant hsound ((hkept fun _ => 0).1.onBooks _)
      ⟨h.steady.clean.records, h.steady.clean.chunks, h.steady.clean.timeouts⟩ hle hfits' hserves
      (hopen ▸ Plant.Inputs.launch hin _ _ _ _)
    refine ⟨h.of_plant hsteady rfl hle (hopen.trans ho.symm), hle, ?_, fun ψ => ?_⟩
    · show map.created < _
      omega
    · exact congrArg (o.weigh (g.measure ψ) + ·) (hkept ψ).2

theorem Kept.routeSingle (h : o.Kept g) (ho : o.router.isOpen = true) {r : Record}
    {l : List Errand} (hl : o.errands = .route id r :: l) {out : Outlet}
    (hs : o.sink? id = some (.single (some out))) :
    (o.route id r).Kept g ∧ ∀ ψ, (o.route id r).outstanding g ψ = o.outstanding g ψ := by
  obtain ⟨hserves, hbelow⟩ := h.steady.sink hs
  have hout : out.pipeline < o.plant.pipelines.length := hbelow out (by simp [Sink.outlets])
  simp only [Orchestrator.route, hs]
  have hneat : (Sink.single (some (out.append o.now r).2)).Neat := trivial
  refine h.put ho hl hs hneat ?_ (fun t ht => ?_) (fun _ => trivial)
    (fun e he => (out.pipeline_append o.now r).2 e he ▸ hout) fun φ => ?_
  · cases hr : o.router <;> rw [hr] at hserves <;> exact hserves
  · obtain rfl : t = (out.append o.now r).2 := by simpa [Sink.outlets] using ht
    exact hout
  · simpa [Sink.pending, Sink.outlets, Errand.weigh] using out.total_handed φ o.now r

/-- A key that the cache does not hold is looked up in the map first. The pipeline is there after
that, and its buffer is in the cache. -/
theorem Kept.lookUp (h : o.Kept g) (ho : o.router.isOpen = true) {cache cache' : LocalCache Outlet}
    (hs : o.sink? id = some (.keyed cache)) {fields : KeyFields} {template : TagTemplate}
    {map map' : KeyMap PipelineEntry} (hr : o.router = .keyed fields template map) {key : String}
    {out : Outlet}
    (hget : cache.getOrCreate (fun parts token => PipelineEntry.mk token (template.render parts))
      (fun _ e => o.outlet e) key map = .ok (out, cache', map')) (tag : String)
    (keySet : List String) :
    let plant := if map'.created = map.created then o.plant else launch tag keySet o.plant
    Kept g { o with plant, router := .keyed fields template map' }
      ∧ out.pipeline < plant.pipelines.length ∧ (Sink.keyed cache').Below plant.pipelines.length
      ∧ (∀ ψ, outstanding g ψ { o with plant, router := .keyed fields template map' }
        = o.outstanding g ψ)
      ∧ ∀ φ, total φ (Sink.keyed cache').pending = total φ (Sink.keyed cache).pending := by
  have hbelow := (h.steady.sink hs).2
  rcases LocalCache.getOrCreate_cases hget with ⟨hf, rfl, rfl⟩ | ⟨hf, v, hm, rfl, rfl⟩
  · obtain ⟨e, he, rfl⟩ := Option.map_eq_some_iff.1 hf
    have hout := hbelow _ (List.mem_map_of_mem (List.mem_of_find?_eq_some he))
    simp only [↓reduceIte, ← hr]
    exact ⟨h, hout, hbelow, fun ψ => trivial, fun φ => trivial⟩
  · obtain ⟨hkept, hle, hv, hsame⟩ := h.grow ho hr hm tag keySet
    refine ⟨hkept, hv, fun t ht => ?_, hsame, fun φ => ?_⟩
    · simp only [Sink.outlets, List.map_append, List.map_cons, List.map_nil] at ht
      rcases List.mem_append.1 ht with ht | ht
      · exact Nat.lt_of_lt_of_le (hbelow t ht) hle
      · rw [List.mem_singleton.1 ht]
        exact hv
    · simp [Sink.total_keyed, outlet]

theorem Kept.routeKeyed (h : o.Kept g) (ho : o.router.isOpen = true) {r : Record}
    {l : List Errand} (hl : o.errands = .route id r :: l) {cache : LocalCache Outlet}
    (hs : o.sink? id = some (.keyed cache)) {fields : KeyFields} {template : TagTemplate}
    {map : KeyMap PipelineEntry} (hr : o.router = .keyed fields template map) :
    (o.route id r).Kept g ∧ ∀ ψ, (o.route id r).outstanding g ψ = o.outstanding g ψ := by
  have hd : map.destroyed = false := by simpa [Router.isOpen, hr] using ho
  simp only [Orchestrator.route, hs, hr]
  split
  · rename_i e hget
    simp [LocalCache.destroyed_of_error hget] at hd
  · rename_i out cache' map' hget
    obtain ⟨hneat, hfind, hgrown, -⟩ := LocalCache.getOrCreate_ok (h.steady.sound.neat hs) hget
    obtain ⟨hkept, hout, hbelow, hsame, htotal⟩ := h.lookUp ho hs hr hget out.buffer.key
      (KeySet.split (fields.key r))
    have hput : (Sink.keyed (cache'.put (fields.key r) (out.append o.now r).2)).Neat :=
      (LocalCache.put_neat hneat hfind (fun _ => 0) (out.append o.now r).2).1
    refine (hkept.put ?_ hl hs hput trivial (fun t ht => ?_) (fun _ => trivial)
      (fun e he => (out.pipeline_append o.now r).2 e he ▸ hout) fun φ => ?_).imp_right
      fun hψ ψ => (hψ ψ).trans (hsame ψ)
    · rcases hgrown with rfl | ⟨-, -, -, hd'⟩
      · exact hr ▸ ho
      · simp [Router.isOpen, hd']
    · obtain ⟨e, he, rfl⟩ := List.mem_map.1 ht
      obtain ⟨e', he', rfl⟩ := List.mem_map.1 he
      split
      · exact hout
      · exact hbelow _ (List.mem_map_of_mem he')
    · have hentries := (LocalCache.put_neat hneat hfind (fun t => total φ t.buffer.pending)
        (out.append o.now r).2).2
      have happend := out.total_handed φ o.now r
      have htotal := htotal φ
      simp only [Sink.total_keyed, Errand.weigh] at htotal ⊢
      omega

theorem Kept.route (h : o.Kept g) (ho : o.router.isOpen = true) {r : Record} {l : List Errand}
    (hl : o.errands = .route id r :: l) :
    (o.route id r).Kept g ∧ ∀ ψ, (o.route id r).outstanding g ψ = o.outstanding g ψ := by
  obtain ⟨s, hs, htakes⟩ := (h.working ho).1 (.route id r) (by simp [hl])
  rcases s with (_ | out) | cache
  · exact htakes.elim
  · exact h.routeSingle ho hl hs
  · have hserves := (h.steady.sink hs).1
    rcases hr : o.router with isOpen | ⟨fields, template, map⟩
    · rw [hr] at hserves
      exact hserves.elim
    · exact h.routeKeyed ho hl hs hr

theorem fits_onInput {r : Router} {x : Plant} (h : r.Fits x.pipelines) (i : Nat)
    (f : Queue Batch → Queue Batch) : r.Fits (x.onInput i f).pipelines := by
  refine h.of_running (List.length_modify ..) fun j p hp hs => ?_
  simp only [Plant.onInput, List.getElem?_modify, hp, Option.map_eq_map, Option.map_some]
  refine ⟨_, rfl, ?_⟩
  split <;> exact hs

theorem Kept.sendBatch (h : o.Kept g) (ho : o.router.isOpen = true) {i : Nat} {b : Batch}
    {l : List Errand} (hl : o.errands = .send i b :: l) :
    o.callAct.Kept g ∧ ∀ ψ, o.callAct.outstanding g ψ = o.outstanding g ψ := by
  obtain ⟨hfair, hd⟩ := h.working ho
  have hi : i < o.plant.pipelines.length := hfair (.send i b) (by simp [hl])
  have hd := hd (by simp [hl])
  have hin := h.steady.inputs
  rw [ho] at hin
  rcases h.steady.plant.send hin hi hd b with hsend | ⟨q, hsend, hx, hin', hplant⟩
  · simp only [Orchestrator.callAct, hl, hsend]
    exact ⟨h, fun ψ => trivial⟩
  · have hact : o.callAct
        = ({ o with plant := o.plant.onInput i fun _ => q } : Orchestrator).next none := by
      simp only [Orchestrator.callAct, hl, hsend]
    have hsound := h.steady.sound.callAct.1
    rw [hact] at hsound ⊢
    have hlen : (o.plant.onInput i fun _ => q).pipelines.length = o.plant.pipelines.length :=
      List.length_modify ..
    have hsteady := h.steady.of_plant
      ⟨hsound.plant, hsound.ids, hsound.sinks, hsound.owned, hsound.halted⟩ hx
      ⟨h.steady.clean.records, h.steady.clean.chunks, h.steady.clean.timeouts⟩
      (Nat.le_of_eq hlen.symm) (fits_onInput h.steady.router i _) (fun s hs => hs) (ho ▸ hin')
    refine ⟨hsteady.kept_next (b := none) ho (fun t ht => ?_) hd (by simp), fun ψ => ?_⟩
    · exact (hfair t ht).mono (fun k s hs htakes => ⟨s, hs, htakes⟩) (Nat.le_of_eq hlen.symm)
    · have hweigh := weigh_next (φ := g.measure ψ) hl none
      have hplant := hplant ψ
      rw [← g.total_measure] at hplant
      simp only [handedOn, total_nil, Errand.weigh] at hweigh
      change (o.next none).weigh (g.measure ψ) + (o.plant.onInput i fun _ => q).weigh g ψ
        = o.weigh (g.measure ψ) + o.plant.weigh g ψ
      omega

/-- The end of the pipelines is noted once all have stopped, which is in time. -/
theorem Kept.await (h : o.Kept g) {limit : Instant} {l : List Errand}
    (hl : o.errands = .awaitStop limit :: l) :
    o.callAct.Kept g ∧ ∀ ψ, o.callAct.outstanding g ψ = o.outstanding g ψ := by
  have hshut : o.router.isOpen = false :=
    Bool.eq_false_iff.2 fun ho => (h.working ho).1 (.awaitStop limit) (by simp [hl])
  obtain ⟨hempty, ⟨hnil, -⟩ | ⟨limit', hone, hlate⟩⟩ := h.closing hshut
  · simp [hl] at hnil
  · obtain ⟨hlimit, rfl⟩ := List.cons.inj (hl.symm.trans hone)
    obtain rfl := Errand.awaitStop.inj hlimit
    by_cases hquiet : o.isQuiet = true
    · have hact : o.callAct = ({ o with stopped := some true } : Orchestrator).next none := by
        simp only [Orchestrator.callAct, hl, hquiet, ↓reduceIte]
      have hsound := h.steady.sound.callAct.1
      rw [hact] at hsound ⊢
      have hnone : (({ o with stopped := some true } : Orchestrator).next none).errands = [] := by
        simp [Orchestrator.next, hl]
      refine ⟨⟨⟨hsound, h.steady.plant, h.steady.clean, h.steady.router, h.steady.sinks,
        h.steady.inputs⟩, fun ho => ?_, fun _ => ⟨hempty, .inl ⟨hnone, rfl⟩⟩⟩, fun ψ => ?_⟩
      · simp [show o.router.isOpen = true from ho] at hshut
      · have hweigh := weigh_next (φ := g.measure ψ) hl none
        simp only [handedOn, total_nil, Errand.weigh] at hweigh
        change (o.next none).weigh (g.measure ψ) + o.plant.weigh g ψ
          = o.weigh (g.measure ψ) + o.plant.weigh g ψ
        omega
    · have hact : o.callAct = o := by
        simp only [Orchestrator.callAct, hl, hquiet, if_neg (Nat.not_le_of_lt hlate),
          Bool.false_eq_true, ↓reduceIte]
      rw [hact]
      exact ⟨h, fun ψ => rfl⟩

/-- The call under way loses nothing. -/
theorem Kept.callAct (h : o.Kept g) :
    o.callAct.Kept g ∧ ∀ ψ, o.callAct.outstanding g ψ = o.outstanding g ψ := by
  have hrest : o.Kept g ∧ ∀ ψ, o.outstanding g ψ = o.outstanding g ψ := ⟨h, fun ψ => rfl⟩
  have hopen : ∀ {t l}, o.errands = t :: l → (∀ limit, t ≠ .awaitStop limit) →
      o.router.isOpen = true := by
    intro t l hl ht
    by_contra hshut
    obtain ⟨-, ⟨hnil, -⟩ | ⟨limit, hone, -⟩⟩ := h.closing (by simpa using hshut)
    · simp [hl] at hnil
    · exact ht limit (List.cons.inj (hl.symm.trans hone)).1
  rcases hl : o.errands with _ | ⟨t, l⟩
  · simpa only [Orchestrator.callAct, hl] using hrest
  · cases t with
    | route id r =>
      simp only [Orchestrator.callAct, hl]
      exact h.route (hopen hl (by simp)) hl
    | tick id i now =>
      have ho := hopen hl (by simp)
      rcases hs : o.sink? id with _ | s
      · simp only [Orchestrator.callAct, hl, hs]
        obtain ⟨hfair, hd⟩ := h.working ho
        refine ⟨h.steady.kept_next ho hfair (hd (by simp [hl])) (by simp), fun ψ => ?_⟩
        have hweigh := weigh_next (φ := g.measure ψ) hl none
        exact congrArg (· + o.plant.weigh g ψ) (by simpa [Errand.weigh, handedOn] using hweigh)
      · simp only [Orchestrator.callAct, hl, hs]
        exact h.tickSink ho hl hs
    | send i b => exact h.sendBatch (hopen hl (by simp)) hl
    | awaitStop limit => exact h.await hl

/-! ## Parties -/

theorem fits_act (h : o.router.Fits o.plant.pipelines) (a : Actor) :
    (o.act a).router.Fits (o.plant.act a).pipelines := by
  have hlen : (o.plant.act a).pipelines.length = o.plant.pipelines.length := by
    unfold Plant.act
    split
    · rfl
    · exact List.length_set
  have hother : ∀ j ≠ a.pipeline, (o.plant.act a).pipelines[j]? = o.plant.pipelines[j]? := by
    intro j hj
    unfold Plant.act
    split
    · rfl
    · exact List.getElem?_set_ne (Ne.symm hj)
  rcases hr : o.router with isOpen | ⟨fields, template, map⟩
  · simp only [Orchestrator.act, hr]
    rw [hr] at h
    exact hlen.trans h
  · rw [hr] at h
    obtain ⟨h1, h2, h3, h4⟩ := h
    simp only [Orchestrator.act, hr]
    split
    · -- the token of a pipeline that has stopped is let go of
      refine ⟨fun e he => hlen ▸ h1 e he, fun hd i hi => h2 hd i (hlen ▸ hi), h3.erase _,
        fun j hj => ?_⟩
      obtain ⟨hne, hj⟩ := (h3.mem_erase_iff).1 hj
      rw [hother j hne]
      exact h4 j hj
    · rename_i hstop
      refine ⟨fun e he => hlen ▸ h1 e he, fun hd i hi => h2 hd i (hlen ▸ hi), h3, fun j hj => ?_⟩
      by_cases hja : j = a.pipeline
      · subst hja
        obtain ⟨p, hp, -⟩ := h4 _ hj
        have hlt : a.pipeline < (o.plant.act a).pipelines.length :=
          hlen ▸ (List.getElem?_eq_some_iff.1 hp).1
        have hp' := List.getElem?_eq_getElem hlt
        rw [hp', Option.any_some] at hstop
        exact ⟨_, hp', by simpa using hstop⟩
      · rw [hother j hja]
        exact h4 j hj

/-- Nobody stops by taking a tick. -/
theorem fits_tickEarly {r : Router} {x : Plant} (h : r.Fits x.pipelines) (a : Actor) :
    r.Fits (x.tickEarly a).pipelines := by
  refine h.of_running (Plant.follows_step (x.step_tickEarly a)).1 fun i p hp hs => ?_
  unfold Plant.tickEarly
  split
  · exact ⟨p, hp, hs⟩
  · rename_i q hq
    rw [List.getElem?_set]
    split
    · rename_i hi
      subst hi
      obtain rfl := Option.some.inj (hq.symm.trans hp)
      rw [if_pos (List.getElem?_eq_some_iff.1 hq).1]
      refine ⟨_, rfl, ?_⟩
      unfold Pipeline.isStopped at hs ⊢
      rwa [Pipeline.status_tickEarly]
    · exact ⟨p, hp, hs⟩

theorem router_act (o : Orchestrator) (a : Actor) :
    (o.act a).router.isOpen = o.router.isOpen
      ∧ ∀ s, o.router.Serves s → (o.act a).router.Serves s := by
  rcases hr : o.router with isOpen | ⟨fields, template, map⟩
  · simp only [Orchestrator.act, hr]
    exact ⟨trivial, fun s hs => hs⟩
  · simp only [Orchestrator.act, hr]
    refine ⟨?_, fun s hs => hs.keyed _⟩
    split <;> rfl

/-- Lines that a party delivers are outstanding no more. -/
theorem Kept.act (hg : g.Proper) (h : o.Kept g) (a : Actor)
    (hroom : (o.act a).plant.ground.destination.queue.hasRoom = true) :
    (o.act a).Kept g
      ∧ ∃ ts, (o.act a).plant.ground.destination.queue.items
          = o.plant.ground.destination.queue.items ++ ts
        ∧ ∀ ψ, o.outstanding g ψ
          = total ψ (ts.flatMap (·.chunk.lines)) + (o.act a).outstanding g ψ := by
  obtain ⟨hkept, hspared, ts, hitems, hweigh⟩ := h.steady.plant.act hg a hroom
  have hstep := h.steady.sound.plant.step_act a
  obtain ⟨hopen, hserves⟩ := router_act o a
  have hlen : (o.plant.act a).pipelines.length = o.plant.pipelines.length :=
    (Plant.follows_step hstep).1
  have hnow : (o.plant.act a).ground.now = o.now := by
    generalize o.plant.act a = x at hstep
    cases hstep with
    | pipeline hp hs => exact Pipeline.now_step hs
    | rest => rfl
  have hsteady := h.steady.of_plant (h.steady.sound.act a).1 hkept (hspared.clean h.steady.clean)
    (Nat.le_of_eq hlen.symm) (fits_act h.steady.router a) hserves
    (hopen ▸ Plant.Inputs.step h.steady.inputs hstep)
  refine ⟨h.of_plant hsteady hnow (Nat.le_of_eq hlen.symm) hopen, ts, hitems, fun ψ => ?_⟩
  have hweigh := hweigh ψ
  change o.weigh (g.measure ψ) + o.plant.weigh g ψ = total ψ (ts.flatMap (·.chunk.lines))
    + (o.weigh (g.measure ψ) + (o.plant.act a).weigh g ψ)
  omega

theorem Kept.tickEarly (hg : g.Proper) (h : o.Kept g) (a : Actor) :
    Kept g { o with plant := o.plant.tickEarly a }
      ∧ ∀ ψ, outstanding g ψ { o with plant := o.plant.tickEarly a } = o.outstanding g ψ := by
  obtain ⟨hkept, hground, hweigh⟩ := h.steady.plant.tickEarly hg a
  have hstep := o.plant.step_tickEarly a
  have hlen := (Plant.follows_step hstep).1
  have hfits := fits_tickEarly h.steady.router a
  have hclean := h.steady.clean
  unfold books at hclean
  rw [← hground] at hclean
  have hsteady := h.steady.of_plant (h.steady.sound.ofStep hstep (.inl rfl)).1 hkept hclean
    (Nat.le_of_eq hlen.symm) hfits (fun s hs => hs) (h.steady.inputs.step hstep)
  refine ⟨h.of_plant hsteady (congrArg Ground.now hground) (Nat.le_of_eq hlen.symm) rfl,
    fun ψ => ?_⟩
  exact congrArg (o.weigh (g.measure ψ) + ·) (hweigh ψ)

/-! ## Rest -/

/-- A call has returned when neither a party nor the call itself can go on. -/
theorem Kept.returned (h : o.Kept g) (hable : ∀ a, o.plant.able a = false)
    (hcall : o.callAble = false) : o.errands = [] := by
  rcases hl : o.errands with _ | ⟨t, l⟩
  · rfl
  · exfalso
    simp only [callAble, hl] at hcall
    cases t with
    | route id r => simp at hcall
    | tick id i now => simp at hcall
    | send i b => simp [h.steady.plant.decides hable i] at hcall
    | awaitStop limit =>
      -- every input is closed, so all pipelines have stopped
      have hshut : o.router.isOpen = false :=
        Bool.eq_false_iff.2 fun ho => (h.working ho).1 (.awaitStop limit) (by simp [hl])
      have hin := h.steady.inputs
      rw [hshut] at hin
      have hquiet := isQuiet_of_stopped h.steady.router hshut fun p hp =>
        (h.steady.plant.rests hable hp).2.2 (hin p hp)
      simp [hquiet] at hcall

/-- Time passes when nobody can go on. No call is under way then. -/
theorem Kept.setNow (h : o.Kept g) (hable : ∀ a, o.plant.able a = false)
    (hcall : o.callAble = false) (t : Instant) :
    Kept g { o with plant := o.plant.setNow t }
      ∧ ∀ ψ, outstanding g ψ { o with plant := o.plant.setNow t } = o.outstanding g ψ := by
  have hnil := h.returned hable hcall
  obtain ⟨h1, h2, h3, h4, h5⟩ := h.steady.sound
  refine ⟨⟨⟨⟨⟨h1.checked, h1.processing, h1.pipelines⟩, h2, h3, h4, h5⟩,
    h.steady.plant.setNow hable t, h.steady.clean, h.steady.router, h.steady.sinks,
    h.steady.inputs⟩, fun ho => ?_, fun hc => ?_⟩, fun ψ => rfl⟩
  · exact ⟨by simp [hnil], by simp [hnil]⟩
  · obtain ⟨hempty, ⟨-, hstop⟩ | ⟨limit, hone, -⟩⟩ := h.closing hc
    · exact ⟨hempty, .inl ⟨hnil, hstop⟩⟩
    · simp [hnil] at hone

theorem Kept.take (h : o.Kept g) (n : Option Nat) :
    Kept g { o with plant := (o.plant.take n).2 }
      ∧ ∀ ψ, outstanding g ψ { o with plant := (o.plant.take n).2 } = o.outstanding g ψ := by
  obtain ⟨h1, h2, h3, h4, h5⟩ := h.steady.sound
  have hsteady := h.steady.of_plant (x := (o.plant.take n).2)
    ⟨⟨h1.checked, h1.processing, h1.pipelines⟩, h2, h3, h4, h5⟩ (h.steady.plant.take n)
    h.steady.clean (Nat.le_refl _) h.steady.router (fun s hs => hs) h.steady.inputs
  exact ⟨h.of_plant hsteady rfl (Nat.le_refl _) rfl, fun ψ => rfl⟩

/-- Nothing is outstanding any more after a shutdown. -/
theorem Kept.outstanding_shut (h : o.Kept g) (hc : o.router.isOpen = false) (hl : o.errands = []) :
    o.stopped = some true ∧ ∀ ψ, o.outstanding g ψ = 0 := by
  obtain ⟨hempty, ⟨-, hstop⟩ | ⟨limit, hone, -⟩⟩ := h.closing hc
  · refine ⟨hstop, fun ψ => ?_⟩
    have hsinks : total (fun e => total (g.measure ψ) e.2.pending) o.sinks = 0 :=
      total_eq_zero fun e he => by simp [hempty e he]
    have hplant : o.plant.weigh g ψ = 0 := by
      refine total_eq_zero fun p hp => ?_
      have hs : p.status = .stopped := by
        simpa [Pipeline.isStopped] using (h.steady.sound.halted hstop).1 p hp
      simp [Pipeline.lines, (h.steady.plant.pipelines p hp).sound.stream_stopped hs]
    simp [outstanding, weigh, hsinks, hl, hplant]
  · simp [hl] at hone

/-! ## Getting on -/

/-- How many errands are left to be done by the call. -/
def chores (o : Orchestrator) : Nat := total Errand.chores o.errands

/-- What is left to do before the clock has to move. -/
def effort (o : Orchestrator) : ℕ ×ₗ ℕ ×ₗ ℕ ×ₗ ℕ := toLex (o.chores, o.plant.effort)

theorem chores_next {t : Errand} {l : List Errand} (hl : o.errands = t :: l)
    {b : Option (Nat × Batch)} (hb : b = none ∨ t.chores = 2) (ho : o'.errands = o.errands) :
    (o'.next b).chores < o.chores := by
  have ht : 1 ≤ t.chores := by cases t <;> simp [Errand.chores]
  simp only [chores, Orchestrator.next, ho, hl, List.drop_one, List.tail_cons, total_append,
    total_cons]
  rcases b with _ | ⟨i, b⟩
  · simp only [Option.toList_none, List.map_nil, total_nil]
    omega
  · have hb := hb.resolve_left (by simp)
    simp only [Option.toList_some, List.map_cons, List.map_nil, total_cons, total_nil, hb]
    show 1 + 0 + _ < _
    omega

/-- A call that can go on has less to do after that. -/
theorem chores_callAct (hcall : o.callAble = true) : o.callAct.chores < o.chores := by
  unfold Orchestrator.callAct
  split
  · rename_i hl
    simp [callAble, hl] at hcall
  · rename_i id r l hl
    unfold Orchestrator.route
    split
    · exact chores_next hl (.inr rfl) rfl
    · dsimp only
      split
      · exact chores_next hl (.inl rfl) rfl
      · exact chores_next hl (.inr rfl) rfl
    · exact chores_next hl (.inl rfl) rfl
  · rename_i id i now l hl
    split
    · exact chores_next hl (.inl rfl) rfl
    · exact chores_next hl (.inr rfl) rfl
  · rename_i i b l hl
    split
    · exact chores_next hl (.inl rfl) rfl
    · exact chores_next hl (.inl rfl) rfl
    · rename_i hsend
      simp [callAble, hl, Plant.decides_of_send hsend] at hcall
  · rename_i limit l hl
    simp only [callAble, hl, Bool.or_eq_true, decide_eq_true_eq] at hcall
    split
    · exact chores_next hl (.inl rfl) rfl
    · rename_i hquiet
      rw [if_pos (hcall.resolve_left hquiet)]
      exact chores_next hl (.inl rfl) rfl

theorem effort_callAct (hcall : o.callAble = true) : o.callAct.effort < o.effort :=
  Prod.Lex.toLex_lt_toLex.2 (.inl (chores_callAct hcall))

/-- Whoever is able to act brings the instant closer to its end. -/
theorem Kept.effort_act (h : o.Kept g) {a : Actor} (hkept : (o.act a).Kept g)
    (hable : o.plant.able a = true) : (o.act a).effort < o.effort :=
  Prod.Lex.toLex_lt_toLex.2 (.inr ⟨rfl, h.steady.plant.act_lt hkept.steady.plant hable⟩)

end Orchestrator

end LogPipeline
