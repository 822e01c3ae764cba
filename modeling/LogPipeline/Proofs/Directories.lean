import LogPipeline.Proofs.Custody
import LogPipeline.Proofs.Inlets
import LogPipeline.Proofs.Lanes

/-!
# Directories

The map of an orchestrator by key set is a directory of its pipelines. Each pipeline stands in it
under the key of its key set, with its number and its tag (`Orchestrator.Directed`). So a record
that is routed finds the pipeline of its own key values, and one is launched for values that no
pipeline has (`Orchestrator.Directed.route`).
-/

namespace LogPipeline

/-! ## Key fields -/

/-- The text of a field by its name, empty where a record has no such field. -/
def Schema.valueOf (schema : Schema) (r : Record) (name : String) : String :=
  ((schema.locate name).map r.field).getD ""

/-- The texts of the key fields, in their order. -/
def Schema.tuple (schema : Schema) (names : List String) (r : Record) : List String :=
  names.map (schema.valueOf r)

theorem Schema.tuple_eq_iff {schema : Schema} {names : List String} {r r' : Record} :
    schema.tuple names r = schema.tuple names r'
      ↔ ∀ name ∈ names, schema.valueOf r name = schema.valueOf r' name :=
  List.map_inj_left

namespace KeyFields

variable {schema : Schema} {names : List String} {fields : KeyFields}

theorem locate_positions {taken positions : List Nat}
    (h : locate schema taken names = .ok positions) :
    positions.map some = names.map schema.locate := by
  induction names generalizing taken positions with
  | nil =>
    obtain rfl := Except.ok.inj h
    rfl
  | cons name names ih =>
    unfold locate at h
    split at h
    · simp at h
    · rename_i i hi
      split at h
      · simp at h
      · rcases hrest : locate schema (taken ++ [i]) names with e | is
        · simp [hrest, bind, Except.bind] at h
        · obtain rfl : i :: is = positions := by
            simpa [hrest, bind, Except.bind, pure, Except.pure] using h
          simp [hi, ih hrest]

theorem positions_ofNames (h : ofNames schema names = .ok fields) :
    fields.names = names ∧ fields.positions.map some = names.map schema.locate := by
  unfold ofNames at h
  split at h
  · simp at h
  · rcases hpositions : locate schema [] names with e | positions
    · simp [hpositions, bind, Except.bind] at h
    · obtain rfl : KeyFields.mk names positions = fields := by
        simpa [hpositions, bind, Except.bind, pure, Except.pure] using h
      exact ⟨rfl, locate_positions hpositions⟩

/-- The values of a record are the texts of the key fields, in their order. -/
theorem values_ofNames (h : ofNames schema names = .ok fields) (r : Record) :
    fields.names = names ∧ fields.values r = schema.tuple names r := by
  obtain ⟨hnames, hpositions⟩ := positions_ofNames h
  refine ⟨hnames, ?_⟩
  have hvalues := congrArg (List.map fun o => (Option.map r.field o).getD "") hpositions
  rw [List.map_map, List.map_map] at hvalues
  exact hvalues

end KeyFields

/-- The texts of a record are no longer than a text can be. -/
def Record.Short (r : Record) : Prop := ∀ f ∈ r.fields, f.text.utf8ByteSize < UInt64.size

theorem Record.Short.values {r : Record} (h : r.Short) (fields : KeyFields) :
    ∀ s ∈ fields.values r, s.utf8ByteSize < UInt64.size := by
  intro s hs
  obtain ⟨i, -, rfl⟩ := List.mem_map.1 hs
  unfold Record.field
  rcases hf : r.fields[i]? with _ | f
  · simp
  · exact h f (List.mem_of_getElem? hf)

/-! ## Pipelines by key -/

/-- The entry of a pipeline in the map. -/
def Pipeline.entry (p : Pipeline) : String × PipelineEntry := (KeySet.merge p.keySet, ⟨p.id, p.tag⟩)

/-- What a pipeline is known by. -/
def Pipeline.face (p : Pipeline) : Nat × String × List String := (p.id, p.tag, p.keySet)

/-- The map has the pipelines, in the order of their launch. -/
structure KeyMap.Lists (ps : List Pipeline) (map : KeyMap PipelineEntry) : Prop where
  alive : map.destroyed = false
  created : map.created = ps.length
  entries : map.entries = ps.map Pipeline.entry

/-- The key sets of the pipelines. -/
def Plant.keySets (x : Plant) : List (List String) := x.pipelines.map Pipeline.keySet

@[simp] theorem Plant.keySets_launch (tag : String) (v : List String) (x : Plant) :
    (Orchestrator.launch tag v x).keySets = x.keySets ++ [v] := by
  simp [keySets, Orchestrator.launch, launch, onBooks]

/-- Nothing waits in the input of a pipeline that is launched. -/
@[simp] theorem Plant.waitingAt_launch (tag : String) (v : List String) (x : Plant) (j : Nat) :
    (Orchestrator.launch tag v x).waitingAt j = x.waitingAt j := by
  simp only [waitingAt, Orchestrator.launch, launch, onBooks]
  rcases Nat.lt_or_ge j x.pipelines.length with hj | hj
  · rw [List.getElem?_append_left hj]
  · rw [List.getElem?_append_right hj, List.getElem?_eq_none hj]
    rcases j - x.pipelines.length with _ | _ <;> rfl

/-- A plant that has a pipeline for a key set. One was launched if there was none. -/
inductive Plant.Provides (template : TagTemplate) (v : List String) (x : Plant) : Plant → Prop where
  | found (hv : v ∈ x.keySets) : Provides template v x x
  | launched (hv : v ∉ x.keySets) :
    Provides template v x (Orchestrator.launch (template.render v) v x)

theorem Plant.Provides.mem {template : TagTemplate} {v : List String} {x x' : Plant}
    (h : Provides template v x x') : v ∈ x'.keySets := by
  cases h with
  | found hv => exact hv
  | launched => simp

theorem Plant.length_keySets (x : Plant) : x.keySets.length = x.pipelines.length :=
  List.length_map _

theorem Plant.getElem?_keySets {x : Plant} {j : Nat} {v : List String} :
    x.keySets[j]? = some v ↔ ∃ p, x.pipelines[j]? = some p ∧ p.keySet = v := by
  rw [keySets, List.getElem?_map, Option.map_eq_some_iff]

section

variable {x x' : Plant} (hfaces : x'.pipelines.map Pipeline.face = x.pipelines.map Pipeline.face)
include hfaces

theorem Plant.keySets_of_faces : x'.keySets = x.keySets := by
  have hkeySets := congrArg (List.map (·.2.2)) hfaces
  rwa [List.map_map, List.map_map] at hkeySets

theorem Plant.entries_of_faces :
    x'.pipelines.map Pipeline.entry = x.pipelines.map Pipeline.entry := by
  have hentries := congrArg
    (List.map fun f => (KeySet.merge f.2.2, (⟨f.1, f.2.1⟩ : PipelineEntry))) hfaces
  rwa [List.map_map, List.map_map] at hentries

end

namespace Orchestrator

/-- What is always so of an orchestrator by key set, before it is shut down. Each pipeline has a
number and a key set of its own, and the tag that its key set renders to. -/
structure Directed (fields : KeyFields) (template : TagTemplate) (o : Orchestrator) : Prop where
  checked : o.settings.check = .ok ()
  sound : ∀ p ∈ o.plant.pipelines, p.Sound
  router : ∃ map, o.router = .keyed fields template map ∧ map.Lists o.plant.pipelines
  named : ∀ (j : Nat) (p : Pipeline), o.plant.pipelines[j]? = some p →
    p.id = j ∧ p.tag = template.render p.keySet
  distinct : Distinct o.plant.keySets

variable {fields : KeyFields} {template : TagTemplate} {o o' : Orchestrator}

/-- Pipelines may change in everything but what they are known by. -/
theorem Directed.of_faces (h : o.Directed fields template) (hc : o'.settings = o.settings)
    (hfaces : o'.plant.pipelines.map Pipeline.face = o.plant.pipelines.map Pipeline.face)
    (hsound : ∀ p ∈ o'.plant.pipelines, p.Sound)
    (hr : ∀ map, o.router = .keyed fields template map →
      ∃ map', o'.router = .keyed fields template map' ∧ map'.destroyed = map.destroyed
        ∧ map'.created = map.created ∧ map'.entries = map.entries) :
    o'.Directed fields template := by
  obtain ⟨map, hrouter, halive, hcreated, hentries⟩ := h.router
  obtain ⟨map', hrouter', halive', hcreated', hentries'⟩ := hr map hrouter
  have hlength : o'.plant.pipelines.length = o.plant.pipelines.length := by
    simpa using congrArg List.length hfaces
  refine ⟨hc ▸ h.checked, hsound, ⟨map', hrouter', halive'.trans halive, ?_, ?_⟩,
    fun j p' hp' => ?_, ?_⟩
  · rw [hcreated', hcreated, hlength]
  · rw [hentries', hentries, Plant.entries_of_faces hfaces]
  · have hface : (o.plant.pipelines.map Pipeline.face)[j]? = some p'.face := by
      rw [← hfaces, List.getElem?_map, hp']
      rfl
    rw [List.getElem?_map, Option.map_eq_some_iff] at hface
    obtain ⟨p, hp, hface⟩ := hface
    obtain ⟨hid, htag⟩ := h.named j p hp
    obtain ⟨hid', htag', hkeySet'⟩ : p.id = p'.id ∧ p.tag = p'.tag ∧ p.keySet = p'.keySet := by
      simpa [Pipeline.face] using hface
    rw [← hid', ← htag', ← hkeySet']
    exact ⟨hid, htag⟩
  · rw [Plant.keySets_of_faces hfaces]
    exact h.distinct

/-- The pipelines go on. -/
theorem Directed.of_continues (h : o.Directed fields template) (hx : o.plant.Continues o'.plant)
    (hsound : ∀ p ∈ o'.plant.pipelines, p.Sound)
    (hr : ∀ map, o.router = .keyed fields template map →
      ∃ map', o'.router = .keyed fields template map' ∧ map'.destroyed = map.destroyed
        ∧ map'.created = map.created ∧ map'.entries = map.entries) :
    o'.Directed fields template := by
  refine h.of_faces (by rw [settings, settings, hx.blueprint]) ?_ hsound hr
  exact hx.map_eq fun p p' hp => by rw [Pipeline.face, Pipeline.face, hp.id, hp.tag, hp.keySet]

/-- The map finds the pipeline of a key, or the next number is taken for it. -/
theorem Directed.getOrCreate (h : o.Directed fields template) {map map' : KeyMap PipelineEntry}
    (hr : o.router = .keyed fields template map) {v : List String}
    (hv : ∀ s ∈ v, s.utf8ByteSize < UInt64.size) {e : PipelineEntry}
    (hm : map.getOrCreate (fun parts token => ⟨token, template.render parts⟩) (KeySet.merge v)
      = .ok (e, map')) :
    map' = map ∧ o.plant.keySets[e.id]? = some v
      ∨ v ∉ o.plant.keySets ∧ e = ⟨o.plant.pipelines.length, template.render v⟩
        ∧ map'.created = map.created + 1 ∧ map'.destroyed = false
        ∧ map'.entries = map.entries ++ [(KeySet.merge v, e)] := by
  obtain ⟨map₀, hr₀, halive, hcreated, hentries⟩ := h.router
  obtain ⟨-, -, rfl⟩ := Router.keyed.inj (hr.symm.trans hr₀)
  obtain ⟨hd, ⟨hf, rfl⟩ | ⟨hf, rfl, rfl⟩⟩ := KeyMap.getOrCreate_cases hm
  · refine .inl ⟨rfl, ?_⟩
    have hmem := KeyMap.mem_of_find? hf
    rw [hentries] at hmem
    obtain ⟨p, hp, hpe⟩ := List.mem_map.1 hmem
    obtain ⟨hkey, rfl⟩ := Prod.mk.inj hpe
    obtain ⟨j, hj⟩ := List.getElem?_of_mem hp
    have hshort := h.distinct.short p.keySet (List.mem_map_of_mem hp)
    refine Plant.getElem?_keySets.2 ⟨p, ?_, KeySet.merge_injOn hshort hv hkey⟩
    show o.plant.pipelines[p.id]? = some p
    rw [(h.named j p hj).1, hj]
  · refine .inr ⟨fun hmem => ?_, by rw [KeySet.split_merge hv, hcreated], rfl, hd, rfl⟩
    refine KeyMap.not_mem_of_find? hf ?_
    obtain ⟨p, hp, rfl⟩ := List.mem_map.1 hmem
    rw [hentries, List.map_map]
    exact List.mem_map_of_mem hp

/-- A pipeline is launched for a key set that no pipeline has. -/
theorem Directed.launch (h : o.Directed fields template) {map map' : KeyMap PipelineEntry}
    (hr : o.router = .keyed fields template map) {v : List String}
    (hv : ∀ s ∈ v, s.utf8ByteSize < UInt64.size) (hnew : v ∉ o.plant.keySets)
    (hcreated : map'.created = map.created + 1) (hd : map'.destroyed = false)
    (hentries : map'.entries
      = map.entries ++ [(KeySet.merge v, ⟨o.plant.pipelines.length, template.render v⟩)]) :
    Directed fields template
      { o with
        plant := Orchestrator.launch (template.render v) v o.plant
        router := .keyed fields template map' } := by
  obtain ⟨map₀, hr₀, halive, hcreated₀, hentries₀⟩ := h.router
  obtain ⟨-, -, rfl⟩ := Router.keyed.inj (hr.symm.trans hr₀)
  refine ⟨h.checked, fun p hp => ?_, ⟨map', rfl, hd, ?_, ?_⟩, fun j p hp => ?_, ?_⟩
  · rcases List.mem_append.1 hp with hp | hp
    · exact h.sound p hp
    · rw [List.mem_singleton.1 hp]
      exact Pipeline.sound_launched ..
  · simp [hcreated, hcreated₀, Orchestrator.launch, Plant.launch, Plant.onBooks]
  · rw [hentries, hentries₀]
    simp [Orchestrator.launch, Plant.launch, Plant.onBooks, Pipeline.entry]
  · simp only [Orchestrator.launch, Plant.launch, Plant.onBooks, List.getElem?_append] at hp
    split at hp
    · exact h.named j p hp
    · rw [List.getElem?_singleton] at hp
      split at hp
      · obtain rfl := Option.some.inj hp
        exact ⟨by dsimp only; omega, rfl⟩
      · simp at hp
  · show Distinct (Orchestrator.launch (template.render v) v o.plant).keySets
    rw [Plant.keySets_launch]
    refine ⟨List.nodup_append.2 ⟨h.distinct.once, by simp, fun w hw w' hw' heq => hnew ?_⟩,
      fun w hw => ?_⟩
    · rwa [← List.mem_singleton.1 hw', ← heq]
    · rcases List.mem_append.1 hw with hw | hw
      · exact h.distinct.short w hw
      · rw [List.mem_singleton.1 hw]
        exact hv

/-- A buffer for a key is empty when it is made. What waits under each key is as before. -/
theorem same_getOrCreate {c c' : LocalCache Outlet} {make : List String → Nat → PipelineEntry}
    {key : String} {map map' : KeyMap PipelineEntry} {out : Outlet}
    (h : c.getOrCreate make (fun _ e => o.outlet e) key map = .ok (out, c', map')) (k : String) :
    c'.pendingUnder k = c.pendingUnder k := by
  rw [LocalCache.pendingUnder, LocalCache.pendingUnder, LocalCache.find?_getOrCreate h]
  rcases LocalCache.getOrCreate_cases h with ⟨hf, -, -⟩ | ⟨hf, e, -, rfl, -⟩
  · split
    · rename_i hk
      rw [hk, hf]
      rfl
    · simp
  · split
    · rename_i hk
      rw [hk, hf]
      rfl
    · simp

/-- The sink finds the pipeline of a record, which is launched if need be. -/
theorem Directed.leads (h : o.Directed fields template) {map map' : KeyMap PipelineEntry}
    (hr : o.router = .keyed fields template map) {c c' : LocalCache Outlet}
    (hc : c.Leads o.plant.keySets) {r : Record} (hshort : r.Short) {out : Outlet}
    (hget : c.getOrCreate (fun parts token => ⟨token, template.render parts⟩)
      (fun _ e => o.outlet e) (fields.key r) map = .ok (out, c', map')) :
    let plant := if map'.created = map.created then o.plant
      else Orchestrator.launch out.buffer.key (KeySet.split (fields.key r)) o.plant
    Directed fields template { o with plant, router := .keyed fields template map' }
      ∧ Plant.Provides template (fields.values r) o.plant plant ∧ c'.Leads plant.keySets := by
  have hv := hshort.values fields
  have hneat := (LocalCache.getOrCreate_ok hc.neat hget).1
  have hsame : ({ o with plant := o.plant, router := .keyed fields template map } : Orchestrator)
      = o := by
    rw [← hr]
  have hgrown : ∀ {keySets e}, c.Leads keySets → keySets[e.id]? = some (fields.values r) →
      c' = ⟨c.entries ++ [(fields.key r, o.outlet e)]⟩ → c'.Leads keySets := by
    rintro keySets e hleads hid rfl
    refine ⟨hneat, fun e' he' => ?_⟩
    rcases List.mem_append.1 he' with he' | he'
    · exact hleads.keyed e' he'
    · rw [List.mem_singleton.1 he']
      exact ⟨_, hid, rfl⟩
  rcases LocalCache.getOrCreate_cases hget with ⟨hf, rfl, rfl⟩ | ⟨-, e, hm, rfl, hc'⟩
  · simp only [↓reduceIte, hsame]
    obtain ⟨w, hw, hkey⟩ := hc.keyed _ (LocalCache.mem_of_find? hf)
    have hwmem := List.mem_of_getElem? hw
    obtain rfl := KeySet.merge_injOn hv (h.distinct.short w hwmem) hkey
    exact ⟨h, .found hwmem, hc⟩
  · rcases h.getOrCreate hr hv hm with ⟨rfl, hid⟩ | ⟨hnew, rfl, hcreated, hd, hentries⟩
    · simp only [↓reduceIte, hsame]
      exact ⟨h, .found (List.mem_of_getElem? hid), hgrown hc hid hc'⟩
    · have hne : map'.created ≠ map.created := by omega
      have hsplit : KeySet.split (fields.key r) = fields.values r := KeySet.split_merge hv
      simp only [if_neg hne, hsplit]
      refine ⟨h.launch hr hv hnew hcreated hd hentries, .launched hnew, hgrown ?_ ?_ hc'⟩
      · rw [Plant.keySets_launch]
        exact hc.mono _
      · simp [← Plant.length_keySets]

/-- What comes of routing a record. -/
theorem Directed.route (h : o.Directed fields template) {id : Nat} {c : LocalCache Outlet}
    (hs : o.sink? id = some (.keyed c)) (hc : c.Leads o.plant.keySets) {r : Record}
    (hshort : r.Short) :
    ∃ (out : Outlet) (c' : LocalCache Outlet) (plant : Plant) (map : KeyMap PipelineEntry),
      let o' : Orchestrator := { o with plant, router := .keyed fields template map }
      o.route id r = (o'.putSink id (.keyed (c'.put (fields.key r) (out.append o.now r).2))).next
          (out.append o.now r).1
        ∧ o'.Directed fields template
        ∧ Plant.Provides template (fields.values r) o.plant plant
        ∧ c'.Leads plant.keySets
        ∧ (∀ key, c'.pendingUnder key = c.pendingUnder key)
        ∧ c'.find? (fields.key r) = some out := by
  obtain ⟨map, hr, halive, -, -⟩ := h.router
  rcases hget : c.getOrCreate (fun parts token => ⟨token, template.render parts⟩)
    (fun _ e => o.outlet e) (fields.key r) map with e | ⟨out, c', map'⟩
  · have hd := LocalCache.destroyed_of_error hget
    simp [halive] at hd
  · obtain ⟨hdirected, hplant, hleads⟩ := h.leads hr hc hshort hget
    refine ⟨out, c', _, map', ?_, hdirected, hplant, hleads, same_getOrCreate hget,
      (LocalCache.getOrCreate_ok hc.neat hget).2.1⟩
    simp only [Orchestrator.route, hs, hr, hget]

/-- A batch enters the input of a pipeline. -/
theorem Directed.send (h : o.Directed fields template) {deadline : Instant} {i : Nat} {b : Batch}
    {plant : Plant} (hs : o.plant.send deadline i b = .done plant) :
    Directed fields template { o with plant } ∧ plant.keySets = o.plant.keySets
      ∧ plant.ground = o.plant.ground
      ∧ plant.pipelines.length = o.plant.pipelines.length := by
  obtain ⟨p, q, hp, hopen, hq, -, rfl⟩ := Plant.exists_of_send hs
  have hfaces : (o.plant.onInput i fun _ => q).pipelines.map Pipeline.face
      = o.plant.pipelines.map Pipeline.face := by
    refine List.ext_getElem? fun j => ?_
    simp only [Plant.onInput, List.getElem?_map, List.getElem?_modify, Option.map_eq_map,
      Option.map_map]
    refine Option.map_congr fun p _ => ?_
    by_cases hij : i = j
    · simp [hij, Pipeline.face]
    · simp [hij]
  have hsound : ∀ p' ∈ (o.plant.onInput i fun _ => q).pipelines, p'.Sound := by
    intro p' hp'
    obtain ⟨j, hj⟩ := List.getElem?_of_mem hp'
    simp only [Plant.onInput, List.getElem?_modify] at hj
    obtain ⟨p₁, hp₁, rfl⟩ := Option.map_eq_some_iff.1 hj
    have hsound := h.sound p₁ (List.mem_of_getElem? hp₁)
    split
    · rename_i hij
      obtain rfl := Option.some.inj (hp.symm.trans (hij ▸ hp₁))
      exact hsound.of_input (fun hc => by simp [hopen] at hc) fun _ hc => by simp [hopen] at hc
    · exact hsound
  exact ⟨h.of_faces rfl hfaces hsound fun map hr => ⟨map, hr, rfl, rfl, rfl⟩,
    Plant.keySets_of_faces hfaces, rfl, List.length_modify ..⟩

end Orchestrator

end LogPipeline
