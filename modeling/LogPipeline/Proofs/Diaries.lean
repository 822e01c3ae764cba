import LogPipeline.Proofs.Ages
import LogPipeline.Proofs.Closings
import LogPipeline.Proofs.Traffic

/-!
# How long records wait in sinks

A diary notes when each record came to its sink, and under which key the sink keeps the buffer for
it. What an errand does to the buffers of a sink is said once, position by position (`Sink.Turned`):
a buffer stays as it is, gets one more record, or is ticked. So each buffer recalls the last records
that came under its key (`Diary.Remembers.move`). A tick of a sink is an errand for each position,
and a position is fresh as soon as its errand is done (`Diary.Ticking.move`); when the call returns,
no record is left that had waited for the flush interval (`Diary.fresh_of_tick`).
-/

namespace LogPipeline

open Relation

/-! ## Positions of a sink -/

/-- The buffers of a sink, each with the key under which it is kept, if it has one. -/
def Sink.shelves : Sink → List (Option String × Outlet)
  | single o => o.toList.map (none, ·)
  | keyed c => c.entries.map fun e => (some e.1, e.2)

theorem Sink.shelves_outlets (s : Sink) : s.shelves.map Prod.snd = s.outlets := by
  cases s <;> simp [shelves, outlets, Function.comp_def]

theorem Sink.of_shelves_single {o : Outlet} {j : Nat} {e : Option String × Outlet}
    (he : (single (some o)).shelves[j]? = some e) : j = 0 ∧ e = (none, o) := by
  cases j with
  | zero => exact ⟨rfl, (Option.some.inj he).symm⟩
  | succ j => exact nomatch he

@[simp] theorem Sink.shelves_emptied (s : Sink) : s.emptied.shelves = [] := by
  cases s <;> rfl

/-- The key under which the sink keeps the buffer of a record, if it keeps buffers by key. -/
def Orchestrator.keyOf (id : Nat) (r : Record) (o : Orchestrator) : Option String :=
  match o.sink? id, o.router with
  | some (.keyed _), .keyed fields _ _ => some (fields.key r)
  | _, _ => none

/-- The errand concerns no other sink than this one. -/
def Errand.Minds (id : Nat) : Errand → Prop
  | route k _ => k = id
  | tick k _ _ => k = id
  | _ => True

/-- Nothing was put into the buffer yet. -/
structure SendBuffer.Blank (limits : BufferLimits) (b : SendBuffer) : Prop where
  pending : b.pending = []
  oldest : b.oldest = none
  limits : b.limits = limits

/-- What an errand makes of position `j` of sink `id`, where key and buffer are `e` afterwards and
were among `l` before. -/
inductive Sink.Turned (o : Orchestrator) (id : Nat) (u : Option Errand)
    (l : List (Option String × Outlet)) (j : Nat) (e : Option String × Outlet) : Prop where
  | same (he : l[j]? = some e) (hr : ∀ r, u = some (.route id r) → e.1 ≠ o.keyOf id r)
      (ht : ∀ t, u ≠ some (.tick id j t))
  | routed (r : Record) (b : SendBuffer) (hu : u = some (.route id r)) (hk : e.1 = o.keyOf id r)
      (hb : b.Blank o.settings.buffer ∨ ∃ out, l[j]? = some (e.1, out) ∧ out.buffer = b)
      (he : e.2.buffer = (b.append o.now r).2)
  | ticked (i : Nat) (t : Instant) (out : Outlet) (hu : u = some (.tick id i t))
      (ho : l[j]? = some (e.1, out)) (he : e.2.buffer = (out.buffer.tick t).2)

namespace LocalCache

variable {ω α : Type} {c c' : LocalCache α} {make : List String → Nat → ω} {wrap : String → ω → α}
  {key k : String} {a b : α} {m m' : KeyMap ω} {j : Nat}

/-- A lookup leaves the other keys where they are. -/
theorem getOrCreate_entries_of_ne (h : c.getOrCreate make wrap key m = .ok (a, c', m'))
    (hk : k ≠ key) (hj : c'.entries[j]? = some (k, b)) : c.entries[j]? = some (k, b) := by
  rcases getOrCreate_cases h with ⟨-, rfl, -⟩ | ⟨-, v, -, -, rfl⟩
  · exact hj
  · rw [List.getElem?_append] at hj
    split at hj
    · exact hj
    · rw [List.getElem?_singleton] at hj
      split at hj
      · exact absurd (congrArg Prod.fst (Option.some.inj hj)).symm hk
      · exact nomatch hj

/-- A lookup fails only for a key that is not there. -/
theorem not_mem_of_error {e : CreationError} (h : c.getOrCreate make wrap key m = .error e) :
    key ∉ c.entries.map Prod.fst := by
  rcases hf : c.find? key with _ | a
  · intro hmem
    obtain ⟨e, he, rfl⟩ := List.mem_map.1 hmem
    simpa using List.find?_eq_none.1 (Option.map_eq_none_iff.1 hf) e he
  · rw [getOrCreate_of_find? hf] at h
    exact nomatch h

/-- What a lookup finds was there, or was made. -/
theorem getOrCreate_entries_self {c c' : LocalCache Outlet} {wrap : String → ω → Outlet}
    {a b : Outlet} (hc : c.Neat) (h : c.getOrCreate make wrap key m = .ok (a, c', m'))
    (hj : c'.entries[j]? = some (key, b)) :
    b = a ∧ (c.entries[j]? = some (key, a) ∨ ∃ v, a = wrap key v) := by
  have hb : b = a := Option.some.inj <|
    (find?_of_getElem? (getOrCreate_ok hc h).1 hj).symm.trans (getOrCreate_ok hc h).2.1
  subst hb
  refine ⟨rfl, ?_⟩
  rcases getOrCreate_cases h with ⟨-, rfl, -⟩ | ⟨-, v, -, hv, -⟩
  · exact .inl hj
  · exact .inr ⟨v, hv⟩

end LocalCache

namespace Orchestrator

variable {o : Orchestrator} {id j k : Nat} {s s' : Sink} {r : Record} {u : Errand}
  {l : List Errand} {e : Option String × Outlet}

/-- What is done at one sink leaves the others as they are. -/
theorem turned_of_minds (hu : u.Minds k) (hk : id ≠ k) (he : s.shelves[j]? = some e) :
    Sink.Turned o id (some u) s.shelves j e := by
  refine .same he ?_ ?_
  · rintro r ⟨⟩
    exact absurd hu hk
  · rintro t ⟨⟩
    exact absurd hu hk

/-- A record that finds no buffer leaves all as they are. -/
theorem turned_lost (he : s.shelves[j]? = some e) (hkey : e.1 ≠ o.keyOf id r) :
    Sink.Turned o id (some (.route id r)) s.shelves j e := by
  refine .same he ?_ nofun
  rintro r ⟨⟩
  exact hkey

/-- A record finds its buffer in a cache, or one is made for it. -/
theorem turned_put {cache c : LocalCache Outlet} {key : String} {out out' : Outlet}
    {map map' : KeyMap PipelineEntry} {make : List String → Nat → PipelineEntry}
    (hn : cache.Neat) (hk : o.keyOf id r = some key)
    (hg : cache.getOrCreate make (fun _ e => o.outlet e) key map = .ok (out, c, map'))
    (hout : out'.buffer = (out.buffer.append o.now r).2)
    (he : (Sink.keyed (c.put key out')).shelves[j]? = some e) :
    Sink.Turned o id (some (.route id r)) (Sink.keyed cache).shelves j e := by
  rw [Sink.shelves, LocalCache.put, List.getElem?_map, List.getElem?_map] at he
  obtain ⟨f, hf, rfl⟩ := Option.map_eq_some_iff.1 he
  obtain ⟨⟨k, a⟩, ha, rfl⟩ := Option.map_eq_some_iff.1 hf
  by_cases hkey : k = key
  · subst hkey
    simp only [beq_self_eq_true, ↓reduceIte] at he ⊢
    refine .routed r out.buffer rfl hk.symm ?_ hout
    obtain ⟨rfl, hold | ⟨v, rfl⟩⟩ := LocalCache.getOrCreate_entries_self hn hg ha
    · exact .inr ⟨a, by rw [Sink.shelves, List.getElem?_map, hold]; rfl, rfl⟩
    · exact .inl ⟨rfl, rfl, rfl⟩
  · have hold := LocalCache.getOrCreate_entries_of_ne hg hkey ha
    simp only [beq_iff_eq, hkey, ↓reduceIte]
    refine turned_lost ?_ (by simpa [hk] using hkey)
    rw [Sink.shelves, List.getElem?_map, hold]
    rfl

theorem sink_of_putSink {s₀ : Sink} (hs : o.sink? id = some s₀)
    (h : (o.putSink id s).sink? id = some s') : s = s' :=
  Option.some.inj (((sink?_putSink hs s id).trans (if_pos rfl)).symm.trans h)

/-- A record that is routed is the business of one sink. -/
theorem sink?_route (hk : id ≠ k) : (o.route k r).sink? id = o.sink? id := by
  unfold Orchestrator.route
  split
  · rename_i hs
    exact (sink?_putSink hs _ id).trans (if_neg hk)
  · rename_i hs hr
    dsimp only
    split
    · rfl
    · exact (sink?_putSink (o := { o with plant := _, router := _ }) hs _ id).trans (if_neg hk)
  · rfl

theorem turned_route (hn : ∀ s, o.sink? k = some s → s.Neat)
    (h : (o.route k r).sink? id = some s') (he : s'.shelves[j]? = some e) :
    ∃ s, o.sink? id = some s ∧ Sink.Turned o id (some (.route k r)) s.shelves j e := by
  rcases ne_or_eq id k with hk | rfl
  · rw [sink?_route hk] at h
    exact ⟨s', h, turned_of_minds (k := k) rfl hk he⟩
  unfold Orchestrator.route at h
  split at h
  · rename_i out hs
    obtain rfl := sink_of_putSink hs h
    obtain ⟨rfl, rfl⟩ := Sink.of_shelves_single he
    exact ⟨_, hs, .routed r out.buffer rfl (by simp [keyOf, hs]) (.inr ⟨out, rfl, rfl⟩) rfl⟩
  · rename_i cache fields template map hs hr
    have hkey : o.keyOf id r = some (fields.key r) := by simp [keyOf, hs, hr]
    dsimp only at h
    split at h
    · rename_i err hg
      obtain rfl := Option.some.inj (hs.symm.trans h)
      refine ⟨_, hs, turned_lost he ?_⟩
      obtain ⟨f, hf, rfl⟩ := Option.map_eq_some_iff.1 ((List.getElem?_map ..).symm.trans he)
      rw [hkey]
      exact fun hfk => LocalCache.not_mem_of_error hg
        (List.mem_map.2 ⟨f, List.mem_of_getElem? hf, Option.some.inj hfk⟩)
    · rename_i out c map' hg
      obtain rfl := sink_of_putSink (o := { o with plant := _, router := _ }) hs h
      exact ⟨_, hs, turned_put (hn _ hs) hkey hg rfl he⟩
  · rename_i hsingle hkeyed
    have hs : o.sink? id = some s' := h
    refine ⟨s', hs, turned_lost he ?_⟩
    cases s' with
    | single out =>
      cases out with
      | none => simp [Sink.shelves] at he
      | some out => exact absurd hs (hsingle out)
    | keyed c =>
      obtain ⟨f, -, rfl⟩ := Option.map_eq_some_iff.1 ((List.getElem?_map ..).symm.trans he)
      rcases hr : o.router with isOpen | ⟨fields, template, map⟩
      · simp [keyOf, hs, hr]
      · exact (hkeyed c fields template map hs hr).elim

theorem turned_tick {i : Nat} {t : Instant} (he : (s.tick t i).2.shelves[j]? = some e) :
    Sink.Turned o id (some (.tick id i t)) s.shelves j e := by
  have hsame : i ≠ j → s.shelves[j]? = some e →
      Sink.Turned o id (some (.tick id i t)) s.shelves j e := fun hij he =>
    .same he nofun fun t' ht => hij (Errand.tick.inj (Option.some.inj ht)).2.1
  cases s with
  | single out =>
    cases out with
    | none => exact nomatch he
    | some out =>
      obtain ⟨rfl, rfl⟩ := Sink.of_shelves_single he
      exact .ticked i t out rfl rfl rfl
  | keyed c =>
    unfold Sink.tick at he
    rcases hi : c.entries[i]? with _ | ⟨key, out⟩
    · simp only [hi] at he
      refine hsame ?_ he
      rintro rfl
      simp [Sink.shelves, hi] at he
    · simp only [hi] at he
      obtain ⟨f, hf, rfl⟩ := Option.map_eq_some_iff.1 ((List.getElem?_map ..).symm.trans he)
      rcases eq_or_ne i j with rfl | hij
      · obtain rfl := Option.some.inj
          ((List.getElem?_set_self (List.getElem?_eq_some_iff.1 hi).1).symm.trans hf)
        exact .ticked i t out rfl (by simp [Sink.shelves, hi]) rfl
      · rw [List.getElem?_set_ne hij] at hf
        exact hsame hij (by simp [Sink.shelves, hf])

/-- What the next errand of a call makes of the buffers of a sink. -/
theorem turned_callAct (hn : ∀ k s, o.sink? k = some s → s.Neat)
    (h : o.callAct.sink? id = some s') (he : s'.shelves[j]? = some e) :
    ∃ s, o.sink? id = some s ∧ Sink.Turned o id o.errands.head? s.shelves j e := by
  rcases hl : o.errands with _ | ⟨u, l⟩
  · simp only [callAct, hl] at h
    exact ⟨s', h, .same he (by simp) (by simp)⟩
  rw [List.head?_cons]
  cases u with
  | route k r =>
    simp only [callAct, hl] at h
    exact turned_route (hn k) h he
  | tick k i t =>
    simp only [callAct, hl] at h
    split at h
    · rename_i hs
      refine ⟨s', h, turned_of_minds (k := k) rfl ?_ he⟩
      rintro rfl
      cases hs.symm.trans h
    · rename_i s hs
      rcases ne_or_eq id k with hk | rfl
      · exact ⟨s', ((sink?_putSink hs _ id).trans (if_neg hk)).symm.trans h,
          turned_of_minds (k := k) rfl hk he⟩
      · obtain rfl := sink_of_putSink hs h
        exact ⟨s, hs, turned_tick he⟩
  | send i b =>
    refine ⟨s', ?_, .same he (by simp) (by simp)⟩
    simp only [callAct, hl] at h
    split at h <;> exact h
  | awaitStop limit =>
    refine ⟨s', ?_, .same he (by simp) (by simp)⟩
    simp only [callAct, hl] at h
    split at h
    · exact h
    · split at h <;> exact h

/-- A call that goes on is left with what came behind its first errand, and may have that errand
still, or sends in place of it. -/
theorem mem_errands_callAct (o : Orchestrator) :
    (∀ w ∈ o.errands.drop 1, w ∈ o.callAct.errands)
      ∧ ∀ w ∈ o.callAct.errands, w ∈ o.errands ∨ ∃ i b, w = .send i b := by
  have hnext : ∀ {o' : Orchestrator} (b : Option (Nat × Batch)), o'.errands = o.errands →
      (∀ w ∈ o.errands.drop 1, w ∈ (o'.next b).errands)
        ∧ ∀ w ∈ (o'.next b).errands, w ∈ o.errands ∨ ∃ i b, w = .send i b := by
    intro o' b ho
    simp only [Orchestrator.next, ho]
    refine ⟨fun w hw => List.mem_append_right _ hw, fun w hw => ?_⟩
    rcases List.mem_append.1 hw with hw | hw
    · obtain ⟨e, -, rfl⟩ := List.mem_map.1 hw
      exact .inr ⟨_, _, rfl⟩
    · exact .inl (List.mem_of_mem_drop hw)
  have hkept : (∀ w ∈ o.errands.drop 1, w ∈ o.errands)
      ∧ ∀ w ∈ o.errands, w ∈ o.errands ∨ ∃ i b, w = .send i b :=
    ⟨fun w hw => List.mem_of_mem_drop hw, fun w hw => .inl hw⟩
  unfold callAct
  split
  · exact hkept
  · unfold Orchestrator.route
    split
    · exact hnext _ rfl
    · dsimp only
      split
      · exact hnext _ rfl
      · exact hnext _ rfl
    · exact hnext _ rfl
  · split
    · exact hnext _ rfl
    · exact hnext _ rfl
  · split
    · exact hnext _ rfl
    · exact hnext _ rfl
    · exact hkept
  · split
    · exact hnext _ rfl
    · split
      · exact hnext _ rfl
      · exact hkept

end Orchestrator

/-! ## Calls and settings -/

namespace Orchestrator

variable {o : Orchestrator} {id k : Nat} {s : Sink}

theorem sink_of_addSink (h : (o.addSink id).sink? k = some s) :
    o.sink? k = some s ∨ k = id ∧ ∀ e ∈ s.shelves, e.2.buffer.Blank o.settings.buffer := by
  obtain ⟨⟨k', s'⟩, hfind, rfl⟩ := Option.map_eq_some_iff.1 h
  rw [Orchestrator.addSink, List.find?_append] at hfind
  rcases Option.or_eq_some_iff.1 hfind with hold | ⟨-, hnew⟩
  · left
    have hdrop : (o.dropSink id).sink? k = some s' := Option.map_eq_some_iff.2 ⟨_, hold, rfl⟩
    rw [sink?_dropSink] at hdrop
    split at hdrop
    · cases hdrop
    · exact hdrop
  · right
    have hk : k' = k := by simpa using List.find?_some hnew
    obtain ⟨rfl, rfl⟩ := Prod.mk.inj (List.mem_singleton.1 (List.mem_of_find?_eq_some hnew))
    refine ⟨hk.symm, fun e he => ?_⟩
    dsimp only at he
    split at he
    · obtain rfl := List.mem_singleton.1 he
      exact ⟨rfl, rfl, rfl⟩
    · cases he
    · cases he

end Orchestrator

namespace Depot

variable {d d' : Depot} {id : Nat} {s : Sink}

def settings (d : Depot) : PipelineSettings := d.orchestrator.settings

theorem now_of_call (hc : Call d d') : d'.now = d.now := by
  cases hc with
  | close id =>
    show (d.orchestrator.close id).now = _
    unfold Orchestrator.close
    split <;> rfl
  | _ => rfl

theorem sink_of_call (hc : Call d d') (h : d'.orchestrator.sink? id = some s) :
    d.orchestrator.sink? id = some s
      ∨ d.IsFree id ∧ ∀ e ∈ s.shelves, e.2.buffer.Blank d.settings.buffer := by
  cases hc with
  | addSink k hf =>
    rcases Orchestrator.sink_of_addSink h with hold | ⟨rfl, hnew⟩
    · exact .inl hold
    · exact .inr ⟨hf, hnew⟩
  | dropSink k hf =>
    left
    have h : (d.orchestrator.dropSink k).sink? id = some s := h
    rw [Orchestrator.sink?_dropSink] at h
    split at h
    · exact nomatch h
    · exact h
  | close k hf =>
    have h : (d.orchestrator.close k).sink? id = some s := h
    unfold Orchestrator.close at h
    split at h
    · exact .inl h
    · rename_i s₀ hs
      rcases ne_or_eq id k with hk | rfl
      · exact .inl (((Orchestrator.sink?_putSink hs _ id).trans (if_neg hk)).symm.trans h)
      · obtain rfl := Orchestrator.sink_of_putSink hs h
        exact .inr ⟨hf, by simp⟩
  | accept | tick | shutDown => exact .inl h

/-- A call on a sink begins only when there is none, and has errands for this sink. -/
theorem visits_of_call (hc : Call d d') : ∃ vs, d'.visits = d.visits ++ vs ∧ ∀ v ∈ vs,
    d.IsFree v.sink ∧ ∀ u ∈ v.errands, u.Minds v.sink := by
  have hone : ∀ {id : Nat} {o : Orchestrator}, d.IsFree id → (∀ u ∈ o.errands, u.Minds id) →
      ∃ vs, (d.call id o).visits = d.visits ++ vs ∧ ∀ v ∈ vs,
        d.IsFree v.sink ∧ ∀ u ∈ v.errands, u.Minds v.sink := fun hf ho =>
    ⟨_, rfl, fun v hv => List.mem_singleton.1 hv ▸ ⟨hf, ho⟩⟩
  cases hc with
  | accept id l hf =>
    refine hone hf fun u hu => ?_
    obtain ⟨r, -, rfl⟩ := List.mem_map.1 hu
    rfl
  | tick id hf =>
    refine hone hf fun u hu => ?_
    obtain ⟨i, -, rfl⟩ := List.mem_map.1 hu
    rfl
  | close id hf =>
    refine hone hf fun u hu => ?_
    unfold Orchestrator.close at hu
    split at hu
    · exact nomatch hu
    · obtain ⟨e, -, rfl⟩ := List.mem_map.1 hu
      trivial
  | addSink | dropSink | shutDown => exact ⟨[], (List.append_nil _).symm, List.forall_mem_nil _⟩

/-- Nothing changes the settings. -/
theorem Sound.settings_move (h : d.Sound) (hm : Move d d') : d'.settings = d.settings := by
  have hstep : ∀ {x : Plant}, d.orchestrator.plant.Step x →
      x.ground.blueprint.settings = d.settings := fun hs =>
    congrArg Blueprint.settings (Plant.continues_step hs).blueprint
  rcases hm with hc | ht
  · cases hc with
    | close id =>
      show (d.orchestrator.close id).settings = _
      unfold Orchestrator.close
      split <;> rfl
    | _ => rfl
  · cases ht with
    | goOn k =>
      unfold Depot.goOn
      split
      · rfl
      · rename_i v hv
        have hx := (Orchestrator.served_callAct (o := d.orchestrator.lend v)
          (h.visits v (List.mem_of_getElem? hv)).errands).1
        exact congrArg Blueprint.settings hx.ground.1
    | comeBack =>
      rw [comeBack_eq]
      rfl
    | act a => exact hstep (h.orchestrator.plant.step_act a)
    | tickEarly a => exact hstep (Plant.step_tickEarly a)
    | _ => rfl

theorem Sound.settings_reaches (h : d.Sound) (hr : ReflTransGen Move d d') :
    d'.Sound ∧ d'.settings = d.settings := by
  induction hr with
  | refl => exact ⟨h, rfl⟩
  | tail _ hm ih => exact ⟨ih.1.move hm, (ih.1.settings_move hm).trans ih.2⟩

end Depot

/-! ## Diaries -/

/-- A record that came to a sink, with the key under which the sink keeps the buffer for it. -/
structure Arrival where
  sink : Nat
  key : Option String
  record : Record
  time : Instant

/-- A depot and the records that have come to its sinks. -/
structure Diary where
  depot : Depot
  arrivals : List Arrival := []

namespace Diary

variable {x y : Diary} {limits : BufferLimits} {id j k : Nat} {t : Instant} {s : Sink}
  {e : Option String × Outlet}

def now (x : Diary) : Instant := x.depot.now

def sink? (id : Nat) (x : Diary) : Option Sink := x.depot.orchestrator.sink? id

/-- What came to a sink under a key. -/
def log (id : Nat) (key : Option String) (x : Diary) : List (Record × Instant) :=
  (x.arrivals.filter fun e => e.sink = id ∧ e.key = key).map fun e => (e.record, e.time)

/-- The record that call `k` brings to a sink next, if it does. -/
def arriving (k : Nat) (x : Diary) : List Arrival :=
  match x.depot.visits[k]?.bind (·.errands.head?) with
  | some (.route id r) => [⟨id, x.depot.orchestrator.keyOf id r, r, x.now⟩]
  | _ => []

/-- A call goes on, and the record is noted that it brings to a sink. -/
def goOn (k : Nat) (x : Diary) : Diary :=
  { depot := x.depot.goOn k, arrivals := x.arrivals ++ x.arriving k }

/-- A tick of a sink begins. -/
def tick (id : Nat) (x : Diary) : Diary :=
  { x with depot := x.depot.call id (x.depot.orchestrator.tick id) }

/-- What happens: a call begins, or a call goes on, or something else, while the clock goes
forward. -/
inductive Move (x : Diary) : Diary → Prop where
  | call {d : Depot} (hc : Depot.Call x.depot d) : Move x { x with depot := d }
  | goOn (k : Nat) : Move x (x.goOn k)
  | turn {d : Depot} (ht : Depot.Turn x.depot d) (hn : x.now ≤ d.now)
      (hs : d.orchestrator.sinks = x.depot.orchestrator.sinks)
      (hv : d.visits = x.depot.visits) : Move x { x with depot := d }

/-- A move while the call on a sink is under way. -/
def Wait (id : Nat) (x y : Diary) : Prop := ¬x.depot.IsFree id ∧ Move x y

theorem Move.depot (hm : Move x y) : Depot.Move x.depot y.depot := by
  cases hm with
  | call hc => exact .inl hc
  | goOn k => exact .inr (.goOn k)
  | turn ht => exact .inr ht

/-- Whatever happens to a depot is noted, as long as the clock goes forward. -/
theorem exists_move {d : Depot} (hm : Depot.Move x.depot d) (hn : x.now ≤ d.now) :
    ∃ arrivals, Move x ⟨d, arrivals⟩ := by
  rcases hm with hc | ht
  · exact ⟨_, .call hc⟩
  · cases ht with
    | goOn k => exact ⟨_, .goOn k⟩
    | comeBack hs =>
      refine ⟨_, .turn (.comeBack hs) hn ?_ ?_⟩
      · rw [Depot.comeBack_eq]
      · rw [Depot.comeBack_eq]
    | letGo i hi hv => exact ⟨_, .turn (.letGo i hi hv) hn rfl rfl⟩
    | act a => exact ⟨_, .turn (.act a) hn rfl rfl⟩
    | tickEarly a => exact ⟨_, .turn (.tickEarly a) hn rfl rfl⟩
    | setNow t => exact ⟨_, .turn (.setNow t) hn rfl rfl⟩
    | receive destination => exact ⟨_, .turn (.receive destination) hn rfl rfl⟩

/-! ## What buffers recall -/

/-- Each buffer has the limits of the settings and recalls the last records that came under its
key. -/
structure Remembers (limits : BufferLimits) (x : Diary) : Prop where
  sound : x.depot.Sound
  settings : x.depot.settings.buffer = limits
  visits : ∀ v ∈ x.depot.visits, ∀ u ∈ v.errands, u.Minds v.sink
  shelves : ∀ id s, x.sink? id = some s → ∀ (j : Nat) (e : Option String × Outlet),
    s.shelves[j]? = some e → e.2.buffer.limits = limits
      ∧ ∃ recent, e.2.buffer.Recalls x.now (x.log id e.1) recent

/-- The sinks are left as they are. -/
theorem Remembers.of_same (h : x.Remembers limits) {d : Depot} (hm : Depot.Move x.depot d)
    (hv : ∀ v ∈ d.visits, ∀ u ∈ v.errands, u.Minds v.sink) (hn : x.now ≤ d.now)
    (hs : d.orchestrator.sinks = x.depot.orchestrator.sinks) :
    Remembers limits { x with depot := d } := by
  refine ⟨h.sound.move hm, (congrArg _ (h.sound.settings_move hm)).trans h.settings, hv,
    fun id s hs' j e he => ?_⟩
  have hold : x.sink? id = some s := by
    rw [← hs']
    simp only [sink?, Orchestrator.sink?, hs]
  obtain ⟨hl, recent, hr⟩ := h.shelves id s hold j e he
  exact ⟨hl, recent, hr.later hn⟩

theorem Remembers.ofCall (h : x.Remembers limits) {d : Depot} (hc : Depot.Call x.depot d) :
    Remembers limits { x with depot := d } := by
  have hnow : d.now = x.now := Depot.now_of_call hc
  have hsettings : d.settings.buffer = limits :=
    (congrArg _ (h.sound.settings_move (.inl hc))).trans h.settings
  refine ⟨h.sound.ofCall hc, hsettings, fun v hv => ?_, fun id s hs j e he => ?_⟩
  · obtain ⟨vs, hvs, hminds⟩ := Depot.visits_of_call hc
    rw [hvs] at hv
    rcases List.mem_append.1 hv with hv | hv
    · exact h.visits v hv
    · exact (hminds v hv).2
  · change _ ∧ ∃ recent, e.2.buffer.Recalls d.now (x.log id e.1) recent
    rw [hnow]
    rcases Depot.sink_of_call hc hs with hs | ⟨-, hblank⟩
    · exact h.shelves id s hs j e he
    · obtain ⟨hp, ho, hl⟩ := hblank e (List.mem_of_getElem? he)
      exact ⟨hl.trans h.settings, [], SendBuffer.recalls_nil hp ho _ _⟩

/-! ## Calls that go on -/

theorem goOn_of_none (hv : x.depot.visits[k]? = none) : x.goOn k = x := by
  simp [Diary.goOn, Depot.goOn, arriving, hv]

section

variable {v : Visit} {key : Option String}

theorem log_goOn (hv : x.depot.visits[k]? = some v) {r : Record}
    (hr : v.errands.head? = some (.route id r)) :
    (x.goOn k).log id (x.depot.orchestrator.keyOf id r)
      = x.log id (x.depot.orchestrator.keyOf id r) ++ [(r, x.now)] := by
  simp [Diary.goOn, log, arriving, hv, hr]

theorem log_goOn_of_ne (hv : x.depot.visits[k]? = some v)
    (hne : ∀ r, v.errands.head? = some (.route id r) → key ≠ x.depot.orchestrator.keyOf id r) :
    (x.goOn k).log id key = x.log id key := by
  have hnone : (x.arriving k).filter (fun e => e.sink = id ∧ e.key = key) = [] := by
    simp only [arriving, hv, Option.bind_some]
    split
    · rename_i k r hr
      refine List.filter_eq_nil_iff.2 fun e he hboth => ?_
      obtain rfl := List.mem_singleton.1 he
      obtain ⟨hk, hkey⟩ := of_decide_eq_true hboth
      dsimp only at hk hkey
      subst hk
      exact hne r hr hkey.symm
    · rfl
  simp only [Diary.goOn, log, List.filter_append, hnone, List.append_nil]

theorem now_goOn (h : x.Remembers limits) (k : Nat) : (x.goOn k).now = x.now := by
  rcases hv : x.depot.visits[k]? with _ | v
  · rw [goOn_of_none hv]
  · have hx := (Orchestrator.served_callAct (o := x.depot.orchestrator.lend v)
      (h.sound.visits v (List.mem_of_getElem? hv)).errands).1
    simp only [now, Diary.goOn, Depot.goOn, hv]
    exact hx.ground.2.1

theorem visits_goOn (hv : x.depot.visits[k]? = some v) :
    (x.goOn k).depot.visits = x.depot.visits.set k { v with
      errands := (x.depot.orchestrator.lend v).callAct.errands
      sender := (x.depot.orchestrator.lend v).waitsFor } := by
  simp only [Diary.goOn, Depot.goOn, hv]

/-- What a call that goes on makes of the buffers of a sink. -/
theorem Remembers.turned (h : x.Remembers limits) (hv : x.depot.visits[k]? = some v)
    (hs : (x.goOn k).sink? id = some s) (he : s.shelves[j]? = some e) :
    ∃ s₀, x.sink? id = some s₀
      ∧ Sink.Turned x.depot.orchestrator id v.errands.head? s₀.shelves j e := by
  have hs : (x.depot.orchestrator.lend v).callAct.sink? id = some s := by
    simp only [sink?, Diary.goOn, Depot.goOn, hv] at hs
    exact hs
  obtain ⟨s₀, hs₀, hturned⟩ := Orchestrator.turned_callAct (o := x.depot.orchestrator.lend v)
    (fun _ _ => h.sound.orchestrator.neat) hs he
  refine ⟨s₀, hs₀, ?_⟩
  cases hturned with
  | same he hr ht => exact .same he hr ht
  | routed r b hu hk hb he => exact .routed r b hu hk hb he
  | ticked i t out hu ho he => exact .ticked i t out hu ho he

end

theorem Remembers.goOn (h : x.Remembers limits) (k : Nat) : (x.goOn k).Remembers limits := by
  rcases hv : x.depot.visits[k]? with _ | v
  · rwa [goOn_of_none hv]
  have hmem := List.mem_of_getElem? hv
  have hnow := now_goOn h k
  have hsettings : (x.depot.goOn k).settings.buffer = limits :=
    (congrArg _ (h.sound.settings_move (.inr (.goOn k)))).trans h.settings
  have hvisits := visits_goOn hv
  refine ⟨h.sound.goOn k, hsettings, fun w hw => ?_, fun id s hs j e he => ?_⟩
  · rw [hvisits] at hw
    rcases List.mem_or_eq_of_mem_set hw with hw | rfl
    · exact h.visits w hw
    · intro w hw
      rcases (x.depot.orchestrator.lend v).mem_errands_callAct.2 w hw with hw | ⟨i, b, rfl⟩
      · exact h.visits v hmem w hw
      · trivial
  obtain ⟨s₀, hs₀, hturned⟩ := h.turned hv hs he
  rw [hnow]
  cases hturned with
  | same he hr _ =>
    rw [log_goOn_of_ne hv hr]
    exact h.shelves id s₀ hs₀ j e he
  | routed r b hu hk hb he =>
    rw [he, SendBuffer.limits_append, hk, log_goOn hv hu]
    rcases hb with ⟨hp, ho, hlimits⟩ | ⟨out, ho, rfl⟩
    · exact ⟨hlimits.trans h.settings, (SendBuffer.recalls_nil hp ho x.now _).append r⟩
    · obtain ⟨hlimits, recent, hr⟩ := h.shelves id s₀ hs₀ j _ ho
      exact ⟨hlimits, (hk ▸ hr).append r⟩
  | ticked i t out hu ho he =>
    obtain ⟨hlimits, recent, hr⟩ := h.shelves id s₀ hs₀ j _ ho
    obtain ⟨-, hl', recent', hr'⟩ := hr.tick t
    rw [he, log_goOn_of_ne hv fun r hr => nomatch hu.symm.trans hr]
    exact ⟨hl'.trans hlimits, recent', hr'⟩

theorem Remembers.move (h : x.Remembers limits) (hm : Move x y) : y.Remembers limits := by
  cases hm with
  | call hc => exact h.ofCall hc
  | goOn k => exact h.goOn k
  | turn ht hn hs hv => exact h.of_same (.inr ht) (hv ▸ h.visits) hn hs

theorem remembers_reaches {schema : Schema} {p : Plant} {o : Orchestrator} (hp : p.IsNew)
    (hb : Orchestrator.build schema p = .ok o)
    (hr : ReflTransGen Move { depot := { orchestrator := o } } x) :
    x.Remembers o.settings.buffer := by
  induction hr with
  | refl =>
    have hsinks : o.sinks = [] := by
      obtain ⟨-, rfl | ⟨fields, template, rfl⟩⟩ := Orchestrator.build_cases hb <;> rfl
    refine ⟨(Depot.sound_build hp hb).1, rfl, List.forall_mem_nil _, fun id s hs => ?_⟩
    simp [sink?, Orchestrator.sink?, hsinks] at hs
  | tail _ hm ih => exact ih.move hm

/-! ## Ticks -/

/-- A sink that is being ticked at time `t`. Each of its buffers holds nothing old, or has its turn
yet to come. -/
structure Ticking (id : Nat) (t : Instant) (x : Diary) : Prop where
  errands : ∀ v ∈ x.depot.visits, v.sink = id → ∀ u ∈ v.errands,
    (∃ i b, u = .send i b) ∨ ∃ i, u = .tick id i t
  shelves : ∀ s, x.sink? id = some s → ∀ (j : Nat) (e : Option String × Outlet),
    s.shelves[j]? = some e → e.2.buffer.isStale t = false
      ∨ ∃ v ∈ x.depot.visits, v.sink = id ∧ .tick id j t ∈ v.errands

theorem ticking_tick (hf : x.depot.IsFree id) : (x.tick id).Ticking id x.now := by
  have herrands : (x.depot.orchestrator.tick id).errands = (List.range
      (((x.sink? id).map Sink.size).getD 0)).map fun i => .tick id i x.now := rfl
  refine ⟨fun v hv hid u hu => ?_, fun s hs j e he => .inr ?_⟩
  · rcases List.mem_append.1 hv with hv | hv
    · rw [hf v hv hid] at hu
      exact nomatch hu
    · rw [List.mem_singleton.1 hv] at hu
      change u ∈ (x.depot.orchestrator.tick id).errands at hu
      rw [herrands] at hu
      obtain ⟨i, -, rfl⟩ := List.mem_map.1 hu
      exact .inr ⟨i, rfl⟩
  · refine ⟨_, List.mem_append_right _ (List.mem_singleton.2 rfl), rfl, ?_⟩
    have hs : x.sink? id = some s := hs
    have hj : j < s.size := by
      have hlt := (List.getElem?_eq_some_iff.1 he).1
      rwa [Sink.size, ← s.shelves_outlets, List.length_map]
    change _ ∈ (x.depot.orchestrator.tick id).errands
    rw [herrands, hs]
    exact List.mem_map.2 ⟨j, List.mem_range.2 hj, rfl⟩

/-- A call that goes on loses no errand but its first. -/
theorem exists_visit_goOn {v : Visit} (hv : x.depot.visits[k]? = some v) {w : Visit} {u : Errand}
    (hw : w ∈ x.depot.visits) (hu : u ∈ w.errands) (hne : v.errands.head? ≠ some u) :
    ∃ w' ∈ (x.goOn k).depot.visits, w'.sink = w.sink ∧ u ∈ w'.errands := by
  rw [visits_goOn hv]
  obtain ⟨m, hm⟩ := List.getElem?_of_mem hw
  rcases eq_or_ne k m with rfl | hkm
  · obtain rfl := Option.some.inj (hv.symm.trans hm)
    have hlt := (List.getElem?_eq_some_iff.1 hv).1
    refine ⟨_, List.mem_of_getElem? (List.getElem?_set_self hlt), rfl, ?_⟩
    refine (x.depot.orchestrator.lend v).mem_errands_callAct.1 u ?_
    show u ∈ v.errands.drop 1
    rcases hl : v.errands with _ | ⟨u', l⟩
    · exact nomatch hl ▸ hu
    · rw [hl] at hu hne
      exact (List.mem_cons.1 hu).resolve_left fun heq => hne (congrArg some heq.symm)
  · exact ⟨w, List.mem_of_getElem? ((List.getElem?_set_ne hkm).trans hm), rfl, hu⟩

theorem Ticking.goOn (h : x.Ticking id t) (hx : x.Remembers limits) (k : Nat) :
    (x.goOn k).Ticking id t := by
  rcases hv : x.depot.visits[k]? with _ | v
  · rwa [goOn_of_none hv]
  have hmem := List.mem_of_getElem? hv
  have hhead : ∀ u, v.errands.head? = some u → u.Minds v.sink ∧ u ∈ v.errands := fun u hu =>
    have hu := List.mem_of_head? hu
    ⟨hx.visits v hmem u hu, hu⟩
  refine ⟨fun w hw hid u hu => ?_, fun s hs j e he => ?_⟩
  · rw [visits_goOn hv] at hw
    rcases List.mem_or_eq_of_mem_set hw with hw | rfl
    · exact h.errands w hw hid u hu
    · rcases (x.depot.orchestrator.lend v).mem_errands_callAct.2 u hu with hu | hsend
      · exact h.errands v hmem hid u hu
      · exact .inl hsend
  obtain ⟨s₀, hs₀, hturned⟩ := hx.turned hv hs he
  cases hturned with
  | same he _ ht =>
    refine (h.shelves s₀ hs₀ j e he).imp_right fun ⟨w, hw, hid, hu⟩ => ?_
    obtain ⟨w', hw', hid', hu'⟩ := exists_visit_goOn hv hw hu (ht t)
    exact ⟨w', hw', hid'.trans hid, hu'⟩
  | routed r b hu =>
    obtain ⟨hid, hu⟩ := hhead _ hu
    rcases h.errands v hmem hid.symm _ hu with ⟨i, b, heq⟩ | ⟨i, heq⟩ <;> exact nomatch heq
  | ticked i t' out hu ho he =>
    obtain ⟨hid, hu⟩ := hhead _ hu
    obtain ⟨-, recent, hr⟩ := hx.shelves id s₀ hs₀ j _ ho
    rcases h.errands v hmem hid.symm _ hu with ⟨i, b, heq⟩ | ⟨i, heq⟩
    · exact nomatch heq
    · obtain ⟨-, -, rfl⟩ := Errand.tick.inj heq
      rw [he]
      exact .inl (hr.tick t').1

theorem Ticking.wait (h : x.Ticking id t) (hx : x.Remembers limits) (hw : Wait id x y) :
    y.Ticking id t := by
  obtain ⟨hf, hm⟩ := hw
  cases hm with
  | call hc =>
    obtain ⟨vs, hvs, hfree⟩ := Depot.visits_of_call hc
    refine ⟨fun v hv hid => ?_, fun s hs j e he => ?_⟩
    · rw [hvs] at hv
      rcases List.mem_append.1 hv with hv | hv
      · exact h.errands v hv hid
      · exact absurd (hid ▸ (hfree v hv).1) hf
    · rcases Depot.sink_of_call hc hs with hs | ⟨hfree, -⟩
      · refine (h.shelves s hs j e he).imp_right fun ⟨v, hv, hid, hu⟩ => ⟨v, ?_, hid, hu⟩
        rw [hvs]
        exact List.mem_append_left _ hv
      · exact absurd hfree hf
  | goOn k => exact h.goOn hx k
  | turn ht hn hs hv =>
    refine ⟨hv ▸ h.errands, fun s hs' j e he => ?_⟩
    rw [hv]
    refine h.shelves s ?_ j e he
    rw [← hs']
    simp only [sink?, Orchestrator.sink?, hs]

/-- When a tick of a sink at time `t` has returned, no record waits in it that came the flush
interval or longer before `t`. -/
theorem fresh_of_tick {schema : Schema} {p : Plant} {o : Orchestrator} (hp : p.IsNew)
    (hb : Orchestrator.build schema p = .ok o)
    (hr : ReflTransGen Move { depot := { orchestrator := o } } x) (hf : x.depot.IsFree id)
    (hw : ReflTransGen (Wait id) (x.tick id) y) (hi : y.depot.IsFree id) (hs : y.sink? id = some s)
    (he : e ∈ s.shelves) :
    ∃ past recent, y.log id e.1 = past ++ recent
      ∧ recent.map Prod.fst = e.2.buffer.pending
      ∧ ∀ a ∈ recent, x.now - a.2 < o.settings.buffer.flushInterval := by
  have hbegun : (x.tick id).Remembers o.settings.buffer :=
    (remembers_reaches hp hb hr).move (.call (.tick id hf))
  have hinv : y.Remembers o.settings.buffer ∧ y.Ticking id x.now := by
    clear hi hs
    induction hw with
    | refl => exact ⟨hbegun, ticking_tick hf⟩
    | tail _ hw ih => exact ⟨ih.1.move hw.2, ih.2.wait ih.1 hw⟩
  obtain ⟨hy, ht⟩ := hinv
  obtain ⟨j, hj⟩ := List.getElem?_of_mem he
  obtain ⟨hlimits, recent, hrecalls⟩ := hy.shelves id s hs j e hj
  obtain ⟨past, hpast⟩ := hrecalls.suffix
  rcases ht.shelves s hs j e hj with hstale | ⟨v, hv, hid, hu⟩
  · exact ⟨past, recent, hpast.symm, hrecalls.records, hlimits ▸ hrecalls.fresh hstale⟩
  · rw [hi v hv hid] at hu
    exact nomatch hu

end Diary

end LogPipeline
