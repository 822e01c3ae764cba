import LogPipeline.Orchestrator
import LogPipeline.Proofs.Frames
import LogPipeline.Proofs.Lookups
import Mathlib.Data.List.Nodup

/-!
# Lanes

A lane is the way of the records of one sink: they are accepted, find their buffers one after the
other, wait there, and leave in batches. On each lane the records with the same key values keep
their order, and all go to the pipeline of these values (`Lane.Flows`). What one errand does moves
the records along the lane, and changes nothing else (`Lane.Flows.put`, `Lane.Flows.ship`).
-/

namespace LogPipeline

/-- A batch that a sink has parted with. It entered the input of its pipeline, or it was lost. -/
structure Shipment where
  sink : Nat
  pipeline : Nat
  batch : Batch
  entered : Bool
deriving DecidableEq, Repr, Inhabited

/-- The records that were shipped to a pipeline. -/
def shippedTo (j : Nat) (l : List Shipment) : Batch :=
  (l.filter (·.pipeline == j)).flatMap Shipment.batch

/-- The records that an errand brings to a pipeline. -/
def Errand.boundFor (j : Nat) : Errand → Batch
  | send i b => if i = j then b else []
  | _ => []

/-- The record that has yet to find its buffer. -/
def Errand.unrouted : Errand → Batch
  | route _ r => [r]
  | _ => []

/-- The errand concerns the buffers of one sink. -/
def Errand.Concerns (id : Nat) : Errand → Prop
  | route k _ => k = id
  | tick k _ _ => k = id
  | _ => False

/-- The records that wait to be sent to a pipeline. -/
def Sink.waitingFor (j : Nat) (s : Sink) : Batch :=
  (s.outlets.filter (·.pipeline == j)).flatMap (·.buffer.pending)

/-- The records that wait in the buffer under a key. -/
def LocalCache.pendingUnder (key : String) (c : LocalCache Outlet) : Batch :=
  ((c.find? key).map (·.buffer.pending)).getD []

/-- What one sink was given, which of it has found a buffer, what it has parted with, and what is
left to do for it. -/
structure Lane where
  accepted : Batch
  routed : Batch
  shipped : List Shipment
  errands : List Errand
  sink : Option Sink

namespace Lane

/-- The records on their way to a pipeline. -/
def bound (j : Nat) (x : Lane) : Batch := x.errands.flatMap (Errand.boundFor j)

/-- The records that wait for more to come. -/
def waiting (j : Nat) (x : Lane) : Batch := (x.sink.map (Sink.waitingFor j)).getD []

/-- All records that go to a pipeline, in the order in which they get there. -/
def towards (j : Nat) (x : Lane) : Batch := shippedTo j x.shipped ++ x.bound j ++ x.waiting j

end Lane

@[simp] theorem shippedTo_append (j : Nat) (l l' : List Shipment) :
    shippedTo j (l ++ l') = shippedTo j l ++ shippedTo j l' := by
  simp [shippedTo]

theorem boundFor_of_concerns {t : Errand} {id : Nat} (ht : t.Concerns id) (j : Nat) :
    t.boundFor j = [] := by
  cases t with
  | route | tick => rfl
  | send | awaitStop => exact ht.elim

theorem unrouted_sends (l : List (Nat × Batch)) :
    (l.map fun e => Errand.send e.1 e.2).flatMap Errand.unrouted = [] := by
  simp [List.flatMap_map, Errand.unrouted]

/-- A batch that leaves a buffer is bound for the pipeline of the buffer. -/
theorem boundFor_toList {b : Option (Nat × Batch)} {i : Nat} (hb : ∀ e, b = some e → e.1 = i)
    (j : Nat) :
    (b.toList.map fun e => Errand.send e.1 e.2).flatMap (Errand.boundFor j)
      = if i = j then handedOn b else [] := by
  cases b with
  | none => simp [handedOn]
  | some e => simp [Errand.boundFor, handedOn, hb e rfl]

theorem Sink.waitingFor_emptied (j : Nat) (s : Sink) : s.emptied.waitingFor j = [] := by
  cases s <;> rfl

/-- What a sink sends when it is closed is what waits in it. -/
theorem Sink.boundFor_batches (j : Nat) (s : Sink) :
    (s.batches.map fun e => Errand.send e.1 e.2).flatMap (Errand.boundFor j) = s.waitingFor j := by
  unfold batches waitingFor
  induction s.outlets with
  | nil => rfl
  | cons o l ih =>
    rw [List.filter_cons]
    rcases o.buffer.flush_cases with ⟨hf, hp⟩ | hf
    · rw [List.filterMap_cons_none (by simp [hf]), ih]
      split
      · simp [hp]
      · rfl
    · rw [List.filterMap_cons_some (by rw [hf]; rfl), List.map_cons, List.flatMap_cons, ih]
      by_cases hj : o.pipeline = j
      · simp [Errand.boundFor, hj]
      · simp [Errand.boundFor, hj]

/-! ## Key sets -/

/-- Key sets as pipelines have them: no two are the same, and all can be read back. -/
structure Distinct (keySets : List (List String)) : Prop where
  once : keySets.Nodup
  short : ∀ v ∈ keySets, ∀ s ∈ v, s.utf8ByteSize < UInt64.size

section

variable {keySets : List (List String)} {v w : List String} {i j : Nat}

theorem Distinct.index (h : Distinct keySets) (hi : keySets[i]? = some v)
    (hj : keySets[j]? = some v) : i = j := by
  exact (List.getElem?_inj (List.getElem?_eq_some_iff.1 hi).1 h.once).1 (hi.trans hj.symm)

theorem Distinct.merge (h : Distinct keySets) (hv : v ∈ keySets) (hw : w ∈ keySets)
    (heq : KeySet.merge v = KeySet.merge w) : v = w :=
  KeySet.merge_injOn (h.short v hv) (h.short w hw) heq

/-- Each buffer sends to the pipeline whose key it is kept under, and no key is used twice. -/
structure LocalCache.Leads (keySets : List (List String)) (c : LocalCache Outlet) : Prop where
  neat : c.Neat
  keyed : ∀ e ∈ c.entries, ∃ v, keySets[e.2.pipeline]? = some v ∧ e.1 = KeySet.merge v

variable {c c' : LocalCache Outlet} {out : Outlet}

theorem LocalCache.Leads.mono (h : c.Leads keySets) (more : List (List String)) :
    c.Leads (keySets ++ more) := by
  refine ⟨h.neat, fun e he => ?_⟩
  obtain ⟨v, hv, hkey⟩ := h.keyed e he
  exact ⟨v, (List.getElem?_append_left (List.getElem?_eq_some_iff.1 hv).1).trans hv, hkey⟩

theorem LocalCache.leads_empty (keySets : List (List String)) : Leads keySets {} :=
  ⟨List.nodup_nil, by simp⟩

theorem LocalCache.Leads.pipeline_lt (h : c.Leads keySets) {o : Outlet}
    (ho : o ∈ (Sink.keyed c).outlets) : o.pipeline < keySets.length := by
  obtain ⟨e, he, rfl⟩ := List.mem_map.1 ho
  obtain ⟨v, hv, -⟩ := h.keyed e he
  exact (List.getElem?_eq_some_iff.1 hv).1

/-- A buffer is replaced by one that sends to the same pipeline. -/
theorem LocalCache.Leads.put (h : c.Leads keySets) {key : String} {out' : Outlet}
    (hf : c.find? key = some out) (hout : out'.pipeline = out.pipeline) :
    (c.put key out').Leads keySets := by
  refine ⟨(put_neat h.neat hf (fun _ => 0) out').1, fun e he => ?_⟩
  obtain ⟨e', he', rfl⟩ := List.mem_map.1 he
  split
  · obtain ⟨v, hv, hkey⟩ := h.keyed _ (mem_of_find? hf)
    exact ⟨v, hout ▸ hv, hkey⟩
  · exact h.keyed e' he'

theorem LocalCache.Leads.getElem?_pipeline (h : c.Leads keySets) (hd : Distinct keySets)
    (hv : v ∈ keySets) (hf : c.find? (KeySet.merge v) = some out) :
    keySets[out.pipeline]? = some v := by
  obtain ⟨w, hw, hkey⟩ := h.keyed _ (mem_of_find? hf)
  rwa [hd.merge hv (List.mem_of_getElem? hw) hkey]

theorem LocalCache.find?_of_getElem? (hc : c.Neat) {k : Nat} {key : String}
    (hk : c.entries[k]? = some (key, out)) : c.find? key = some out := by
  obtain ⟨e, he⟩ : ∃ e, c.entries.find? (·.1 == key) = some e := by
    rw [← Option.isSome_iff_exists, List.find?_isSome]
    exact ⟨_, List.mem_of_getElem? hk, by simp⟩
  have hkey : e.1 = key := by simpa using List.find?_some he
  have heq : e = (key, out) :=
    List.inj_on_of_nodup_map hc (List.mem_of_find?_eq_some he) (List.mem_of_getElem? hk) hkey
  simp [find?, he, heq]

/-- The buffer at a position is the one under its key. -/
theorem LocalCache.set_eq_put (hc : c.Neat) {k : Nat} {key : String}
    (hk : c.entries[k]? = some (key, out)) (out' : Outlet) :
    (⟨c.entries.set k (key, out')⟩ : LocalCache Outlet) = c.put key out' := by
  obtain ⟨pre, post, hl, hput, -⟩ := exists_entry hc (find?_of_getElem? hc hk)
  have hlt : k < (c.entries.map Prod.fst).length := by
    simpa using (List.getElem?_eq_some_iff.1 hk).1
  have hseat : (c.entries.map Prod.fst)[k]? = (c.entries.map Prod.fst)[pre.length]? := by
    rw [List.getElem?_map, hk, hl]
    simp
  obtain rfl := (List.getElem?_inj hlt hc).1 hseat
  rw [put, hput out', hl, set_seat]

/-- All that waits for a pipeline waits in the buffer under its key. -/
theorem LocalCache.Leads.waitingFor (h : c.Leads keySets) (hd : Distinct keySets)
    (hj : keySets[j]? = some v) :
    (Sink.keyed c).waitingFor j = c.pendingUnder (KeySet.merge v) := by
  have hpred : ∀ e ∈ c.entries, (e.2.pipeline == j) = (e.1 == KeySet.merge v) := by
    intro e he
    obtain ⟨w, hw, hkey⟩ := h.keyed e he
    rw [Bool.eq_iff_iff, beq_iff_eq, beq_iff_eq, hkey]
    constructor
    · rintro rfl
      rw [Option.some.inj (hw.symm.trans hj)]
    · intro heq
      obtain rfl := hd.merge (List.mem_of_getElem? hw) (List.mem_of_getElem? hj) heq
      exact hd.index hw hj
  have hfilter : (Sink.keyed c).outlets.filter (·.pipeline == j)
      = (c.entries.filter (·.1 == KeySet.merge v)).map (·.2) := by
    rw [Sink.outlets, List.filter_map, ← List.filter_congr hpred]
    rfl
  rw [Sink.waitingFor, hfilter, filter_key h.neat, pendingUnder, find?]
  generalize c.entries.find? (·.1 == KeySet.merge v) = e
  cases e with
  | none => rfl
  | some e => simp

end

/-! ## Records on a lane -/

namespace Lane

/-- What is always so of the lane of sink `id`. The records with the key values of a pipeline are
those that were shipped to it, those on their way to it and those that wait for it, in the order in
which they came. -/
structure Flows (fields : KeyFields) (keySets : List (List String)) (id : Nat) (x : Lane) :
    Prop where
  accepted : x.accepted = x.routed ++ x.errands.flatMap Errand.unrouted
  known : ∀ r ∈ x.routed, fields.values r ∈ keySets
  shipped : ∀ d ∈ x.shipped, d.pipeline < keySets.length
  errands : ∃ (l : List (Nat × Batch)) (rest : List Errand),
    x.errands = l.map (fun e => .send e.1 e.2) ++ rest ∧ (∀ e ∈ l, e.1 < keySets.length)
      ∧ ∀ t ∈ rest, t.Concerns id
  idle : x.sink = none → x.errands = []
  sink : ∀ s, x.sink = some s → ∃ c, s = .keyed c ∧ c.Leads keySets
  streams : ∀ j v, keySets[j]? = some v →
    x.routed.filter (fun r => decide (fields.values r = v))
      = shippedTo j x.shipped ++ x.bound j ++ x.waiting j

section

variable {fields : KeyFields} {keySets : List (List String)} {id : Nat} {x : Lane} {s : Sink}

/-- Nothing is on its way to a pipeline that there is not. -/
theorem Flows.bound_eq_nil (h : x.Flows fields keySets id) {j : Nat} (hj : keySets.length ≤ j) :
    x.bound j = [] := by
  obtain ⟨l, rest, herrands, hl, hrest⟩ := h.errands
  refine List.flatMap_eq_nil_iff.2 fun t ht => ?_
  rw [herrands] at ht
  rcases List.mem_append.1 ht with ht | ht
  · obtain ⟨e, he, rfl⟩ := List.mem_map.1 ht
    have hlt := hl e he
    exact if_neg (by omega)
  · exact boundFor_of_concerns (hrest t ht) j

theorem Flows.waiting_eq_nil (h : x.Flows fields keySets id) {j : Nat} (hj : keySets.length ≤ j) :
    x.waiting j = [] := by
  rcases hs : x.sink with _ | s
  · simp [waiting, hs]
  · obtain ⟨c, rfl, hc⟩ := h.sink s hs
    have hnone : (Sink.keyed c).outlets.filter (·.pipeline == j) = [] := by
      refine List.filter_eq_nil_iff.2 fun o ho hoj => ?_
      have hlt := hc.pipeline_lt ho
      rw [beq_iff_eq.1 hoj] at hlt
      omega
    simp [waiting, hs, Sink.waitingFor, hnone]

theorem Flows.shippedTo_eq_nil (h : x.Flows fields keySets id) {j : Nat}
    (hj : keySets.length ≤ j) : shippedTo j x.shipped = [] := by
  have hnone : x.shipped.filter (·.pipeline == j) = [] := by
    refine List.filter_eq_nil_iff.2 fun d hd hdj => ?_
    have hlt := h.shipped d hd
    rw [beq_iff_eq.1 hdj] at hlt
    omega
  rw [shippedTo, hnone]
  rfl

/-- A record goes to the pipeline of its key values. -/
theorem Flows.values_of_towards (h : x.Flows fields keySets id) {j : Nat} {r : Record}
    (hr : r ∈ x.towards j) : keySets[j]? = some (fields.values r) := by
  rcases hj : keySets[j]? with _ | v
  · have hle := List.getElem?_eq_none_iff.1 hj
    rw [towards, h.shippedTo_eq_nil hle, h.bound_eq_nil hle, h.waiting_eq_nil hle] at hr
    simp at hr
  · rw [towards, ← h.streams j v hj, List.mem_filter] at hr
    rw [of_decide_eq_true hr.2]

theorem Flows.exists_towards (h : x.Flows fields keySets id) {r : Record} (hr : r ∈ x.routed) :
    ∃ j, r ∈ x.towards j := by
  obtain ⟨j, hj⟩ := List.getElem?_of_mem (h.known r hr)
  refine ⟨j, ?_⟩
  rw [towards, ← h.streams j _ hj]
  exact List.mem_filter.2 ⟨hr, decide_eq_true rfl⟩

/-- Records with the same key values get to their pipeline in the order in which they came. -/
theorem Flows.accepted_filter (h : x.Flows fields keySets id) {j : Nat} {v : List String}
    (hj : keySets[j]? = some v) :
    x.accepted.filter (fun r => decide (fields.values r = v))
      = x.towards j ++ (x.errands.flatMap Errand.unrouted).filter
          (fun r => decide (fields.values r = v)) := by
  rw [h.accepted, List.filter_append, h.streams j v hj]
  rfl

/-- A pipeline is launched for key values that no record had. -/
theorem Flows.extend (h : x.Flows fields keySets id) {v : List String} (hv : v ∉ keySets) :
    x.Flows fields (keySets ++ [v]) id := by
  have hlen : keySets.length ≤ (keySets ++ [v]).length := by simp
  obtain ⟨l, rest, herrands, hl, hrest⟩ := h.errands
  refine ⟨h.accepted, fun r hr => List.mem_append_left _ (h.known r hr),
    fun d hd => Nat.lt_of_lt_of_le (h.shipped d hd) hlen,
    ⟨l, rest, herrands, fun e he => Nat.lt_of_lt_of_le (hl e he) hlen, hrest⟩, h.idle,
    fun s hs => ?_, fun j w hj => ?_⟩
  · obtain ⟨c, hc, hleads⟩ := h.sink s hs
    exact ⟨c, hc, hleads.mono _⟩
  · by_cases hlt : j < keySets.length
    · rw [List.getElem?_append_left hlt] at hj
      exact h.streams j w hj
    · have hle : keySets.length ≤ j := by omega
      obtain rfl : v = w := by
        rw [List.getElem?_append_right hle, List.getElem?_singleton] at hj
        split at hj
        · exact Option.some.inj hj
        · simp at hj
      rw [h.shippedTo_eq_nil hle, h.bound_eq_nil hle, h.waiting_eq_nil hle]
      refine List.filter_eq_nil_iff.2 fun r hr heq => hv ?_
      rw [← of_decide_eq_true heq]
      exact h.known r hr

/-- A call begins with records to route and buffers to tick. -/
theorem Flows.begin (h : x.Flows fields keySets id) (hx : x.errands = []) (hs : x.sink ≠ none)
    {l : List Errand} (hl : ∀ t ∈ l, t.Concerns id) :
    Flows fields keySets id
      { x with accepted := x.accepted ++ l.flatMap Errand.unrouted, errands := l } := by
  refine ⟨?_, h.known, h.shipped, ⟨[], l, rfl, by simp, hl⟩, fun hnone => absurd hnone hs, h.sink,
    fun j v hj => ?_⟩
  · simp [h.accepted, hx]
  · have hbound : l.flatMap (Errand.boundFor j) = [] :=
      List.flatMap_eq_nil_iff.2 fun t ht => boundFor_of_concerns (hl t ht) j
    have hstream := h.streams j v hj
    simpa [bound, hx, hbound, waiting] using hstream

/-- A sink is closed. -/
theorem Flows.close (h : x.Flows fields keySets id) (hx : x.errands = []) (hs : x.sink = some s) :
    Flows fields keySets id
      { x with errands := s.batches.map fun e => .send e.1 e.2, sink := some s.emptied } := by
  obtain ⟨c, rfl, hc⟩ := h.sink s hs
  refine ⟨?_, h.known, h.shipped, ⟨_, [], (List.append_nil _).symm, fun e he => ?_, by simp⟩,
    by simp, fun s' hs' => ?_, fun j v hj => ?_⟩
  · rw [unrouted_sends]
    simpa [hx] using h.accepted
  · obtain ⟨o, ho, hb⟩ := List.mem_filterMap.1 he
    obtain ⟨b, -, rfl⟩ := Option.map_eq_some_iff.1 hb
    exact hc.pipeline_lt ho
  · exact ⟨{}, (Option.some.inj hs').symm, LocalCache.leads_empty _⟩
  · have hstream := h.streams j v hj
    simp only [bound, waiting, hx, hs, Option.map_some, Option.getD_some,
      List.flatMap_nil] at hstream
    simp only [bound, waiting, Sink.boundFor_batches, Sink.waitingFor_emptied, Option.map_some,
      Option.getD_some]
    simpa using hstream

/-- A sink is new, or is gone with what waited in it. -/
theorem Flows.addSink (h : x.Flows fields keySets id) (hs : x.sink = none) :
    Flows fields keySets id { x with sink := some (.keyed {}) } := by
  refine ⟨h.accepted, h.known, h.shipped, h.errands, by simp, fun s hs' => ?_, fun j v hj => ?_⟩
  · exact ⟨{}, (Option.some.inj hs').symm, LocalCache.leads_empty _⟩
  · have hstream := h.streams j v hj
    simpa [waiting, hs, Sink.waitingFor, Sink.outlets, bound] using hstream

theorem Flows.dropSink (h : x.Flows fields keySets id) (hx : x.errands = [])
    (hs : x.sink = some s) :
    Flows fields keySets id
      { x with
        shipped := x.shipped ++ s.outlets.map fun o => ⟨id, o.pipeline, o.buffer.pending, false⟩
        sink := none } := by
  refine ⟨h.accepted, h.known, fun d hd => ?_, h.errands, fun _ => hx, by simp, fun j v hj => ?_⟩
  · rcases List.mem_append.1 hd with hd | hd
    · exact h.shipped d hd
    · obtain ⟨o, ho, rfl⟩ := List.mem_map.1 hd
      obtain ⟨c, rfl, hc⟩ := h.sink s hs
      exact hc.pipeline_lt ho
  · have hlost : shippedTo j (s.outlets.map fun o => ⟨id, o.pipeline, o.buffer.pending, false⟩)
        = s.waitingFor j := by
      rw [shippedTo, Sink.waitingFor, List.filter_map, List.flatMap_map]
      rfl
    have hstream := h.streams j v hj
    simp only [bound, waiting, hx, hs, Option.map_some, Option.getD_some, List.flatMap_nil,
      List.append_nil] at hstream
    simpa [bound, waiting, hx, hlost] using hstream

/-- A batch is shipped. -/
theorem Flows.ship (h : x.Flows fields keySets id) {i : Nat} {b : Batch} {l : List Errand}
    (hx : x.errands = .send i b :: l) (entered : Bool) :
    Flows fields keySets id
      { x with shipped := x.shipped ++ [⟨id, i, b, entered⟩], errands := l } := by
  obtain ⟨sends, rest, herrands, hsends, hrest⟩ := h.errands
  rw [hx] at herrands
  -- the call has not come to the errands that are not sends
  obtain ⟨e, sends, rfl⟩ : ∃ e sends', sends = e :: sends' := by
    cases sends with
    | nil =>
      obtain rfl : rest = .send i b :: l := herrands.symm
      exact (hrest _ List.mem_cons_self).elim
    | cons e sends => exact ⟨e, sends, rfl⟩
  obtain ⟨heq, rfl⟩ := List.cons.inj herrands
  obtain ⟨rfl, rfl⟩ := Errand.send.inj heq
  refine ⟨?_, h.known, fun d hd => ?_,
    ⟨sends, rest, rfl, fun e he => hsends e (List.mem_cons_of_mem _ he), hrest⟩, fun hnone => ?_,
    h.sink, fun j v hj => ?_⟩
  · have haccepted := h.accepted
    rw [hx] at haccepted
    exact haccepted
  · rcases List.mem_append.1 hd with hd | hd
    · exact h.shipped d hd
    · rw [List.mem_singleton.1 hd]
      exact hsends e List.mem_cons_self
  · have hnil := h.idle hnone
    simp [hx] at hnil
  · have hstream := h.streams j v hj
    have hone : shippedTo j [⟨id, e.1, e.2, entered⟩] = Errand.boundFor j (.send e.1 e.2) := by
      by_cases hj : e.1 = j
      · simp [shippedTo, Errand.boundFor, hj]
      · simp [shippedTo, Errand.boundFor, hj]
    simp only [bound, hx, List.flatMap_cons] at hstream
    rw [shippedTo_append, hone]
    simpa [bound, waiting] using hstream

/-- There is a sink as long as a call on it is under way. -/
theorem Flows.exists_sink (h : x.Flows fields keySets id) {t : Errand} {l : List Errand}
    (hx : x.errands = t :: l) : ∃ c, x.sink = some (.keyed c) ∧ c.Leads keySets := by
  rcases hs : x.sink with _ | s
  · have hnil := h.idle hs
    simp [hx] at hnil
  · obtain ⟨c, rfl, hc⟩ := h.sink s hs
    exact ⟨c, rfl, hc⟩

/-- The next errand brings a batch to a pipeline, or concerns the buffers of the sink. -/
theorem Flows.head (h : x.Flows fields keySets id) {t : Errand} {l : List Errand}
    (hx : x.errands = t :: l) : (∃ i b, t = .send i b) ∨ t.Concerns id := by
  obtain ⟨sends, rest, herrands, -, hrest⟩ := h.errands
  rw [hx] at herrands
  cases sends with
  | nil =>
    obtain rfl : rest = t :: l := herrands.symm
    exact .inr (hrest t List.mem_cons_self)
  | cons e sends => exact .inl ⟨e.1, e.2, (List.cons.inj herrands).1⟩

/-- Nothing is on its way while the first errand concerns the buffers of the sink. -/
theorem Flows.concerns (h : x.Flows fields keySets id) {t : Errand} {l : List Errand}
    (hx : x.errands = t :: l) (ht : t.Concerns id) : ∀ u ∈ x.errands, u.Concerns id := by
  obtain ⟨sends, rest, herrands, -, hrest⟩ := h.errands
  cases sends with
  | nil => exact herrands ▸ hrest
  | cons e sends =>
    rw [hx] at herrands
    rw [(List.cons.inj herrands).1] at ht
    exact ht.elim

/-- The buffer under a key is replaced, and a batch may be sent on. -/
theorem Flows.put (h : x.Flows fields keySets id) (hd : Distinct keySets)
    {c c' : LocalCache Outlet} (hs : x.sink = some (.keyed c)) {t : Errand} {l : List Errand}
    (hx : x.errands = t :: l) (ht : t.Concerns id) (hc' : c'.Leads keySets)
    (hsame : ∀ key, c'.pendingUnder key = c.pendingUnder key)
    {v : List String} {out out' : Outlet} {b : Option (Nat × Batch)} (hv : v ∈ keySets)
    (hf : c'.find? (KeySet.merge v) = some out) (hout : out'.pipeline = out.pipeline)
    (hb : ∀ e, b = some e → e.1 = out.pipeline) (hr : ∀ r ∈ t.unrouted, fields.values r = v)
    (hpending : handedOn b ++ out'.buffer.pending = out.buffer.pending ++ t.unrouted) :
    Flows fields keySets id
      { x with
        routed := x.routed ++ t.unrouted
        errands := b.toList.map (fun e => .send e.1 e.2) ++ l
        sink := some (.keyed (c'.put (KeySet.merge v) out')) } := by
  have hall := h.concerns hx ht
  rw [hx] at hall
  have hrest : ∀ u ∈ l, u.Concerns id := fun u hu => hall u (List.mem_cons_of_mem _ hu)
  have hleads := hc'.put hf hout
  have hpipeline := hc'.getElem?_pipeline hd hv hf
  obtain ⟨c₀, hc₀, hc⟩ := h.sink _ hs
  obtain rfl := Sink.keyed.inj hc₀
  have hquiet : ∀ j, l.flatMap (Errand.boundFor j) = [] := fun j =>
    List.flatMap_eq_nil_iff.2 fun u hu => boundFor_of_concerns (hrest u hu) j
  refine ⟨?_, fun r hr' => ?_, h.shipped, ⟨b.toList, l, rfl, fun e he => ?_, hrest⟩, by simp,
    fun s hs' => ⟨_, (Option.some.inj hs').symm, hleads⟩, fun j w hj => ?_⟩
  · have haccepted := h.accepted
    rw [hx, List.flatMap_cons] at haccepted
    rw [List.flatMap_append, unrouted_sends, List.nil_append, List.append_assoc]
    exact haccepted
  · rcases List.mem_append.1 hr' with hr' | hr'
    · exact h.known r hr'
    · rw [hr r hr']
      exact hv
  · rw [hb e (Option.mem_toList.1 he)]
    exact (List.getElem?_eq_some_iff.1 hpipeline).1
  · -- a record joins the stream of its own key set, and a batch leaves that buffer only
    have hstream := h.streams j w hj
    have hbound : x.bound j = [] := by
      rw [bound, hx, List.flatMap_cons, boundFor_of_concerns ht, hquiet, List.nil_append]
    have hwaiting : x.waiting j = c'.pendingUnder (KeySet.merge w) := by
      rw [hsame, ← hc.waitingFor hd hj, waiting, hs]
      rfl
    rw [hbound, hwaiting, List.append_nil] at hstream
    have hjoin : t.unrouted.filter (fun r => decide (fields.values r = w))
        = if w = v then t.unrouted else [] := by
      rw [List.filter_congr fun r hr' => show _ = decide (v = w) by rw [hr r hr']]
      by_cases hw : w = v
      · simp [hw]
      · simp [hw, Ne.symm hw]
    simp only [bound, waiting, List.flatMap_append, boundFor_toList hb, hquiet, List.append_nil,
      List.filter_append, hjoin, Option.map_some, Option.getD_some, hstream,
      hleads.waitingFor hd hj, LocalCache.pendingUnder, LocalCache.find?_put]
    by_cases hw : w = v
    · subst hw
      obtain rfl := hd.index hpipeline hj
      simp [hf, ← hpending]
    · have hne : out.pipeline ≠ j := by
        rintro rfl
        exact hw (Option.some.inj (hj.symm.trans hpipeline))
      have hkey : KeySet.merge w ≠ KeySet.merge v := fun heq =>
        hw (hd.merge (List.mem_of_getElem? hj) hv heq)
      simp [hw, hne, hkey]

/-- An errand turns out to have nothing to do. -/
theorem Flows.skip (h : x.Flows fields keySets id) {t : Errand} {l : List Errand}
    (hx : x.errands = t :: l) (ht : t.Concerns id) (hr : t.unrouted = []) :
    Flows fields keySets id { x with errands := l } := by
  have hall := h.concerns hx ht
  rw [hx] at hall
  have hrest : ∀ u ∈ l, u.Concerns id := fun u hu => hall u (List.mem_cons_of_mem _ hu)
  refine ⟨?_, h.known, h.shipped, ⟨[], l, rfl, by simp, hrest⟩, fun hnone => ?_, h.sink,
    fun j v hj => ?_⟩
  · have haccepted := h.accepted
    rw [hx, List.flatMap_cons, hr] at haccepted
    exact haccepted
  · have hnil := h.idle hnone
    simp [hx] at hnil
  · have hstream := h.streams j v hj
    rw [bound, hx, List.flatMap_cons, boundFor_of_concerns ht] at hstream
    exact hstream

/-- A buffer of the sink is ticked. -/
theorem Flows.tick (h : x.Flows fields keySets id) (hd : Distinct keySets)
    (hs : x.sink = some s) {i : Nat} {now : Instant} {l : List Errand}
    (hx : x.errands = .tick id i now :: l) :
    Flows fields keySets id
      { x with
        errands := (s.tick now i).1.toList.map (fun e => .send e.1 e.2) ++ l
        sink := some (s.tick now i).2 } := by
  obtain ⟨c, rfl, hc⟩ := h.sink s hs
  rcases hi : c.entries[i]? with _ | ⟨key, out⟩
  · have htick : (Sink.keyed c).tick now i = (none, .keyed c) := by simp [Sink.tick, hi]
    rw [htick, ← hs]
    exact h.skip hx rfl rfl
  · have htick : (Sink.keyed c).tick now i
        = ((out.tick now).1, .keyed (c.put key (out.tick now).2)) := by
      simp [Sink.tick, hi, LocalCache.set_eq_put hc.neat hi]
    obtain ⟨v, hv, rfl⟩ := hc.keyed _ (List.mem_of_getElem? hi)
    obtain ⟨hout, hb⟩ := out.pipeline_tick now
    have hput := h.put hd hs hx rfl hc (fun _ => rfl) (List.mem_of_getElem? hv)
      (LocalCache.find?_of_getElem? hc.neat hi) hout hb (by simp [Errand.unrouted])
      (by simpa [Errand.unrouted] using out.pending_tick now)
    rw [htick]
    simpa [Errand.unrouted] using hput

/-- A record finds the buffer of its key, which the sink has or is given now. -/
theorem Flows.route (h : x.Flows fields keySets id) (hd : Distinct keySets)
    {c c' : LocalCache Outlet} (hs : x.sink = some (.keyed c)) {r : Record} {l : List Errand}
    (hx : x.errands = .route id r :: l) (hc' : c'.Leads keySets)
    (hsame : ∀ key, c'.pendingUnder key = c.pendingUnder key)
    (hv : fields.values r ∈ keySets) {out : Outlet} (hf : c'.find? (fields.key r) = some out)
    (now : Instant) :
    Flows fields keySets id
      { x with
        routed := x.routed ++ [r]
        errands := (out.append now r).1.toList.map (fun e => .send e.1 e.2) ++ l
        sink := some (.keyed (c'.put (fields.key r) (out.append now r).2)) } := by
  obtain ⟨hout, hb⟩ := out.pipeline_append now r
  exact h.put hd hs hx rfl hc' hsame hv hf hout hb (by simp [Errand.unrouted])
    (out.pending_append now r)

end

end Lane

end LogPipeline
