import LogPipeline.Proofs.Dockets
import LogPipeline.Proofs.Inlets

/-!
# Depots

A depot is an orchestrator with its sinks in use all at once, before a shutdown, while one is waited
for, and after it. Who may still send decides when an input is closed. The router holds all inputs
open until it is shut. A sink on its own holds none, but a call on it that waits for room in an
input does so as long as it waits (`Visit.sender`); the input is closed once nobody is left
(`Turn.letGo`). Every move keeps the senders in order (`Depot.Sound.move`).
-/

namespace LogPipeline

open Relation

/-! ## Gates -/

/-- For each pipeline, whether its input is open. -/
def Plant.gates (x : Plant) : List Bool := x.pipelines.map (·.input.isOpen)

namespace Plant

variable {x x' : Plant} {i j : Nat} {b : Bool}

theorem getElem?_gates :
    x.gates[i]? = some b ↔ ∃ p, x.pipelines[i]? = some p ∧ p.input.isOpen = b := by
  simp [gates]

/-- Nobody inside a pipeline opens or closes its input. -/
theorem gates_step (hs : x.Step x') : x'.gates = x.gates := by
  cases hs with
  | @pipeline i role p p' g' hp hs =>
    obtain ⟨pre, post, hx, rfl⟩ := exists_seat hp
    simp only [gates, hx, set_seat, List.map_append, List.map_cons, Pipeline.isOpen_step hs]
  | rest => rfl

theorem gates_close (i j : Nat) (x : Plant) :
    (x.onInput i Queue.close).gates[j]? = if i = j then x.gates[j]?.map fun _ => false
      else x.gates[j]? := by
  simp only [gates, onInput, List.getElem?_map, List.getElem?_modify]
  split <;> cases x.pipelines[j]? <;> rfl

/-- Nothing happens to inputs that are closed already. -/
theorem close_eq (hx : ∀ p ∈ x.pipelines, p.input.isOpen = false) (i : Nat) :
    x.onInput i Queue.close = x := by
  have hmodify : x.pipelines.modify i (fun p => { p with input := p.input.close })
      = x.pipelines := by
    refine List.ext_getElem? fun j => ?_
    rw [List.getElem?_modify]
    rcases hp : x.pipelines[j]? with _ | p
    · simp
    · have hclosed := hx p (List.mem_of_getElem? hp)
      simp [Queue.close, ← hclosed]
  simp only [onInput, hmodify]

theorem gates_feed {p : Pipeline} {q : Queue Batch} (hp : x.pipelines[i]? = some p)
    (hq : q.isOpen = p.input.isOpen) : (x.onInput i fun _ => q).gates = x.gates := by
  refine List.ext_getElem? fun j => ?_
  simp only [gates, onInput, List.getElem?_map, List.getElem?_modify]
  split
  · rename_i hij
    subst hij
    simp [hp, hq]
  · cases x.pipelines[j]? <;> rfl

@[simp] theorem gates_launch (tag : String) (keySet : List String) (x : Plant) :
    (Orchestrator.launch tag keySet x).gates = x.gates ++ [true] := by
  simp [gates, Orchestrator.launch, launch, onBooks]

end Plant

/-! ## What calls do behind the sinks -/

/-- No record was processed, and no chunk came to an output. -/
structure Books.Unworked (b b' : Books) : Prop where
  filtered : b'.counters.recordsFiltered = b.counters.recordsFiltered
  serialized : b'.counters.recordsSerialized = b.counters.recordsSerialized
  forwarded : b'.counters.chunksForwarded = b.counters.chunksForwarded

namespace Books

theorem Unworked.refl (b : Books) : b.Unworked b := ⟨rfl, rfl, rfl⟩

theorem Unworked.trans {b b' b'' : Books} (h : b.Unworked b') (h' : b'.Unworked b'') :
    b.Unworked b'' :=
  ⟨h'.filtered.trans h.filtered, h'.serialized.trans h.serialized, h'.forwarded.trans h.forwarded⟩

theorem unworked_loseSend (timedOut : Bool) (l : Batch) (b : Books) :
    b.Unworked (b.loseSend timedOut l) := by
  cases timedOut <;> exact ⟨rfl, rfl, rfl⟩

end Books

/-- What a call on a sink does behind the sinks: it changes the books at most, or it brings a batch
into an open input, or it launches a pipeline. -/
inductive Plant.Served (x : Plant) : Router → List Batch → Plant → Router → Prop where
  | books {r : Router} (f : Books → Books) (hf : x.ground.books.Unworked (f x.ground.books))
      (hc : x.ground.books.Continues (f x.ground.books)) :
    Served x r [] (x.onBooks f) r
  | feed {r : Router} {i : Nat} {b : Batch} {p : Pipeline} {q : Queue Batch}
      (hp : x.pipelines[i]? = some p) (ho : p.input.isOpen = true) (hq : q.isOpen = true)
      (hi : q.items = p.input.items ++ [b]) :
    Served x r [b] (x.onInput i fun _ => q) r
  | launch {fields : KeyFields} {template : TagTemplate} {map : KeyMap PipelineEntry}
      {key : String} {v : PipelineEntry} (hd : map.destroyed = false) (hv : v.id = map.created)
      (tag : String) (keySet : List String) :
    Served x (.keyed fields template map) [] (Orchestrator.launch tag keySet x)
      (.keyed fields template { map with
        entries := map.entries ++ [(key, v)]
        created := map.created + 1
        live := map.live ++ [map.created] })

namespace Plant.Served

variable {x x' : Plant} {r r' : Router} {l : List Batch}

theorem refl (x : Plant) (r : Router) : x.Served r [] x r :=
  .books (fun b => b) (.refl _) (.refl _)

theorem lose (b : Batch) (x : Plant) (r : Router) : x.Served r [] (x.onBooks (·.lose b)) r :=
  .books _ ⟨rfl, rfl, rfl⟩ (Books.continues_lose _ _)

theorem unworked (h : x.Served r l x' r') : x.ground.books.Unworked x'.ground.books := by
  cases h with
  | books f hf => exact hf
  | feed => exact .refl _
  | launch => exact ⟨rfl, rfl, rfl⟩

theorem lost (h : x.Served r l x' r') :
    x.ground.books.counters.recordsLost ≤ x'.ground.books.counters.recordsLost := by
  cases h with
  | books f hf hc => exact hc.lost
  | feed => exact Nat.le_refl _
  | launch => exact Nat.le_refl _

theorem ground (h : x.Served r l x' r') : x'.ground.blueprint = x.ground.blueprint
    ∧ x'.ground.now = x.ground.now ∧ x'.ground.destination = x.ground.destination := by
  cases h <;> exact ⟨rfl, rfl, rfl⟩

theorem isOpen (h : x.Served r l x' r') : r'.isOpen = r.isOpen := by
  cases h <;> rfl

theorem load (h : x.Served r l x' r') : x'.load = x.load + total List.length l := by
  cases h with
  | books => rfl
  | @feed r i b p q hp ho hq hi =>
    have hload := load_onInput (f := fun _ => q) hp
    simp only [hi, total_append] at hload
    omega
  | launch =>
    simp only [Plant.load, Orchestrator.launch, Plant.launch, Plant.onBooks, total_append]
    rfl

/-- A pipeline is launched only while the router is open. -/
theorem gates (h : x.Served r l x' r') :
    x'.gates = x.gates ∨ r.isOpen = true ∧ x'.gates = x.gates ++ [true] := by
  cases h with
  | books => exact .inl rfl
  | feed hp ho hq hi => exact .inl (Plant.gates_feed hp (hq.trans ho.symm))
  | launch hd hv tag keySet =>
    exact .inr ⟨by simp [Router.isOpen, hd], Plant.gates_launch tag keySet x⟩

theorem fits (h : x.Served r l x' r') (hr : r.Fits x.pipelines)
    (hcreated : ∀ fields template map, r = .keyed fields template map →
      map.created = x.pipelines.length) : r'.Fits x'.pipelines := by
  cases h with
  | books => exact hr
  | feed => exact Orchestrator.fits_onInput hr _ _
  | launch hd hv => exact KeyMap.Fits.launch hr hd (hcreated _ _ _ rfl) rfl _ hv

theorem fitted (h : x.Served r l x' r')
    (hx : ∀ p ∈ x.pipelines, p.Fitted x.ground.blueprint) :
    ∀ p ∈ x'.pipelines, p.Fitted x'.ground.blueprint := by
  cases h with
  | books => exact hx
  | feed =>
    intro p hp
    obtain ⟨j, hj⟩ := List.getElem?_of_mem hp
    simp only [Plant.onInput, List.getElem?_modify] at hj
    obtain ⟨q, hq, rfl⟩ := Option.map_eq_some_iff.1 hj
    have hfit := hx q (List.mem_of_getElem? hq)
    split
    · exact ⟨hfit.crew, hfit.output⟩
    · exact hfit
  | launch =>
    intro p hp
    rcases List.mem_append.1 hp with hp | hp
    · exact hx p hp
    · rw [List.mem_singleton.1 hp]
      exact ⟨by simp, by simp⟩

/-- With every input closed, and no pipeline launched any more, the pipelines stay as they are. -/
theorem stays (h : x.Served r l x' r') (hr : r.isOpen = false)
    (hx : ∀ p ∈ x.pipelines, p.input.isOpen = false) : l = [] ∧ x'.pipelines = x.pipelines
      ∧ x.ground.books.Continues x'.ground.books := by
  cases h with
  | books f hf hc => exact ⟨rfl, rfl, hc⟩
  | feed hp ho => simp [hx _ (List.mem_of_getElem? hp)] at ho
  | launch hd => simp [Router.isOpen, hd] at hr

end Plant.Served

/-- What a call on a sink may have to do: it ends no shutdown, and sends no empty batch. -/
def Errand.OfSink : Errand → Prop
  | send _ b => b ≠ []
  | awaitStop _ => False
  | _ => True

namespace Orchestrator

variable {o : Orchestrator} {id : Nat} {r : Record}

/-- The send that the call under way is at, with what comes of it. -/
def sends? (o : Orchestrator) : Option (Nat × Batch × Plant.Fed) :=
  match o.errands with
  | .send i b :: _ => some (i, b, o.plant.send o.deadline i b)
  | _ => none

/-- The batch that the call brings into an input next, if any. -/
def entering (o : Orchestrator) : List Batch :=
  match o.sends? with
  | some (_, b, .done _) => [b]
  | _ => []

/-- The pipeline in whose input the call waits for room. -/
def waitsFor (o : Orchestrator) : Option Nat :=
  match o.sends? with
  | some (i, _, .blocked) => some i
  | _ => none

theorem served_route (o : Orchestrator) (id : Nat) (r : Record) :
    o.plant.Served o.router [] (o.route id r).plant (o.route id r).router := by
  have hlose : o.plant.Served o.router [] (o.onBooks (·.lose [r])).plant o.router :=
    .lose [r] _ _
  unfold Orchestrator.route
  split
  · exact .refl _ _
  · rename_i cache fields template map hs hr
    dsimp only
    split
    · exact hlose
    · rename_i out cache' map' hget
      rcases LocalCache.getOrCreate_cases hget with ⟨-, -, rfl⟩ | ⟨-, v, hm, -, -⟩
      · simp only [↓reduceIte, hr]
        exact .refl _ _
      · obtain ⟨hd, ⟨-, rfl⟩ | ⟨-, rfl, rfl⟩⟩ := KeyMap.getOrCreate_cases hm
        · simp only [↓reduceIte, hr]
          exact .refl _ _
        · simp only [Nat.succ_ne_self, ↓reduceIte, hr]
          exact .launch hd rfl _ _
  · exact hlose

theorem served_callAct (h : ∀ t ∈ o.errands, t.OfSink) :
    o.plant.Served o.router o.entering o.callAct.plant o.callAct.router
      ∧ o.callAct.stopped = o.stopped := by
  have hrest : o.plant.Served o.router [] o.plant o.router := .refl _ _
  rcases hl : o.errands with _ | ⟨t, l⟩
  · simp only [callAct, entering, sends?, hl]
    exact ⟨hrest, trivial⟩
  · cases t with
    | route id r =>
      simp only [callAct, entering, sends?, hl]
      refine ⟨o.served_route id r, ?_⟩
      unfold Orchestrator.route
      split
      · rfl
      · dsimp only
        split <;> rfl
      · rfl
    | tick id i now =>
      simp only [callAct, entering, sends?, hl]
      split
      · exact ⟨hrest, rfl⟩
      · exact ⟨hrest, rfl⟩
    | send i b =>
      simp only [callAct, entering, sends?, hl]
      rcases hsend : o.plant.send o.deadline i b with x | reason | -
      · obtain ⟨p, q, hp, ho, hq, hi, rfl⟩ := Plant.exists_of_send hsend
        exact ⟨.feed hp ho hq hi, rfl⟩
      · exact ⟨.books _ (Books.unworked_loseSend _ _ _) (Books.continues_loseSend _ _ _), rfl⟩
      · exact ⟨hrest, rfl⟩
    | awaitStop limit => exact (h (.awaitStop limit) (hl ▸ List.mem_cons_self)).elim

end Orchestrator

/-! ## Shutting down -/

namespace Router

/-- The pipelines whose inputs the router holds open. -/
def inputs : Router → List Nat
  | single _ => [0]
  | keyed _ _ map => map.entries.map (·.2.id)

/-- The router once it has given up all inputs. -/
def shut : Router → Router
  | single _ => single false
  | keyed fields template map => keyed fields template map.destroy.2

@[simp] theorem isOpen_shut (r : Router) : r.shut.isOpen = false := by
  cases r <;> rfl

theorem Fits.shut {r : Router} {ps : List Pipeline} (h : r.Fits ps) : r.shut.Fits ps := by
  cases r with
  | single => exact h
  | keyed fields template map =>
    obtain ⟨-, -, honce, hrunning⟩ : map.Fits ps := h
    exact ⟨by simp [KeyMap.destroy], by simp [KeyMap.destroy], honce, hrunning⟩

/-- An open router holds every input open. -/
theorem Fits.mem_inputs {r : Router} {ps : List Pipeline} (h : r.Fits ps) (ho : r.isOpen = true)
    {i : Nat} (hi : i < ps.length) : i ∈ r.inputs := by
  cases r with
  | single =>
    have hone : ps.length = 1 := h
    obtain rfl : i = 0 := by omega
    exact List.mem_singleton.2 rfl
  | keyed fields template map =>
    obtain ⟨e, he, hei⟩ := KeyMap.Fits.complete h (by simpa [isOpen] using ho) i hi
    exact List.mem_map.2 ⟨e, he, hei⟩

end Router

/-- While no sink is in use, shutting down closes at once every input that the router holds open. -/
theorem Orchestrator.shutDown_eq (o : Orchestrator) :
    o.shutDown = Orchestrator.begin [.awaitStop (o.now + patience)] { o with
      plant := o.router.inputs.foldl (fun x i => x.onInput i Queue.close) o.plant
      router := o.router.shut
      stopped := none } := by
  unfold Orchestrator.shutDown
  rcases hr : o.router with isOpen | ⟨fields, template, map⟩
  · rfl
  · simp only [Router.inputs, Router.shut, List.foldl_map]
    rfl

/-! ## Depots -/

/-- A call on a sink: what it has left to do, and by when. While it waits for room in the input of a
pipeline it has a sender of its own there. -/
structure Visit where
  sink : Nat
  errands : List Errand
  deadline : Instant
  sender : Option Nat := none

/-- An orchestrator with the calls on its sinks. `leaving` are the inputs that the router has given
up and that were not closed since. Noted are the batches that came into an input, how many records
were lost on the way there, and the chunks that came to the destination. -/
structure Depot where
  orchestrator : Orchestrator
  visits : List Visit := []
  leaving : List Nat := []
  entered : List Batch := []
  strayed : Nat := 0
  delivered : List TaggedChunk := []

/-- The orchestrator in the hands of a call. -/
def Orchestrator.lend (v : Visit) (o : Orchestrator) : Orchestrator :=
  { o with errands := v.errands, deadline := v.deadline }

namespace Depot

variable {d d' : Depot} {id i k : Nat}

def counters (d : Depot) : Counters := d.orchestrator.books.counters

def pipelines (d : Depot) : List Pipeline := d.orchestrator.plant.pipelines

/-- A shutdown was called. -/
def IsShut (d : Depot) : Prop := d.orchestrator.router.isOpen = false

/-- No call on the sink is under way. -/
def IsFree (id : Nat) (d : Depot) : Prop := ∀ v ∈ d.visits, v.sink = id → v.errands = []

instance (d : Depot) : Decidable d.IsShut := inferInstanceAs (Decidable (_ = _))

instance (id : Nat) (d : Depot) : Decidable (d.IsFree id) :=
  inferInstanceAs (Decidable (∀ v ∈ d.visits, v.sink = id → v.errands = []))

/-- The orchestrator is changed from outside the pipelines. -/
def change (o : Orchestrator) (d : Depot) : Depot :=
  { d with
    orchestrator := { o with errands := [] }
    strayed := d.strayed + (o.books.counters.recordsLost - d.counters.recordsLost) }

/-- A call on a sink begins. -/
def call (id : Nat) (o : Orchestrator) (d : Depot) : Depot :=
  { d.change o with visits := d.visits ++ [⟨id, o.errands, o.deadline, none⟩] }

/-- A call goes on, if it can. -/
def goOn (k : Nat) (d : Depot) : Depot :=
  match d.visits[k]? with
  | none => d
  | some v =>
    let o := d.orchestrator.lend v
    { d.change o.callAct with
      visits := d.visits.set k { v with errands := o.callAct.errands, sender := o.waitsFor }
      entered := d.entered ++ o.entering }

/-- A shutdown is called: the router gives up all inputs. -/
def shutDown (d : Depot) : Depot :=
  { d with
    orchestrator := { d.orchestrator with router := d.orchestrator.router.shut, stopped := none }
    leaving := d.leaving ++ d.orchestrator.router.inputs }

/-- An input that nobody holds open is closed. -/
def letGo (i : Nat) (d : Depot) : Depot :=
  { d with
    orchestrator := { d.orchestrator with plant := d.orchestrator.plant.onInput i Queue.close }
    leaving := d.leaving.filter (· != i) }

/-- The shutdown that is waited for returns, if every pipeline has stopped. It has no limit, and the
one of the errand is never up when it asks. -/
def comeBack (d : Depot) : Depot :=
  d.change (d.orchestrator.begin [.awaitStop (d.orchestrator.now + Orchestrator.patience)]).callAct

/-- A party acts, and what comes to the destination is noted. -/
def act (a : Actor) (d : Depot) : Depot :=
  { d with
    orchestrator := d.orchestrator.act a
    delivered := d.delivered ++ (Docket.waiting (d.orchestrator.act a)).drop
      (Docket.waiting d.orchestrator).length }

/-- What the users of an orchestrator can do, at any time: each calls a sink again once the call
before has returned. -/
inductive Call (d : Depot) : Depot → Prop where
  | addSink (id : Nat) (hf : d.IsFree id) : Call d (d.change (d.orchestrator.addSink id))
  | dropSink (id : Nat) (hf : d.IsFree id) : Call d (d.change (d.orchestrator.dropSink id))
  | accept (id : Nat) (l : Batch) (hf : d.IsFree id) :
    Call d (d.call id (d.orchestrator.accept id l))
  | tick (id : Nat) (hf : d.IsFree id) : Call d (d.call id (d.orchestrator.tick id))
  | close (id : Nat) (hf : d.IsFree id) : Call d (d.call id (d.orchestrator.close id))
  | shutDown : Call d d.shutDown

/-- What else happens: a call goes on or comes back, an input is closed that nobody holds open, a
party acts, time passes, or something happens to the destination. -/
inductive Turn (d : Depot) : Depot → Prop where
  | goOn (k : Nat) : Turn d (d.goOn k)
  | letGo (i : Nat) (hi : i ∈ d.leaving) (hv : ∀ v ∈ d.visits, v.sender ≠ some i) :
    Turn d (d.letGo i)
  | comeBack (hs : d.IsShut) : Turn d d.comeBack
  | act (a : Actor) : Turn d (d.act a)
  | tickEarly (a : Actor) :
    Turn d { d with orchestrator.plant := d.orchestrator.plant.tickEarly a }
  | setNow (t : Instant) : Turn d { d with orchestrator.plant := d.orchestrator.plant.setNow t }
  | receive (destination : Destination) :
    Turn d { d with orchestrator.plant.ground.destination := destination }

/-- Anything that happens. -/
def Move (d d' : Depot) : Prop := Call d d' ∨ Turn d d'

end Depot

/-! ## Senders -/

/-- A call that has a sender waits to send a batch there, to an input that is open. -/
structure Visit.Waits (x : Plant) (v : Visit) : Prop where
  sender : ∀ i, v.sender = some i → x.gates[i]? = some true ∧ ∃ b l, v.errands = .send i b :: l
  errands : ∀ t ∈ v.errands, t.OfSink

theorem Visit.Waits.of_gates {x x' : Plant} {v : Visit} (h : v.Waits x)
    (hx : ∀ i, v.sender = some i → x.gates[i]? = some true → x'.gates[i]? = some true) :
    v.Waits x' :=
  ⟨fun i hi => (h.sender i hi).imp_left (hx i hi), h.errands⟩

/-- The calls under way are not concerned by what one of them does. -/
theorem Visit.Waits.served {x x' : Plant} {r r' : Router} {v : Visit} (h : v.Waits x)
    (hx : x.Served r l x' r') : v.Waits x' := by
  refine h.of_gates fun i _ hi => ?_
  rcases hx.gates with heq | ⟨-, heq⟩
  · exact heq ▸ hi
  · rw [heq, List.getElem?_append_left (List.getElem?_eq_some_iff.1 hi).1, hi]

theorem Plant.isOpen_of_blocked {x : Plant} {deadline : Instant} {i : Nat} {b : Batch}
    (h : x.send deadline i b = .blocked) : x.gates[i]? = some true := by
  have hd := Plant.decides_of_send h
  unfold Plant.decides at hd
  rcases hp : x.pipelines[i]? with _ | p
  · simp [hp] at hd
  · rw [hp, Option.all_some, Bool.or_eq_false_iff] at hd
    exact getElem?_gates.2 ⟨p, hp, by simpa using hd.1⟩

namespace Orchestrator

variable {o : Orchestrator} {i : Nat}

/-- A send that waits for room is put off. -/
theorem waitsFor_eq (h : o.waitsFor = some i) :
    o.callAct = o ∧ o.plant.gates[i]? = some true ∧ ∃ b l, o.errands = .send i b :: l := by
  rcases hl : o.errands with _ | ⟨t, l⟩
  · simp [waitsFor, sends?, hl] at h
  · cases t with
    | send j b =>
      simp only [waitsFor, sends?, hl] at h
      rcases hsend : o.plant.send o.deadline j b with x | reason | -
      · simp [hsend] at h
      · simp [hsend] at h
      · obtain rfl : j = i := by simpa [hsend] using h
        exact ⟨by simp [callAct, hl, hsend], Plant.isOpen_of_blocked hsend, b, l, rfl⟩
    | _ => simp [waitsFor, sends?, hl] at h

/-- What a call has left to do is of the same kind as before. -/
theorem errands_callAct (h : ∀ t ∈ o.errands, t.OfSink) : ∀ t ∈ o.callAct.errands, t.OfSink := by
  have hnext : ∀ (o' : Orchestrator) (b : Option (Nat × Batch)), o'.errands = o.errands →
      (∀ e, b = some e → e.2 ≠ []) → ∀ t ∈ (o'.next b).errands, t.OfSink := by
    intro o' b ho hb t ht
    rcases List.mem_append.1 ht with ht | ht
    · obtain ⟨e, he, rfl⟩ := List.mem_map.1 ht
      exact hb e (Option.mem_toList.1 he)
    · exact h t (List.mem_of_mem_drop (ho ▸ ht))
  have hnone : ∀ e : Nat × Batch, none = some e → e.2 ≠ [] := by simp
  have hroute : ∀ id r, ∀ t ∈ (o.route id r).errands, t.OfSink := by
    intro id r
    unfold Orchestrator.route
    split
    · exact hnext _ _ rfl fun e => Outlet.ne_nil_of_append
    · dsimp only
      split
      · exact hnext _ _ rfl hnone
      · exact hnext _ _ rfl fun e => Outlet.ne_nil_of_append
    · exact hnext _ _ rfl hnone
  unfold callAct
  split
  · exact h
  · exact hroute _ _
  · split
    · exact hnext _ _ rfl hnone
    · exact hnext _ _ rfl fun e => Sink.ne_nil_of_tick
  · split
    · exact hnext _ _ rfl hnone
    · exact hnext _ _ rfl hnone
    · exact h
  · split
    · exact hnext _ _ rfl hnone
    · split
      · exact hnext _ _ rfl hnone
      · exact h

end Orchestrator

namespace Depot

variable {d d' : Depot} {id i k : Nat} {o : Orchestrator} {l : List Batch}

/-- What is always so. An input is open only as long as the router or a call holds it open, or as it
is about to be closed. -/
structure Sound (d : Depot) : Prop where
  orchestrator : d.orchestrator.Sound
  idle : d.orchestrator.errands = []
  fitted : ∀ p ∈ d.pipelines, p.Fitted d.orchestrator.plant.ground.blueprint
  router : d.orchestrator.router.Fits d.pipelines
  visits : ∀ v ∈ d.visits, v.Waits d.orchestrator.plant
  held : ∀ i, d.orchestrator.plant.gates[i]? = some true →
    d.orchestrator.router.isOpen = true ∨ i ∈ d.leaving
  halted : d.orchestrator.stopped = some true → d.IsShut

theorem Sound.created (h : d.Sound) : ∀ fields template map,
    d.orchestrator.router = .keyed fields template map → map.created = d.pipelines.length :=
  fun fields template map hr => (h.orchestrator.owned fields template map hr).1

theorem Sound.change (h : d.Sound) (ho : o.Sound) (hs : o.stopped = d.orchestrator.stopped)
    (hx : d.orchestrator.plant.Served d.orchestrator.router l o.plant o.router) {vs : List Visit}
    (hvs : ∀ v ∈ vs, v.Waits o.plant) (entered : List Batch) :
    Sound { d.change o with visits := vs, entered } := by
  refine ⟨⟨ho.plant, ho.ids, ho.sinks, ho.owned, ho.halted⟩, rfl, hx.fitted h.fitted,
    hx.fits h.router h.created, hvs, fun i hi => ?_, fun hstop => ?_⟩
  · have hi : o.plant.gates[i]? = some true := hi
    show o.router.isOpen = true ∨ i ∈ d.leaving
    rw [hx.isOpen]
    rcases hx.gates with heq | ⟨ho, -⟩
    · exact h.held i (heq ▸ hi)
    · exact .inl ho
  · exact hx.isOpen.trans (h.halted (hs.symm.trans hstop))

/-- A call that begins waits for nothing yet. -/
theorem Sound.call (h : d.Sound) (ho : o.Sound) (hs : o.stopped = d.orchestrator.stopped)
    (hx : d.orchestrator.plant.Served d.orchestrator.router [] o.plant o.router)
    (he : ∀ t ∈ o.errands, t.OfSink) (id : Nat) : (d.call id o).Sound := by
  refine h.change ho hs hx (fun v hv => ?_) d.entered
  rcases List.mem_append.1 hv with hv | hv
  · exact (h.visits v hv).served hx
  · rw [List.mem_singleton.1 hv]
    exact ⟨by simp, he⟩

theorem Sound.lend (h : d.Sound) (v : Visit) : (d.orchestrator.lend v).Sound :=
  ⟨h.orchestrator.plant, h.orchestrator.ids, h.orchestrator.sinks, h.orchestrator.owned,
    h.orchestrator.halted⟩

theorem Sound.goOn (h : d.Sound) (k : Nat) : (d.goOn k).Sound := by
  unfold Depot.goOn
  split
  · exact h
  · rename_i v hv
    have hwaits := h.visits v (List.mem_of_getElem? hv)
    obtain ⟨hx, hs⟩ := Orchestrator.served_callAct (o := d.orchestrator.lend v) hwaits.errands
    refine h.change (h.lend v).callAct.1 hs hx (fun u hu => ?_) _
    rcases List.mem_or_eq_of_mem_set hu with hu | rfl
    · exact (h.visits u hu).served hx
    · refine ⟨fun i hi => ?_, Orchestrator.errands_callAct hwaits.errands⟩
      obtain ⟨heq, hgate, hsend⟩ := Orchestrator.waitsFor_eq hi
      rw [heq]
      exact ⟨hgate, hsend⟩

theorem Sound.shutDown (h : d.Sound) : d.shutDown.Sound := by
  refine ⟨⟨h.orchestrator.plant, h.orchestrator.ids, h.orchestrator.sinks, ?_, ?_⟩, h.idle,
    h.fitted, h.router.shut, h.visits, fun i hi => ?_, fun hs => ?_⟩
  · intro fields template map hr
    rcases hold : d.orchestrator.router with isOpen | ⟨fields', template', map'⟩
    · simp [Depot.shutDown, hold, Router.shut] at hr
    · obtain ⟨-, -, rfl⟩ := by simpa [Depot.shutDown, hold, Router.shut] using hr
      have howned := h.orchestrator.owned _ _ map' hold
      exact howned
  · simp [Depot.shutDown]
  · refine .inr (List.mem_append.2 ?_)
    rcases h.held i hi with ho | hi'
    · obtain ⟨p, hp, -⟩ := Plant.getElem?_gates.1 hi
      exact .inr (h.router.mem_inputs ho (List.getElem?_eq_some_iff.1 hp).1)
    · exact .inl hi'
  · simp [Depot.shutDown] at hs

theorem Sound.letGo (h : d.Sound) (hv : ∀ v ∈ d.visits, v.sender ≠ some i) :
    (d.letGo i).Sound := by
  have hgates := fun j => Plant.gates_close i j d.orchestrator.plant
  obtain ⟨h1, h2, h3, h4, h5⟩ := h.orchestrator
  have hf := Plant.follows_onInput i Queue.close d.orchestrator.plant
  refine ⟨⟨h1.close i, h2, h3, fun fields template map hr => ?_, fun hs =>
    ⟨hf.isStopped (h5 hs).1, (h5 hs).2⟩⟩, h.idle, fun p hp => ?_,
    Orchestrator.fits_onInput h.router _ _, fun v hmem => ?_, fun j hj => ?_, h.halted⟩
  · obtain ⟨hcreated, hlive⟩ := h4 _ _ _ hr
    refine ⟨hcreated.trans hf.1.symm, fun j p hp hs => ?_⟩
    obtain ⟨q, hq, hqs⟩ := hf.2 j p hp hs
    exact hlive j q hq hqs
  · obtain ⟨j, hj⟩ := List.getElem?_of_mem hp
    simp only [pipelines, Depot.letGo, Plant.onInput, List.getElem?_modify] at hj
    obtain ⟨q, hq, rfl⟩ := Option.map_eq_some_iff.1 hj
    have hfit := h.fitted q (List.mem_of_getElem? hq)
    split
    · exact ⟨hfit.crew, hfit.output⟩
    · exact hfit
  · refine (h.visits v hmem).of_gates fun j hj hgate => ?_
    have hij : i ≠ j := fun hij => hv v hmem (hij ▸ hj)
    rw [Depot.letGo, hgates, if_neg hij, hgate]
  · rw [Depot.letGo, hgates] at hj
    have hij : i ≠ j := by
      rintro rfl
      simp at hj
    rw [if_neg hij] at hj
    exact (h.held j hj).imp_right fun hmem => List.mem_filter.2 ⟨hmem, by simp [Ne.symm hij]⟩

theorem comeBack_eq (d : Depot) :
    d.comeBack = { d with orchestrator := { d.orchestrator with
      errands := []
      deadline := d.orchestrator.now + d.orchestrator.settings.sendTimeout
      stopped := if d.orchestrator.isQuiet then some true else d.orchestrator.stopped } } := by
  have hlate : ¬d.orchestrator.now + Orchestrator.patience ≤ d.orchestrator.now := by
    simp [Orchestrator.patience]
  have hquiet : ∀ l, (d.orchestrator.begin l).isQuiet = d.orchestrator.isQuiet := fun l => rfl
  have hnow : ∀ l, (d.orchestrator.begin l).now = d.orchestrator.now := fun l => rfl
  simp only [Depot.comeBack, Orchestrator.callAct, hquiet, hnow]
  by_cases hq : d.orchestrator.isQuiet = true
  · simp [hq, Depot.change, counters, Orchestrator.begin, Orchestrator.next, Orchestrator.books]
  · simp [hq, hlate, Depot.change, counters, Orchestrator.begin, Orchestrator.books]

theorem Sound.comeBack (h : d.Sound) (hs : d.IsShut) : d.comeBack.Sound := by
  obtain ⟨h1, h2, h3, h4, h5⟩ := (h.orchestrator.begin
    [.awaitStop (d.orchestrator.now + Orchestrator.patience)]).callAct.1
  have hsound : d.comeBack.orchestrator.Sound := ⟨h1, h2, h3, h4, h5⟩
  rw [comeBack_eq] at hsound ⊢
  exact ⟨hsound, rfl, h.fitted, h.router, h.visits, h.held, fun _ => hs⟩

/-! ## Parties -/

/-- The pipelines go on, and the router knows. -/
theorem Sound.ofStep (h : d.Sound) {x : Plant} {r : Router} (hs : d.orchestrator.plant.Step x)
    (ho : Orchestrator.Sound { d.orchestrator with plant := x, router := r })
    (hr : r.Fits x.pipelines) (hopen : r.isOpen = d.orchestrator.router.isOpen)
    (delivered : List TaggedChunk) :
    Sound { d with
      orchestrator := { d.orchestrator with plant := x, router := r }
      delivered } := by
  have hgates := Plant.gates_step hs
  refine ⟨ho, h.idle, fun p hp => ?_, hr, fun v hv => ?_, fun i hi => ?_, fun hstop => ?_⟩
  · have hfitted := h.fitted
    unfold pipelines at hfitted hp
    cases hs with
    | pipeline hq hstep =>
      rw [Pipeline.blueprint_step hstep]
      rcases List.mem_or_eq_of_mem_set hp with hp | rfl
      · exact hfitted p hp
      · exact (hfitted _ (List.mem_of_getElem? hq)).step hstep
    | rest => exact hfitted p hp
  · exact (h.visits v hv).of_gates fun i _ hi => hgates ▸ hi
  · show r.isOpen = true ∨ i ∈ d.leaving
    rw [hopen]
    exact h.held i (hgates ▸ hi)
  · exact hopen.trans (h.halted hstop)

theorem Sound.act (h : d.Sound) (a : Actor) : (d.act a).Sound :=
  h.ofStep (h.orchestrator.plant.step_act a) (h.orchestrator.act a).1
    (Orchestrator.fits_act h.router a) (Orchestrator.router_act d.orchestrator a).1 _

theorem Sound.tickEarly (h : d.Sound) (a : Actor) :
    Sound { d with orchestrator.plant := d.orchestrator.plant.tickEarly a } :=
  h.ofStep (Plant.step_tickEarly a) (h.orchestrator.ofStep (Plant.step_tickEarly a) (.inl rfl)).1
    (Orchestrator.fits_tickEarly h.router a) rfl _

/-- Neither the clock nor the destination is known to the senders. -/
theorem Sound.elsewhere (h : d.Sound) (now : Instant) (destination : Destination) :
    Sound { d with orchestrator.plant := { d.orchestrator.plant with
      ground := { d.orchestrator.plant.ground with now, destination } } } := by
  obtain ⟨⟨h1, h2, h3⟩, h4, h5, h6, h7⟩ := h.orchestrator
  exact ⟨⟨⟨h1, h2, h3⟩, h4, h5, h6, h7⟩, h.idle, h.fitted, h.router,
    fun v hv => ⟨(h.visits v hv).sender, (h.visits v hv).errands⟩, h.held, h.halted⟩

/-! ## Moves -/

theorem Sound.turn (h : d.Sound) (ht : Turn d d') : d'.Sound := by
  cases ht with
  | goOn k => exact h.goOn k
  | letGo i hi hv => exact h.letGo hv
  | comeBack hs => exact h.comeBack hs
  | act a => exact h.act a
  | tickEarly a => exact h.tickEarly a
  | setNow t => exact h.elsewhere t _
  | receive destination => exact h.elsewhere _ destination

theorem served_dropSink (o : Orchestrator) (id : Nat) :
    o.plant.Served o.router [] (o.dropSink id).plant (o.dropSink id).router :=
  .lose _ _ _

theorem served_accept (o : Orchestrator) (id : Nat) (l : Batch) :
    o.plant.Served o.router [] (o.accept id l).plant (o.accept id l).router :=
  .books _ ⟨rfl, rfl, rfl⟩ ⟨rfl, Nat.le_refl _⟩

theorem served_close (o : Orchestrator) (id : Nat) :
    o.plant.Served o.router [] (o.close id).plant (o.close id).router := by
  unfold Orchestrator.close
  split <;> exact .refl _ _

theorem Sound.ofCall (h : d.Sound) (hc : Call d d') : d'.Sound := by
  have hvisits : ∀ {o : Orchestrator}, d.orchestrator.plant.Served d.orchestrator.router [] o.plant
      o.router → ∀ v ∈ d.visits, v.Waits o.plant := fun hx v hv => (h.visits v hv).served hx
  cases hc with
  | addSink id hf =>
    have hx : d.orchestrator.plant.Served d.orchestrator.router []
      (d.orchestrator.addSink id).plant (d.orchestrator.addSink id).router :=
      served_dropSink d.orchestrator id
    exact h.change (h.orchestrator.addSink id).1 rfl hx (hvisits hx) d.entered
  | dropSink id hf =>
    have hx := served_dropSink d.orchestrator id
    exact h.change (h.orchestrator.dropSink id).1 rfl hx (hvisits hx) d.entered
  | accept id l hf =>
    refine h.call ((h.orchestrator.onBooks _).begin _) rfl (served_accept d.orchestrator id l)
      (fun t ht => ?_) id
    obtain ⟨r, -, rfl⟩ := List.mem_map.1 ht
    exact trivial
  | tick id hf =>
    refine h.call (h.orchestrator.begin _) rfl (.refl _ _) (fun t ht => ?_) id
    obtain ⟨j, -, rfl⟩ := List.mem_map.1 ht
    exact trivial
  | close id hf =>
    refine h.call (h.orchestrator.close h.idle id).1 ?_ (served_close d.orchestrator id) ?_ id
    · unfold Orchestrator.close
      split <;> rfl
    · unfold Orchestrator.close
      split
      · simp [Orchestrator.begin]
      · intro t ht
        obtain ⟨e, he, rfl⟩ := List.mem_map.1 ht
        exact Sink.ne_nil_of_mem_batches he
  | shutDown => exact h.shutDown

theorem Sound.move (h : d.Sound) (hm : Move d d') : d'.Sound :=
  hm.elim h.ofCall h.turn

/-- What a move comes to behind the sinks. -/
inductive Effect (d d' : Depot) : Prop where
  | served {l : List Batch}
      (hx : d.orchestrator.plant.Served d.orchestrator.router l d'.orchestrator.plant
        d'.orchestrator.router)
      (he : d'.entered = d.entered ++ l) (hn : d'.delivered = d.delivered)
  | step (hs : d.orchestrator.plant.Step d'.orchestrator.plant) (he : d'.entered = d.entered)
      (hn : Docket.waiting d'.orchestrator = Docket.waiting d.orchestrator →
        d'.delivered = d.delivered)
  | closed (i : Nat) (hp : d'.orchestrator.plant = d.orchestrator.plant.onInput i Queue.close)
      (he : d'.entered = d.entered) (hn : d'.delivered = d.delivered)
  | kept (hp : d'.pipelines = d.pipelines) (hb : d'.orchestrator.books = d.orchestrator.books)
      (he : d'.entered = d.entered) (hn : d'.delivered = d.delivered)

theorem effect_call (hc : Call d d') : d.Effect d' := by
  cases hc with
  | addSink id | dropSink id =>
    exact .served (served_dropSink d.orchestrator id) (List.append_nil _).symm rfl
  | accept id l => exact .served (served_accept d.orchestrator id l) (List.append_nil _).symm rfl
  | close id => exact .served (served_close d.orchestrator id) (List.append_nil _).symm rfl
  | tick | shutDown => exact .kept rfl rfl rfl rfl

theorem Sound.effect (h : d.Sound) (hm : Move d d') : d.Effect d' := by
  rcases hm with hc | ht
  · exact effect_call hc
  · cases ht with
    | goOn k =>
      unfold Depot.goOn
      split
      · exact .kept rfl rfl rfl rfl
      · rename_i v hv
        have hx := (Orchestrator.served_callAct (o := d.orchestrator.lend v)
          (h.visits v (List.mem_of_getElem? hv)).errands).1
        exact .served hx rfl rfl
    | letGo i => exact .closed i rfl rfl rfl
    | comeBack =>
      rw [comeBack_eq]
      exact .kept rfl rfl rfl rfl
    | act a =>
      refine .step (h.orchestrator.plant.step_act a) rfl fun hwaiting => ?_
      have hwaiting : Docket.waiting (d.orchestrator.act a) = Docket.waiting d.orchestrator :=
        hwaiting
      simp [Depot.act, hwaiting]
    | tickEarly a => exact .step (Plant.step_tickEarly a) rfl fun _ => rfl
    | setNow | receive => exact .kept rfl rfl rfl rfl

end Depot

end LogPipeline
