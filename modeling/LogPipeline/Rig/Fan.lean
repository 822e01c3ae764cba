import LogPipeline.Distributor
import LogPipeline.Schedule
import LogPipeline.Worker

/-!
# A distributor on its own

A distributor over workers that only note what reaches them. Each worker has a gate: for every batch
it takes one permit, and waits while there is none. A worker without a gate never waits.
-/

namespace LogPipeline

/-- What a worker behind the distributor notes. -/
inductive Sighting where
  | batch (run : Option Nat) (texts : List String) (isLast inTurn : Bool)
  | stopped
deriving DecidableEq, Repr, Inhabited

/-- A worker behind a gate, with the batch it holds. -/
structure GatedChild where
  queue : Queue OrderedBatch
  worker : Worker
  permits : Option Nat
  held : Option OrderedBatch := none
deriving Inhabited

def GatedChild.isOpen (c : GatedChild) : Bool := c.permits.all (0 < ·)

def GatedChild.able (now : Instant) (c : GatedChild) : Bool :=
  if c.held.isSome then c.isOpen
  else c.worker.busy || c.worker.hasNext now (!c.queue.isOpen) c.queue

def GatedChild.finish (c : GatedChild) : GatedChild :=
  let worker := c.worker.finish
  { c with worker, held := none, queue := worker.leave c.queue }

/-- A distributor over gated workers. `seen` is what was noted, by worker, and `calling` tells that
a callback of the distributor is under way. -/
structure Fan where
  distributor : Distributor
  children : List GatedChild
  sequencer : Sequencer := {}
  books : Books := {}
  now : Instant := 0
  seen : List (Nat × Sighting) := []
  calling : Bool := false
deriving Inhabited

namespace Fan

/-- How often the gated workers tick, which does nothing. -/
def gateTick : Nat := 3600000

/-- A distributor over `n` workers with room for `capacity` batches each. -/
def start (limits : RunLimits) (n capacity sendTimeout : Nat) (permits : List Nat)
    (books : Books) : Fan :=
  { books
    distributor := { limits, sendTimeout, children := n }
    children := (List.range n).map fun i =>
      { queue := { capacity }
        worker := .spawn ⟨gateTick, sendTimeout⟩ 0
        permits := permits[i]? } }

/-! ## The workers -/

def able (x : Fan) (i : Nat) : Bool := x.children[i]?.any (·.able x.now)

/-- The next step of a worker. A batch that has passed the gate is noted and dropped, and with it
its reference to the run. -/
def act (i : Nat) (x : Fan) : Fan :=
  match x.children[i]? with
  | none => x
  | some c =>
    let put := fun (x : Fan) (c : GatedChild) => { x with children := x.children.set i c }
    match c.held with
    | some b =>
      if c.isOpen then
        let inTurn := b.run.any x.sequencer.isTurn
        let x := { x with
          seen := x.seen ++ [(i, .batch b.run (b.records.map (·.field 0)) b.isLast inTurn)]
          sequencer := b.run.elim x.sequencer x.sequencer.release }
        put x ({ c with permits := c.permits.map (· - 1) }.finish)
      else x
    | none =>
      if c.worker.busy then put x c.finish
      else
        match c.worker.next? x.now (!c.queue.isOpen) c.queue with
        | some (.input b _, worker, queue) => put x { c with worker, queue, held := some b }
        | some (.tick, worker, queue) => put x { c with worker, queue }
        | some (.stop, worker, queue) =>
          put { x with seen := x.seen ++ [(i, .stopped)] } { c with worker, queue }
        | none => x

def permit (i n : Nat) (x : Fan) : Fan :=
  { x with children := x.children.modify i fun c => { c with permits := c.permits.map (· + n) } }

def takeSeen (x : Fan) : List (Nat × Sighting) × Fan := (x.seen, { x with seen := [] })

/-! ## The distributor -/

/-- A batch is handed to the distributor, to be sent within some time. -/
def batch (b : Batch) (timeout : Nat) (x : Fan) : Fan :=
  let (distributor, sequencer) := x.distributor.receive x.now (x.now + timeout) b x.sequencer
  { x with distributor, sequencer, calling := true }

def tick (x : Fan) : Fan := { x with distributor := x.distributor.tick x.now, calling := true }

def stop (x : Fan) : Fan := { x with distributor := x.distributor.stop x.now, calling := true }

def currentQueue (x : Fan) : Option (Queue OrderedBatch) :=
  if x.distributor.children = 0 then none
  else x.children[x.distributor.current]?.map GatedChild.queue

def callAble (x : Fan) : Bool :=
  x.calling &&
    match x.distributor.agenda with
    | .offer _ :: _ => x.currentQueue.all (·.decides x.now x.distributor.deadline)
    | .awaitChildren :: _ => x.children.all (·.worker.isStopped)
    | _ => true

def callAct (x : Fan) : Fan :=
  let d := x.distributor
  match d.agenda with
  | [] => { x with calling := false }
  | .offer b :: _ =>
    match d.offer x.now x.currentQueue b x.sequencer x.books with
    | none => x
    | some r =>
      let children := match r.queue with
        | some queue => x.children.modify d.current ({ · with queue })
        | none => x.children
      { x with children, distributor := r.distributor, sequencer := r.sequencer, books := r.books }
  | .rotate :: _ => { x with distributor := d.rotate }
  | .closeChildren :: _ =>
    { x with
      distributor := d.letGo
      children := x.children.map fun c => { c with queue := c.queue.close } }
  | .awaitChildren :: _ =>
    if x.children.all (·.worker.isStopped) then { x with distributor := d.next } else x

def machine : Machine Fan Nat where
  now := now
  setNow t x := { x with now := t }
  parties x := List.range x.children.length
  able := able
  act := act
  calling x := x.calling
  callAble := callAble
  callAct := callAct
  due x :=
    (match x.distributor.agenda with
      | .offer _ :: _ => [x.distributor.deadline]
      | _ => []) ++ x.children.flatMap (·.worker.due?.toList)
  workload x :=
    total (fun c => 4 * c.queue.items.length + 16) x.children + 4 * x.distributor.agenda.length + 8

end Fan

end LogPipeline
