import LogPipeline.Distributor
import LogPipeline.Output
import LogPipeline.Processor

/-!
# Pipelines

A pipeline has an input queue, an output, and workers between them: one processor that takes batches
from the input itself, or a distributor in front of several. A supervisor starts the output first,
then the workers; once the first worker has stopped it shuts the output down, and once that has
drained the pipeline has stopped. A pipeline that cannot be started drains its input, so that nobody
waits for it.

The parties of a pipeline act one step at a time, on the pipeline and on what all pipelines share.
-/

namespace LogPipeline

/-- What pipelines are made of. `collects` stands for pipelines that only report their batches.
Without `stages` no processor can be made, and without `output`, the room of an output's queue, no
output. -/
structure Blueprint where
  settings : PipelineSettings
  collects : Bool := false
  stages : Option Stages := none
  output : Option Nat := none
deriving Inhabited

namespace Blueprint

def worker (bp : Blueprint) : WorkerSettings := ⟨bp.settings.tickInterval, bp.settings.sendTimeout⟩

def processor (bp : Blueprint) (stages : Stages) (name : String) : Processor :=
  .new name stages bp.settings.processing bp.settings.sendTimeout

end Blueprint

/-- A batch that a collecting pipeline reports. -/
structure Collected where
  tag : String
  id : Nat
  keySet : List String
  batch : Batch
deriving DecidableEq, Repr, Inhabited

/-- What all pipelines share: the clock, what they are made of, the books, and the destination. -/
structure Ground where
  now : Instant := 0
  blueprint : Blueprint
  books : Books := {}
  destination : Destination
  collected : List Collected := []
deriving Inhabited

/-- A processor and the worker that runs it. -/
structure Member where
  worker : Worker
  processor : Processor
deriving Inhabited

/-- A member with a queue of its own. -/
structure Child where
  queue : Queue OrderedBatch
  member : Member
deriving Inhabited

/-- The workers behind an input queue. -/
inductive Crew where
  | alone (m : Member)
  | team (worker : Worker) (distributor : Distributor) (children : List Child)
deriving Inhabited

inductive PipelineStatus where
  | starting
  | collecting
  | draining
  | running
  | stopping
  | stopped
deriving DecidableEq, Repr, Inhabited

structure Pipeline where
  id : Nat
  tag : String
  keySet : List String
  input : Queue Batch
  status : PipelineStatus := .starting
  sequencer : Sequencer := {}
  crew : Option Crew := none
  output : Option Output := none
deriving Inhabited

/-- The parties of a pipeline. The root is the worker that takes batches from the input. -/
inductive Role where
  | supervisor
  | consumer
  | child (i : Nat)
  | root
deriving DecidableEq, Repr, Inhabited

/-! ## Members -/

namespace Member

def start (bp : Blueprint) (stages : Stages) (name : String) (now : Instant) : Member :=
  ⟨.spawn bp.worker now, bp.processor stages name⟩

def begin (now : Instant) (cb : Callback OrderedBatch) (worker : Worker) (m : Member) : Member :=
  match cb with
  | .input b deadline => ⟨worker, m.processor.receive b deadline⟩
  | .tick => ⟨worker, m.processor.tick now⟩
  | .stop => ⟨worker, m.processor.stop now⟩

/-- A member in a callback can go on. -/
def busyAble (now : Instant) (s : Sequencer) (o : Output) (m : Member) : Bool :=
  match m.processor.agenda with
  | .sending _ :: _ => o.queue.decides now m.processor.deadline
  | _ => !m.processor.isWaiting s

/-- What a member in a callback works on. -/
structure Place where
  member : Member
  sequencer : Sequencer
  output : Output
  books : Books

/-- The next step of a member in a callback. -/
def busyAct (now : Instant) (x : Place) : Place :=
  let p := x.member.processor
  match p.agenda with
  | [] => { x with member.worker := x.member.worker.finish }
  | .crash :: _ => { x with member.worker := x.member.worker.fail p.crashMessage }
  | .offer c :: _ =>
    if x.output.isAccepting then { x with member.processor := p.asking c }
    else { x with member.processor := p.handedOver, books := x.books.count Counters.chunkLost }
  | .sending c :: _ =>
    match x.output.trySend now p.deadline c x.books with
    | some (output, books) => { x with member.processor := p.handedOver, output, books }
    | none => x
  | _ =>
    let (p, sequencer, books) := p.act now x.sequencer x.books
    { x with member.processor := p, sequencer, books }

def due (m : Member) : List Instant :=
  if m.processor.isSending then [m.processor.deadline] else m.worker.due?.toList

/-- Steps that the callbacks of one worker may take beside what is queued for it. -/
def spare : Nat := 32

/-- How many steps of a member are left, at most. -/
def workload (m : Member) : Nat := m.processor.workload + spare

end Member

/-! ## Crews -/

namespace Crew

def start (bp : Blueprint) (stages : Stages) (tag : String) (now : Instant) : Crew :=
  if bp.settings.workers = 1 then .alone (.start bp stages (tag ++ "-processor") now)
  else
    let child := fun i : Nat =>
      Child.mk { capacity := bp.settings.queueCapacity }
        (.start bp stages (tag ++ "-processor-" ++ toString i) now)
    .team (.spawn bp.worker now)
      { limits := bp.settings.distributor
        sendTimeout := bp.settings.sendTimeout
        children := bp.settings.workers }
      ((List.range bp.settings.workers).map child)

/-- The worker that takes batches from the input. -/
def root : Crew → Worker
  | alone m => m.worker
  | team w _ _ => w

def members : Crew → List Member
  | alone m => [m]
  | team _ _ children => children.map Child.member

def isSending (c : Crew) : Bool := c.members.any (·.processor.isSending)

end Crew

/-! ## Pipelines -/

namespace Pipeline

/-- The pipeline has stopped, and its owner token has been let go of. -/
def isStopped (p : Pipeline) : Bool := p.status = .stopped

def isSending (p : Pipeline) : Bool := p.crew.any Crew.isSending

/-- The queue of the worker that the distributor sends to. -/
def currentQueue (d : Distributor) (children : List Child) : Option (Queue OrderedBatch) :=
  if d.children = 0 then none else children[d.current]?.map Child.queue

/-! ### The supervisor -/

/-- The supervisor can do something now. -/
def supervisorAble (p : Pipeline) : Bool :=
  match p.status with
  | .starting => true
  | .collecting | .draining => !p.input.items.isEmpty || p.input.isFinished
  | .running => p.crew.all (·.root.isStopped)
  | .stopping => p.output.all Output.isDrained
  | .stopped => false

def start (g : Ground) (p : Pipeline) : Pipeline :=
  if g.blueprint.collects then { p with status := .collecting }
  else
    match g.blueprint.output with
    | none => { p with status := .draining }
    | some capacity =>
      match Output.start p.tag p.id capacity g.blueprint.worker g.now g.destination with
      | .error _ => { p with status := .draining }
      | .ok o =>
        match g.blueprint.stages with
        | none => { p with status := .draining, output := some o }
        | some stages =>
          { p with
            status := .running
            output := some o
            crew := some (.start g.blueprint stages p.tag g.now) }

def windDown (p : Pipeline) : Pipeline :=
  match p.output with
  | none => { p with status := .stopped }
  | some o => { p with status := .stopping, output := some o.shutDown }

/-- The supervisor's next step. -/
def supervise (p : Pipeline) (g : Ground) : Pipeline × Ground :=
  match p.status with
  | .starting => (p.start g, g)
  | .collecting =>
    match p.input.pop? with
    | some (b, input) =>
      ({ p with input }, { g with collected := g.collected ++ [⟨p.tag, p.id, p.keySet, b⟩] })
    | none => (if p.input.isFinished then { p with status := .stopped } else p, g)
  | .draining =>
    match p.input.pop? with
    | some (b, input) => ({ p with input }, { g with books := g.books.lose b })
    | none => (if p.input.isFinished then p.windDown else p, g)
  | .running => (if p.crew.all (·.root.isStopped) then p.windDown else p, g)
  | .stopping => (if p.output.all Output.isDrained then { p with status := .stopped } else p, g)
  | .stopped => (p, g)

/-! ### The workers -/

/-- A member that can begin a callback on its queue, or go on with one. -/
def memberAble {α : Type} (now : Instant) (q : Queue α) (m : Member) (p : Pipeline) : Bool :=
  if m.worker.busy then p.output.any fun o => m.busyAble now p.sequencer o
  else m.worker.hasNext now (!q.isOpen) q

/-- A step of a member in a callback, and the member after it. -/
def memberAct (m : Member) (p : Pipeline) (g : Ground) : Member × Pipeline × Ground :=
  match p.output with
  | none => (m, p, g)
  | some o =>
    let x := Member.busyAct g.now ⟨m, p.sequencer, o, g.books⟩
    (x.member, { p with sequencer := x.sequencer, output := some x.output },
      { g with books := x.books })

/-- The distributor can do something now. -/
def distributorAble (now : Instant) (w : Worker) (d : Distributor) (children : List Child)
    (p : Pipeline) : Bool :=
  if w.busy then
    match d.agenda with
    | .offer _ :: _ => (currentQueue d children).all (·.decides now d.deadline)
    | .awaitChildren :: _ => children.all (·.member.worker.isStopped)
    | _ => true
  else w.hasNext now (!p.input.isOpen) p.input

/-- The distributor's next step. -/
def distribute (w : Worker) (d : Distributor) (children : List Child) (p : Pipeline) (g : Ground) :
    Pipeline × Ground :=
  let put := fun (w : Worker) (d : Distributor) (children : List Child) (p : Pipeline) =>
    { p with crew := some (.team w d children) }
  if w.busy then
    match d.agenda with
    | [] =>
      let w := w.finish
      (put w d children { p with input := w.leave p.input }, g)
    | .offer b :: _ =>
      match d.offer g.now (currentQueue d children) b p.sequencer g.books with
      | none => (p, g)
      | some x =>
        let children := match x.queue with
          | some queue => children.modify d.current ({ · with queue })
          | none => children
        (put w x.distributor children { p with sequencer := x.sequencer },
          { g with books := x.books })
    | .rotate :: _ => (put w d.rotate children p, g)
    | .closeChildren :: _ =>
      (put w d.letGo (children.map fun c => { c with queue := c.queue.close }) p, g)
    | .awaitChildren :: _ =>
      if children.all (·.member.worker.isStopped) then (put w d.next children p, g) else (p, g)
  else
    match w.next? g.now (!p.input.isOpen) p.input with
    | some (.input b deadline, w, input) =>
      let (d, sequencer) := d.receive g.now deadline b p.sequencer
      (put w d children { p with input, sequencer }, g)
    | some (.tick, w, input) => (put w (d.tick g.now) children { p with input }, g)
    | some (.stop, w, input) => (put w (d.stop g.now) children { p with input }, g)
    | none => (p, g)

/-- The next step of a member that takes batches from the input itself. -/
def processInput (m : Member) (p : Pipeline) (g : Ground) : Pipeline × Ground :=
  if m.worker.busy then
    let (m, p, g) := p.memberAct m g
    ({ p with crew := some (.alone m), input := m.worker.leave p.input }, g)
  else
    match m.worker.next? g.now (!p.input.isOpen) p.input with
    | some (.input b deadline, w, input) =>
      let cb := .input (.unordered b) deadline
      ({ p with input, crew := some (.alone (m.begin g.now cb w)) }, g)
    | some (.tick, w, input) => ({ p with input, crew := some (.alone (m.begin g.now .tick w)) }, g)
    | some (.stop, w, input) => ({ p with input, crew := some (.alone (m.begin g.now .stop w)) }, g)
    | none => (p, g)

/-- The next step of a member behind the distributor, and the member with its queue after it. -/
def processQueue (c : Child) (p : Pipeline) (g : Ground) : Child × Pipeline × Ground :=
  if c.member.worker.busy then
    let (member, p, g) := p.memberAct c.member g
    (⟨member.worker.leave c.queue, member⟩, p, g)
  else
    match c.member.worker.next? g.now (!c.queue.isOpen) c.queue with
    | some (cb, w, queue) => (⟨queue, c.member.begin g.now cb w⟩, p, g)
    | none => (c, p, g)

/-! ### All parties -/

/-- The party of the pipeline with number `i` can do something now. -/
def able (g : Ground) (i : Nat) (role : Role) (p : Pipeline) : Bool :=
  match role with
  | .supervisor => p.supervisorAble
  | .consumer => p.output.any (·.consumerAble g.now p.isSending i g.destination)
  | .root =>
    match p.crew with
    | some (.alone m) => p.memberAble g.now p.input m
    | some (.team w d children) => p.distributorAble g.now w d children
    | none => false
  | .child k =>
    match p.crew with
    | some (.team _ _ children) => children[k]?.any fun c => p.memberAble g.now c.queue c.member
    | _ => false

/-- The next step of a party of the pipeline with number `i`. -/
def act (i : Nat) (role : Role) (p : Pipeline) (g : Ground) : Pipeline × Ground :=
  match role with
  | .supervisor => p.supervise g
  | .consumer =>
    match p.output with
    | none => (p, g)
    | some o =>
      let (o, destination, books) := o.consume g.now p.isSending i g.destination g.books
      ({ p with output := some o }, { g with destination, books })
  | .root =>
    match p.crew with
    | some (.alone m) => p.processInput m g
    | some (.team w d children) => p.distribute w d children g
    | none => (p, g)
  | .child k =>
    match p.crew with
    | some (.team w d children) =>
      match children[k]? with
      | none => (p, g)
      | some c =>
        let (c, p, g) := p.processQueue c g
        ({ p with crew := some (.team w d (children.set k c)) }, g)
    | _ => (p, g)

/-- The parties of a pipeline made from a blueprint, in the order in which they start. -/
def roles (bp : Blueprint) : List Role :=
  if bp.settings.workers = 1 then [.supervisor, .consumer, .root]
  else [.supervisor, .consumer] ++ (List.range bp.settings.workers).map Role.child ++ [.root]

def due (p : Pipeline) : List Instant :=
  let workers := match p.crew with
    | some (.alone m) => m.due
    | some (.team w d children) =>
      (match d.agenda with
        | .offer _ :: _ => [d.deadline]
        | _ => w.due?.toList) ++ children.flatMap (·.member.due)
    | none => []
  workers ++ (p.output.map Output.due).getD []

/-- Steps that a batch leads to at most, from the input on. -/
def batchWeight (n : Nat) : Nat := 64 + 11 * n

/-- How many steps of all parties are left, at most, before the clock has to move. -/
def workload (bp : Blueprint) (p : Pipeline) : Nat :=
  let queued := total (fun b => batchWeight b.length) p.input.items
  let crew := match p.crew with
    | some (.alone m) => m.workload
    | some (.team _ d children) =>
      Member.spare + d.workload + total (fun c => c.member.workload +
        total (fun b => batchWeight b.records.length) c.queue.items) children
    | none => Member.spare * (bp.settings.workers + 1)
  queued + crew + (p.output.map Output.workload).getD 8 + 8

end Pipeline

end LogPipeline
