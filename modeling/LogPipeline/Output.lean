import LogPipeline.Books
import LogPipeline.Destination
import LogPipeline.Failure
import LogPipeline.Worker

/-!
# Outputs

The output of a pipeline is a queue of chunks and a consumer that forwards them, marked with the tag
and the number of the pipeline, to a destination that all pipelines share. An output that was shut
down accepts nothing more; its consumer stops once the queue is empty and no send to it is under
way.
-/

namespace LogPipeline

/-- A started output. The queue is open as long as the output accepts chunks. `held` is the chunk
that the consumer is forwarding, with its deadline. -/
structure Output where
  tag : String
  id : Nat
  queue : Queue Chunk
  consumer : Worker
  held : Option (Chunk × Instant) := none
deriving Inhabited

namespace Output

/-- Starts an output with room for at least one chunk. -/
def start (tag : String) (id capacity : Nat) (settings : WorkerSettings) (now : Instant)
    (destination : Destination) : Except OutputError Output :=
  if !destination.queue.isRead then .error .destinationClosed
  else
    let consumer := Worker.spawn settings now
    .ok { tag, id, consumer, queue := consumer.leave { capacity := max capacity 1 } }

def isAccepting (o : Output) : Bool := o.queue.isOpen

def shutDown (o : Output) : Output := { o with queue := o.queue.close }

def isDrained (o : Output) : Bool := o.consumer.isStopped

/-- Tries to send a chunk to the queue. A chunk that is taken counts as forwarded, one that is not
taken in time or at all as lost. Nothing comes of it while the queue is full and there is time. -/
def trySend (now deadline : Instant) (c : Chunk) (o : Output) (b : Books) :
    Option (Output × Books) :=
  match o.queue.trySend now deadline c with
  | .done q => some ({ o with queue := q }, b.count (Counters.forwarded c.data.size))
  | .failed reason => some (o, b.loseChunk (reason = .timeout))
  | .blocked => none

/-! ## The consumer -/

/-- Nobody may send to the queue any more. `sending` tells that a send is under way. -/
def isEnded (sending : Bool) (o : Output) : Bool := !o.queue.isOpen && !sending

/-- The consumer can do something now. The destination knows it by its number `i`. -/
def consumerAble (now : Instant) (sending : Bool) (i : Nat) (destination : Destination)
    (o : Output) : Bool :=
  match o.held with
  | some (_, deadline) => destination.concerns now deadline i
  | none => o.consumer.busy || o.consumer.hasNext now (o.isEnded sending) o.queue

def finish (o : Output) : Output :=
  let consumer := o.consumer.finish
  { o with consumer, held := none, queue := consumer.leave o.queue }

/-- The consumer's next step: it forwards the chunk it holds, or begins or ends a callback. Its
ticks and its stop do nothing. -/
def consume (now : Instant) (sending : Bool) (i : Nat) (destination : Destination) (o : Output)
    (b : Books) : Output × Destination × Books :=
  match o.held with
  | some (c, deadline) =>
    match destination.offer now deadline i ⟨o.tag, o.id, c⟩ with
    | (.taken, destination) => (o.finish, destination, b)
    | (.refused reason, destination) => (o.finish, destination, b.loseChunk (reason = .timeout))
    | (.waiting, destination) => (o, destination, b)
  | none =>
    if o.consumer.busy then (o.finish, destination, b)
    else
      match o.consumer.next? now (o.isEnded sending) o.queue with
      | some (.input c deadline, consumer, queue) =>
        ({ o with consumer, queue, held := some (c, deadline) }, destination, b)
      | some (_, consumer, queue) => ({ o with consumer, queue }, destination, b)
      | none => (o, destination, b)

/-- When the consumer will be called by the clock. -/
def due (o : Output) : List Instant :=
  o.held.toList.map (·.2) ++ o.consumer.due?.toList

/-- How many steps of the consumer are left, at most, before the clock has to move. -/
def workload (o : Output) : Nat := 4 * o.queue.items.length + 8

end Output

end LogPipeline
