import LogPipeline.Books
import LogPipeline.Queue
import LogPipeline.SendBuffer

/-!
# Send buffers on their own

Named buffers that send to one queue, which nobody empties while a send waits: a send that finds no
room waits until its deadline, and the clock with it.
-/

namespace LogPipeline

/-- Buffers in front of a queue of batches. -/
structure Buffers where
  queue : Queue Batch
  buffers : List (String × SendBuffer)
  books : Books := {}
  now : Instant := 0
deriving Inhabited

namespace Buffers

def deliver (deadline : Instant) (b : Batch) (x : Buffers) : Bool × Buffers :=
  if !x.queue.isOpen then (false, { x with books := x.books.loseSend false b })
  else
    match x.queue.trySend x.now deadline b with
    | .done queue => (true, { x with queue })
    | .failed reason => (false, { x with books := x.books.loseSend (reason = .timeout) b })
    | .blocked => (false, { x with now := deadline, books := x.books.loseSend true b })

def find? (name : String) (x : Buffers) : Option SendBuffer :=
  (x.buffers.find? (·.1 == name)).map (·.2)

/-- Replaces a buffer, and sends the batch that came out of it. Nothing to send counts as sent. -/
def put (name : String) (deadline : Instant) (r : Option Batch × SendBuffer) (x : Buffers) :
    Bool × Buffers :=
  let x := { x with buffers := x.buffers.map fun e => if e.1 == name then (name, r.2) else e }
  match r.1 with
  | none => (true, x)
  | some b => x.deliver deadline b

/-- Appends records to a buffer one by one. The send that a record leads to may take `timeout`. -/
def append (name : String) (timeout : Nat) : Batch → Buffers → Buffers
  | [], x => x
  | r :: rest, x =>
    match x.find? name with
    | none => x
    | some b => append name timeout rest (x.put name (x.now + timeout) (b.append x.now r)).2

def flush (name : String) (deadline : Instant) (x : Buffers) : Bool × Buffers :=
  match x.find? name with
  | none => (true, x)
  | some b => x.put name deadline b.flush

def tick (name : String) (deadline : Instant) (x : Buffers) : Buffers :=
  match x.find? name with
  | none => x
  | some b => (x.put name deadline (b.tick x.now)).2

def drop (name : String) (x : Buffers) : Buffers :=
  let lost := ((x.find? name).map SendBuffer.pending).getD []
  { x with books := x.books.lose lost, buffers := x.buffers.filter (·.1 != name) }

end Buffers

end LogPipeline
