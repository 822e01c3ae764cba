import LogPipeline.Books
import LogPipeline.Queue
import LogPipeline.Sequencer
import LogPipeline.Settings

/-!
# The distributor

Batches go to the same worker until the run that they form is large enough; the batch that makes it
so is marked as its last, and the next batch opens a run on the next worker. A run that has been
open for long is ended by an empty batch. Each run has a ticket, of which every batch of the run
carries a reference. A batch that cannot be sent is lost, and its reference with it.
-/

namespace LogPipeline

/-- The run being filled. -/
structure OpenRun where
  run : Nat
  records : Nat
  bytes : Nat
  opened : Instant
deriving DecidableEq, Repr, Inhabited

/-- One thing that a distributor has to do. -/
inductive Delivery where
  | offer (b : OrderedBatch)
  | rotate
  | closeChildren
  | awaitChildren
deriving DecidableEq, Repr, Inhabited

/-- Steps that an agenda item leads to at most. A batch that is sent is yet to be processed. -/
def Delivery.weight : Delivery → Nat
  | offer b => 20 + 11 * b.records.length
  | rotate => 1
  | closeChildren => 1
  | awaitChildren => 1

/-- A distributor over `children` workers, the next batch going to number `current`. What a callback
still has to do is its agenda. -/
structure Distributor where
  limits : RunLimits
  sendTimeout : Nat
  children : Nat
  current : Nat := 0
  openRun : Option OpenRun := none
  agenda : List Delivery := []
  deadline : Instant := 0
deriving DecidableEq, Repr, Inhabited

namespace Distributor

/-! ## Callbacks -/

/-- The open run, or a new one with a ticket of its own. -/
def runFor (now : Instant) (d : Distributor) (s : Sequencer) : OpenRun × Sequencer :=
  match d.openRun with
  | some r => (r, s)
  | none =>
    let (n, s) := s.issue
    (⟨n, 0, 0, now⟩, s)

def isFull (d : Distributor) (r : OpenRun) : Bool :=
  decide (d.limits.maxRecords ≤ r.records) || decide (d.limits.maxBytes ≤ r.bytes)

/-- A batch is to be sent under a deadline. An empty one is passed over. The reference of a run that
this ends goes with the batch. -/
def receive (now deadline : Instant) (b : Batch) (d : Distributor) (s : Sequencer) :
    Distributor × Sequencer :=
  if b.isEmpty then ({ d with deadline, agenda := [] }, s)
  else
    let (r, s) := d.runFor now s
    let r := { r with records := r.records + b.length, bytes := r.bytes + b.bytes }
    if d.isFull r then
      ({ d with deadline, openRun := none, agenda := [.offer ⟨b, some r.run, true⟩, .rotate] }, s)
    else
      ({ d with deadline, openRun := some r, agenda := [.offer ⟨b, some r.run, false⟩] },
        s.share r.run)

/-- What ends the open run: an empty last batch, with the reference that was kept. -/
def closing (d : Distributor) : List Delivery :=
  match d.openRun with
  | some r => [.offer ⟨[], some r.run, true⟩, .rotate]
  | none => []

def isStale (now : Instant) (d : Distributor) : Bool :=
  d.openRun.any fun r => decide (d.limits.flushInterval ≤ now - r.opened)

def tick (now : Instant) (d : Distributor) : Distributor :=
  let deadline := now + d.sendTimeout
  if d.isStale now then { d with deadline, agenda := d.closing, openRun := none }
  else { d with deadline, agenda := [] }

/-- The end, at time `now`: the open run is ended, then the workers. -/
def stop (now : Instant) (d : Distributor) : Distributor :=
  { d with
    deadline := now + d.sendTimeout
    openRun := none
    agenda := d.closing ++ [.closeChildren, .awaitChildren] }

/-! ## Deliveries -/

def next (d : Distributor) : Distributor := { d with agenda := d.agenda.drop 1 }

/-- The next run goes to the next worker. -/
def rotate (d : Distributor) : Distributor :=
  { d with current := if d.children = 0 then d.current else (d.current + 1) % d.children }.next

/-- The workers are no longer there to be sent to. -/
def letGo (d : Distributor) : Distributor := { d with children := 0 }.next

/-- A batch could not be sent. Its records and its reference are given up. -/
def loseBatch (timedOut : Bool) (b : OrderedBatch) (s : Sequencer) (books : Books) :
    Sequencer × Books :=
  (b.run.elim s s.release, books.loseSend timedOut b.records)

/-- What came of offering a batch. -/
structure Offered where
  distributor : Distributor
  queue : Option (Queue OrderedBatch)
  sequencer : Sequencer
  books : Books

/-- Offers a batch to the queue of the current worker, if there is one; nothing comes of it while
the queue is full and there is time. -/
def offer (now : Instant) (q : Option (Queue OrderedBatch)) (b : OrderedBatch) (d : Distributor)
    (s : Sequencer) (books : Books) : Option Offered :=
  match q with
  | none =>
    let (s, books) := loseBatch false b s books
    some ⟨d.next, none, s, books⟩
  | some q =>
    match q.trySend now d.deadline b with
    | .done q => some ⟨d.next, some q, s, books⟩
    | .failed reason =>
      let (s, books) := loseBatch (reason = .timeout) b s books
      some ⟨d.next, some q, s, books⟩
    | .blocked => none

/-- How many steps are left, at most, without further callbacks. -/
def workload (d : Distributor) : Nat :=
  total Delivery.weight d.agenda + (if d.openRun.isSome then 21 else 0)

end Distributor

end LogPipeline
