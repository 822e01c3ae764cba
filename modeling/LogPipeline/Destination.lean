import LogPipeline.Chunk
import LogPipeline.Queue

/-!
# The destination of all outputs

Outputs send to one queue. An output that finds no room puts in a claim, and room is given out in
the order of the claims: an output without one comes after all of them, so nobody is overtaken.
-/

namespace LogPipeline

/-- A chunk and the pipeline it comes from. -/
structure TaggedChunk where
  tag : String
  id : Nat
  chunk : Chunk
deriving DecidableEq, Inhabited

/-- The shared queue, and the numbers of the outputs that wait for room in it, the longest wait
first. -/
structure Destination where
  queue : Queue TaggedChunk
  claims : List Nat := []
deriving Inhabited

/-- What came of offering a chunk. -/
inductive Reception where
  | taken
  | refused (reason : SendFailure)
  | waiting
deriving DecidableEq, Repr, Inhabited

namespace Destination

/-- There is room left for output `i` when all claims before its own are served. -/
def hasRoomFor (i : Nat) (d : Destination) : Bool :=
  d.queue.items.length + d.claims.idxOf i < d.queue.capacity

/-- An offer of output `i` under this deadline is decided now. -/
def decides (now deadline : Instant) (i : Nat) (d : Destination) : Bool :=
  !d.queue.isRead || d.hasRoomFor i || decide (deadline ≤ now)

/-- Something happens when output `i` makes its offer: it is decided, or leads to a claim. -/
def concerns (now deadline : Instant) (i : Nat) (d : Destination) : Bool :=
  !d.claims.contains i || d.decides now deadline i

def withdraw (i : Nat) (d : Destination) : Destination := { d with claims := d.claims.erase i }

def claim (i : Nat) (d : Destination) : Destination :=
  if d.claims.contains i then d else { d with claims := d.claims ++ [i] }

/-- Offers a chunk of output `i` at time `now` under a deadline. A closed queue wins over a full
one, and room wins over a deadline that has passed. -/
def offer (now deadline : Instant) (i : Nat) (t : TaggedChunk) (d : Destination) :
    Reception × Destination :=
  if !d.queue.isRead then (.refused .closed, d.withdraw i)
  else if d.hasRoomFor i then (.taken, { d.withdraw i with queue := d.queue.push t })
  else if deadline ≤ now then (.refused .timeout, d.withdraw i)
  else (.waiting, d.claim i)

/-- Takes up to `n` chunks, all if no number is given. -/
def take (n : Option Nat) (d : Destination) : List TaggedChunk × Destination :=
  let items := d.queue.items
  let n := n.getD items.length
  (items.take n, { d with queue.items := items.drop n })

end Destination

end LogPipeline
