import LogPipeline.Counters
import LogPipeline.RecordPool

/-!
# The shared books

Every stage shares one set of counters and one record pool. A record that leaves a pipeline is
counted and given back in one entry, so no way out can do one without the other.
-/

namespace LogPipeline

/-- The counters and the pool that all stages of one plant share. -/
structure Books where
  counters : Counters := {}
  pool : RecordPool := RecordPool.new 1024
deriving DecidableEq, Repr, Inhabited

namespace Books

def count (f : Counters → Counters) (b : Books) : Books := { b with counters := f b.counters }

/-- The records of a batch are given up: counted lost and given back. -/
def lose (records : Batch) (b : Books) : Books :=
  { counters := b.counters.lost records.length, pool := b.pool.releaseAll records }

/-- A batch could not be sent: `timedOut` tells a send that found no room in time from one whose
queue was closed. -/
def loseSend (timedOut : Bool) (records : Batch) (b : Books) : Books :=
  (if timedOut then b.count Counters.timedOut else b).lose records

def loseChunk (timedOut : Bool) (b : Books) : Books :=
  (if timedOut then b.count Counters.timedOut else b).count Counters.chunkLost

end Books

end LogPipeline
