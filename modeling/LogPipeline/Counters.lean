/-!
# Counters of a pipeline

What came in, what left and on which way. Totals are kept exactly; a reader sees them as words of
64 bits, so a total of `2 ^ 64` reads as zero.
-/

namespace LogPipeline

/-- The totals of one orchestrator, or of one stage on its own. -/
structure Counters where
  recordsIn : Nat := 0
  recordsFiltered : Nat := 0
  recordsLost : Nat := 0
  recordsSerialized : Nat := 0
  chunksForwarded : Nat := 0
  chunkBytes : Nat := 0
  chunksLost : Nat := 0
  sendTimeouts : Nat := 0
  pipelinesLaunched : Nat := 0
deriving DecidableEq, Repr, Inhabited

namespace Counters

/-- `n` records were handed to a sink. -/
def entered (n : Nat) (c : Counters) : Counters := { c with recordsIn := c.recordsIn + n }

def filtered (c : Counters) : Counters := { c with recordsFiltered := c.recordsFiltered + 1 }

/-- `n` records left without having been written. -/
def lost (n : Nat) (c : Counters) : Counters := { c with recordsLost := c.recordsLost + n }

def serialized (c : Counters) : Counters := { c with recordsSerialized := c.recordsSerialized + 1 }

/-- The output took a chunk of `bytes` bytes. -/
def forwarded (bytes : Nat) (c : Counters) : Counters :=
  { c with chunksForwarded := c.chunksForwarded + 1, chunkBytes := c.chunkBytes + bytes }

def chunkLost (c : Counters) : Counters := { c with chunksLost := c.chunksLost + 1 }

def timedOut (c : Counters) : Counters := { c with sendTimeouts := c.sendTimeouts + 1 }

def launched (c : Counters) : Counters := { c with pipelinesLaunched := c.pipelinesLaunched + 1 }

/-- Records that have left, on whichever way. -/
def recordsAccounted (c : Counters) : Nat :=
  c.recordsFiltered + c.recordsLost + c.recordsSerialized

/-- The readings, each under its name, as 64-bit words. -/
def readings (c : Counters) : List (String × UInt64) :=
  [("records_in", .ofNat c.recordsIn),
   ("records_filtered", .ofNat c.recordsFiltered),
   ("records_lost", .ofNat c.recordsLost),
   ("records_serialized", .ofNat c.recordsSerialized),
   ("chunks_forwarded", .ofNat c.chunksForwarded),
   ("chunk_bytes", .ofNat c.chunkBytes),
   ("chunks_lost", .ofNat c.chunksLost),
   ("send_timeouts", .ofNat c.sendTimeouts),
   ("pipelines_launched", .ofNat c.pipelinesLaunched),
   ("records_accounted", .ofNat c.recordsAccounted)]

end Counters

end LogPipeline
