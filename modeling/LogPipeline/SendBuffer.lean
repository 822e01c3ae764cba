import LogPipeline.Record
import LogPipeline.Settings
import LogPipeline.Text.Shown

/-!
# Send buffers

Records for one destination gather in a buffer and leave as one batch: once there are enough of them
or enough bytes, or once the oldest has waited long enough.
-/

namespace LogPipeline

/-- Records that wait to be sent, their bytes, and when the first of them came. -/
structure SendBuffer where
  key : String
  limits : BufferLimits
  pending : Batch := []
  pendingBytes : Nat := 0
  oldest : Option Instant := none
deriving DecidableEq, Repr, Inhabited

namespace SendBuffer

def isFull (b : SendBuffer) : Bool :=
  decide (b.limits.maxRecords ≤ b.pending.length) || decide (b.limits.maxBytes ≤ b.pendingBytes)

/-- One more record waits. -/
def push (now : Instant) (r : Record) (b : SendBuffer) : SendBuffer :=
  { b with
    pending := b.pending ++ [r]
    pendingBytes := b.pendingBytes + r.size
    oldest := if b.pending.isEmpty then some now else b.oldest }

def emptied (b : SendBuffer) : SendBuffer :=
  { b with pending := [], pendingBytes := 0, oldest := none }

/-- Takes what waits, to be sent as one batch, if anything does. -/
def flush (b : SendBuffer) : Option Batch × SendBuffer :=
  if b.pending.isEmpty then (none, b) else (some b.pending, b.emptied)

/-- Adds a record. A buffer that it fills is flushed. -/
def append (now : Instant) (r : Record) (b : SendBuffer) : Option Batch × SendBuffer :=
  let b := b.push now r
  if b.isFull then b.flush else (none, b)

def isStale (now : Instant) (b : SendBuffer) : Bool :=
  b.oldest.any fun t => decide (b.limits.flushInterval ≤ now - t)

/-- Flushes a buffer whose oldest record has waited for the flush interval. -/
def tick (now : Instant) (b : SendBuffer) : Option Batch × SendBuffer :=
  if b.isStale now then b.flush else (none, b)

def describe (b : SendBuffer) : String :=
  "ChannelBuffer \x7b key: " ++ Text.shown b.key ++
  ", pending: " ++ toString b.pending.length ++
  ", pending_bytes: " ++ toString b.pendingBytes ++ " \x7d"

end SendBuffer

end LogPipeline
