import LogPipeline.Record
import LogPipeline.Failure

/-!
# Settings of a pipeline

Limits, intervals and capacities, with their defaults and what is asked of them. Times are in
milliseconds. A check goes through the settings in a fixed order and reports the first fault.
-/

namespace LogPipeline

/-- When a sink's buffer is sent off: at either threshold, or once its oldest record has waited. -/
structure BufferLimits where
  maxRecords : Nat := 1000
  maxBytes : Nat := 1048576
  flushInterval : Nat := 200
deriving DecidableEq, Repr, Inhabited

/-- When a run ends and the next worker takes over. -/
structure RunLimits where
  maxRecords : Nat := 5000
  maxBytes : Nat := 4194304
  flushInterval : Nat := 1000
deriving DecidableEq, Repr, Inhabited

/-- How a worker packs its output, and how many chunks it may hold back while an earlier run is
open. -/
structure ProcessingSettings where
  chunkMaxBytes : Nat := 5242880
  chunkFlushInterval : Nat := 1000
  maxPendingChunks : Nat := 64
  compress : Bool := false
  compressionLevel : Int := 3
deriving DecidableEq, Repr, Inhabited

/-- How records are assigned to pipelines: all to one, or by the values of key fields. -/
inductive Routing where
  | singleton
  | byKeySet (keyFields : List String) (tagTemplate : Option String)
deriving DecidableEq, Repr, Inhabited

/-- Everything that is set for a pipeline. One worker means that batches are processed in sequence.
-/
structure PipelineSettings where
  workers : Nat := 1
  queueCapacity : Nat := 256
  sendTimeout : Nat := 5000
  tickInterval : Nat := 100
  buffer : BufferLimits := {}
  distributor : RunLimits := {}
  processing : ProcessingSettings := {}
  routing : Routing := .singleton
deriving DecidableEq, Repr, Inhabited

/-- A field that must not be zero. -/
def positive (n : Nat) (field : String) : Except SettingsError Unit :=
  if n = 0 then .error (.zero field) else .ok ()

def BufferLimits.check (l : BufferLimits) : Except SettingsError Unit := do
  positive l.maxRecords "buffer.max_records"
  positive l.maxBytes "buffer.max_bytes"
  positive l.flushInterval "buffer.flush_interval_ms"

def RunLimits.check (l : RunLimits) : Except SettingsError Unit := do
  positive l.maxRecords "distributor.max_records"
  positive l.maxBytes "distributor.max_bytes"
  positive l.flushInterval "distributor.flush_interval_ms"

def ProcessingSettings.check (p : ProcessingSettings) : Except SettingsError Unit := do
  positive p.chunkMaxBytes "processing.chunk_max_bytes"
  positive p.chunkFlushInterval "processing.chunk_flush_interval_ms"
  positive p.maxPendingChunks "processing.max_pending_chunks"

/-- The first name that stands again behind an equal one. -/
def firstRepeated (seen : List String) : List String → Option String
  | [] => none
  | n :: rest => if n ∈ seen then some n else firstRepeated (n :: seen) rest

/-- The routing names at least one key field, and none twice. -/
def Routing.check : Routing → Except SettingsError Unit
  | singleton => .ok ()
  | byKeySet [] _ => .error .emptyKeySet
  | byKeySet fields _ =>
    match firstRepeated [] fields with
    | some name => .error (.duplicateField name)
    | none => .ok ()

def PipelineSettings.check (s : PipelineSettings) : Except SettingsError Unit := do
  positive s.workers "workers"
  positive s.queueCapacity "queue_capacity"
  positive s.sendTimeout "send_timeout_ms"
  positive s.tickInterval "tick_interval_ms"
  s.buffer.check
  s.distributor.check
  s.processing.check
  s.routing.check

end LogPipeline
