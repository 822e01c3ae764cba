import LogPipeline.KeySet.Fields
import LogPipeline.KeySet.KeyMap
import LogPipeline.KeySet.TagTemplate
import LogPipeline.SendBuffer

/-!
# Sinks

A sink takes the records of one connection and gathers them in buffers, one for each pipeline they
go to. A sink by key set finds the pipeline of a record through a cache of its own.
-/

namespace LogPipeline

/-- A pipeline as the key map holds it. -/
structure PipelineEntry where
  id : Nat
  tag : String
deriving DecidableEq, Repr, Inhabited

/-- A buffer, and the pipeline that its batches go to. -/
structure Outlet where
  pipeline : Nat
  buffer : SendBuffer
deriving DecidableEq, Repr, Inhabited

/-- Appends a record to a buffer. A batch that this yields comes with its pipeline. -/
def Outlet.append (now : Instant) (r : Record) (o : Outlet) : Option (Nat × Batch) × Outlet :=
  let (b, buffer) := o.buffer.append now r
  (b.map (o.pipeline, ·), { o with buffer })

/-- Ticks a buffer. A batch that this yields comes with its pipeline. -/
def Outlet.tick (now : Instant) (o : Outlet) : Option (Nat × Batch) × Outlet :=
  let (b, buffer) := o.buffer.tick now
  (b.map (o.pipeline, ·), { o with buffer })

/-- The sink of one connection. -/
inductive Sink where
  | single (outlet : Option Outlet)
  | keyed (cache : LocalCache Outlet)
deriving Repr, Inhabited

namespace Sink

def outlets : Sink → List Outlet
  | single o => o.toList
  | keyed c => c.entries.map (·.2)

/-- All records that wait in a sink. -/
def pending (s : Sink) : List Record := s.outlets.flatMap (·.buffer.pending)

def emptied : Sink → Sink
  | single _ => single none
  | keyed _ => keyed {}

/-- The batches that closing the sink sends, each with its pipeline. -/
def batches (s : Sink) : List (Nat × Batch) :=
  s.outlets.filterMap fun o => o.buffer.flush.1.map (o.pipeline, ·)

/-- The number of buffers that may have something to send. -/
def size (s : Sink) : Nat := s.outlets.length

/-- Ticks the buffer at a position. A batch that this yields comes with its pipeline. -/
def tick (now : Instant) (i : Nat) (s : Sink) : Option (Nat × Batch) × Sink :=
  match s with
  | single none => (none, s)
  | single (some o) =>
    let (b, o) := o.tick now
    (b, single (some o))
  | keyed c =>
    match c.entries[i]? with
    | none => (none, s)
    | some (key, o) =>
      let (b, o) := o.tick now
      (b, keyed ⟨c.entries.set i (key, o)⟩)

end Sink

end LogPipeline
