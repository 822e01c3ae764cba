import LogPipeline.Books
import LogPipeline.Chunk
import LogPipeline.Line
import LogPipeline.Rule
import LogPipeline.Sequencer
import LogPipeline.Settings

/-!
# Processors

A processor applies the rules to the records of a batch, writes what passes as lines, and packs the
lines into chunks. Batches of a run may be followed by others of a later run. A chunk is handed over
only while the processor's run has its turn; until then it is held back, and when too many are held
back the processor waits for its turn. A run is let go of once all its chunks have been handed over.

What a callback still has to do is an agenda, of which each step does the first task. The steps that
concern the taker of chunks are left to whoever runs the processor.
-/

namespace LogPipeline

/-- What is done to each record: the rules, and the writing of a line, which may fail. -/
structure Stages where
  rules : List Rule
  write : Record → Option ByteArray
deriving Inhabited

/-- Stages that write records of a schema. -/
def Stages.standard (schema : Schema) (rules : List Rule) : Stages :=
  ⟨rules, fun r => some (r.lineBytes schema)⟩

/-- One thing that a processor has to do. -/
inductive Task where
  /-- A ticket has come with a batch. -/
  | join (run : Nat)
  /-- Make a run the one being processed. -/
  | adopt (run : Nat)
  | process (r : Record)
  /-- A chunk is complete: hand it over or hold it back. -/
  | emit (c : Chunk)
  | awaitTurn
  /-- Hand over all chunks held back. -/
  | forward
  /-- Hand them over only if it is the run's turn. -/
  | forwardInTurn
  /-- Ask the taker to accept a chunk. -/
  | offer (c : Chunk)
  /-- The taker has been asked and has not accepted yet. -/
  | sending (c : Chunk)
  /-- End the run: flush what is left of it. -/
  | finish
  /-- Wait for the turn and hand over what is held back, if anything is. -/
  | clear
  /-- Let go of the run. -/
  | complete
  /-- Flush the chunk being built if it was begun long enough before. -/
  | flushStale (now : Instant)
  /-- Fail: data is left that belongs to no run. -/
  | crash
deriving Inhabited

/-- How many steps a task may lead to, with those of the chunk it puts into the output. -/
def Task.weight : Task → Nat
  | join _ => 8
  | adopt _ => 1
  | process _ => 11
  | emit _ => 10
  | awaitTurn => 1
  | forward => 1
  | forwardInTurn => 2
  | offer _ => 6
  | sending _ => 5
  | finish => 6
  | clear => 3
  | complete => 1
  | flushStale _ => 1
  | crash => 1

/-- A processor. `bufferedSince` is when the chunk being built got its first line, `turnHeld`
remembers that the run's turn has come, and `pending` are the chunks held back, oldest first.
`ordered` is set once a ticket was seen. -/
structure Processor where
  name : String
  stages : Stages
  maker : ChunkMaker
  flushInterval : Nat
  maxPending : Nat
  sendTimeout : Nat
  bufferedSince : Option Instant := none
  run : Option Nat := none
  turnHeld : Bool := false
  pending : List Chunk := []
  ordered : Bool := false
  agenda : List Task := []
  deadline : Instant := 0
deriving Inhabited

namespace Processor

/-- A processor with the given settings. It may hold back at least one chunk. -/
def new (name : String) (stages : Stages) (s : ProcessingSettings) (sendTimeout : Nat) :
    Processor :=
  { name, stages, sendTimeout
    maker := { maxBytes := s.chunkMaxBytes, compress := s.compress }
    flushInterval := s.chunkFlushInterval
    maxPending := max s.maxPendingChunks 1 }

/-! ## Callbacks -/

def receive (b : OrderedBatch) (deadline : Instant) (p : Processor) : Processor :=
  { p with
    deadline
    agenda :=
      b.run.toList.map Task.join ++ b.records.map Task.process ++
        (if b.isLast then [.finish] else []) }

def tick (now : Instant) (p : Processor) : Processor :=
  { p with deadline := now + p.sendTimeout, agenda := [.forwardInTurn, .flushStale now] }

/-- The end, at time `now`. Data that belongs to no run is handed over, unless there were runs: then
it has no place in their order. -/
def stop (now : Instant) (p : Processor) : Processor :=
  let p := { p with deadline := now + p.sendTimeout }
  if p.run.isSome then { p with agenda := [.finish] }
  else if !p.maker.hasPending then { p with agenda := [] }
  else if p.ordered then { p with agenda := [.crash] }
  else
    let (c, maker) := p.maker.flush
    { p with maker, bufferedSince := none, agenda := c.toList.map Task.offer }

/-- What a failing processor says. -/
def crashMessage (p : Processor) : String :=
  "processing worker " ++ p.name ++ " stopped with unflushed chunk data outside any run"

/-! ## Tasks -/

/-- The processor's chunks may be handed over now. -/
def inTurn (s : Sequencer) (p : Processor) : Bool :=
  match p.run with
  | none => true
  | some n => p.turnHeld || s.isTurn n

/-- The processor after it has asked whether its turn has come, which it remembers. -/
def noteTurn (s : Sequencer) (p : Processor) : Processor :=
  { p with turnHeld := p.turnHeld || (p.run.any s.isTurn) }

def next (tasks : List Task) (p : Processor) : Processor :=
  { p with agenda := tasks ++ p.agenda.drop 1 }

/-- Writes a line into the chunk being built. The time of its first line is noted; a chunk that this
completes is to be emitted. -/
def writeLine (now : Instant) (line : ByteArray) (p : Processor) : Processor :=
  let (completed, maker) := p.maker.write line
  let since := if completed.isSome || p.bufferedSince.isNone then some now else p.bufferedSince
  { p with maker, bufferedSince := since }.next (completed.toList.map Task.emit)

/-- Applies the rules to a record and writes it. The record is given back in any case. -/
def processRecord (now : Instant) (r : Record) (p : Processor) (b : Books) : Processor × Books :=
  match Rule.applyAll p.stages.rules r with
  | (.drop, r) => (p.next [], { b with pool := b.pool.release r, counters := b.counters.filtered })
  | (.pass, r) =>
    let b := { b with pool := b.pool.release r }
    match p.stages.write r with
    | none => (p.next [], b.count (Counters.lost 1))
    | some line => (p.writeLine now line, b.count Counters.serialized)

/-- Takes the chunk being built out of the maker, to be emitted. -/
def flushMaker (p : Processor) (tasks : List Task) : Processor :=
  let (c, maker) := p.maker.flush
  { p with maker, bufferedSince := if c.isSome then none else p.bufferedSince }.next
    (c.toList.map Task.emit ++ tasks)

/-- A complete chunk is handed over behind those held back, or held back itself. -/
def emitChunk (s : Sequencer) (c : Chunk) (p : Processor) : Processor :=
  if p.inTurn s then (p.noteTurn s).next [.forward, .offer c]
  else
    let p := { p with pending := p.pending ++ [c] }
    p.next (if p.maxPending ≤ p.pending.length then [.awaitTurn, .forward] else [])

/-- The first task waits for a turn that has not come. -/
def isWaiting (s : Sequencer) (p : Processor) : Bool :=
  match p.agenda with
  | .awaitTurn :: _ => !p.inTurn s
  | _ => false

/-- Does the first task, unless it concerns the taker of chunks or is a failure. -/
def act (now : Instant) (p : Processor) (s : Sequencer) (b : Books) :
    Processor × Sequencer × Books :=
  match p.agenda with
  | .join n :: _ =>
    let p := { p with ordered := true }
    match p.run with
    | none => (p.next [.adopt n], s, b)
    | some m => if m = n then (p.next [], s.release n, b) else (p.next [.finish, .adopt n], s, b)
  | .adopt n :: _ => ({ p with run := some n, turnHeld := false }.next [], s, b)
  | .process r :: _ =>
    let (p, b) := p.processRecord now r b
    (p, s, b)
  | .emit c :: _ => (p.emitChunk s c, s, b)
  | .awaitTurn :: _ => if p.inTurn s then ({ p with turnHeld := true }.next [], s, b) else (p, s, b)
  | .forward :: _ =>
    match p.pending with
    | [] => (p.next [], s, b)
    | c :: rest => ({ p with pending := rest }.next [.offer c, .forward], s, b)
  | .forwardInTurn :: _ =>
    if !p.pending.isEmpty && p.inTurn s then ((p.noteTurn s).next [.forward], s, b)
    else (p.next [], s, b)
  | .finish :: _ => (p.flushMaker [.clear, .complete], s, b)
  | .clear :: _ => (p.next (if p.pending.isEmpty then [] else [.awaitTurn, .forward]), s, b)
  | .complete :: _ =>
    ({ p with run := none, turnHeld := false }.next [], p.run.elim s s.release, b)
  | .flushStale t :: _ =>
    match p.bufferedSince with
    | none => (p.next [], s, b)
    | some since =>
      if t - since < p.flushInterval then (p.next [], s, b)
      else ({ p with bufferedSince := none }.flushMaker [], s, b)
  | .offer _ :: _ | .sending _ :: _ | .crash :: _ | [] => (p, s, b)

def handedOver (p : Processor) : Processor := p.next []

/-- The taker has been asked to accept the chunk. -/
def asking (c : Chunk) (p : Processor) : Processor := p.next [.sending c]

def isSending (p : Processor) : Bool :=
  match p.agenda with
  | .sending _ :: _ => true
  | _ => false

/-! ## Work left -/

/-- How many steps are left, at most, without further callbacks. A held back chunk is yet to be
handed over, and a chunk being built to be emitted. -/
def workload (p : Processor) : Nat :=
  total Task.weight p.agenda + 7 * p.pending.length + (if p.maker.hasPending then 10 else 0)

end Processor

end LogPipeline
