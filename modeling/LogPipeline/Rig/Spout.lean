import LogPipeline.Output
import LogPipeline.Schedule

/-!
# Outputs on their own

Outputs that forward to one destination. The one started last is used; starting another lets go of
the one before, which drains by itself.
-/

namespace LogPipeline

/-- What the user of an output waits for. -/
inductive SpoutCall where
  | accept (c : Chunk) (deadline : Instant)
  | drain
deriving Inhabited

/-- Outputs, the last of them in use, with the destination and the call under way. -/
structure Spout where
  tag : String
  id : Nat
  capacity : Nat
  settings : WorkerSettings
  destination : Destination
  outputs : List Output := []
  books : Books := {}
  now : Instant := 0
  call : Option SpoutCall := none
deriving Inhabited

namespace Spout

def current? (s : Spout) : Option Output := s.outputs.getLast?

/-- Starts an output in place of the one in use. -/
def start (s : Spout) : Except OutputError Spout := do
  let o ← Output.start s.tag s.id s.capacity s.settings s.now s.destination
  return { s with outputs := s.outputs.map Output.shutDown ++ [o] }

/-- A chunk is to be accepted within some time. An output that was shut down does not take it. -/
def accept (c : Chunk) (timeout : Nat) (s : Spout) : Spout :=
  if s.current?.any Output.isAccepting then { s with call := some (.accept c (s.now + timeout)) }
  else { s with books := s.books.count Counters.chunkLost }

def shutDown (s : Spout) : Spout :=
  { s with outputs := s.outputs.map Output.shutDown, call := some .drain }

def isSending (i : Nat) (s : Spout) : Bool :=
  match s.call with
  | some (.accept _ _) => i + 1 == s.outputs.length
  | _ => false

def able (s : Spout) (i : Nat) : Bool :=
  s.outputs[i]?.any (·.consumerAble s.now (s.isSending i) i s.destination)

def act (i : Nat) (s : Spout) : Spout :=
  match s.outputs[i]? with
  | none => s
  | some o =>
    let (o, destination, books) := o.consume s.now (s.isSending i) i s.destination s.books
    { s with destination, books, outputs := s.outputs.set i o }

def callAble (s : Spout) : Bool :=
  match s.call, s.current? with
  | some (.accept _ deadline), some o => o.queue.decides s.now deadline
  | some .drain, some o => o.isDrained
  | some _, none => true
  | none, _ => false

def callAct (s : Spout) : Spout :=
  match s.call, s.current? with
  | some (.accept c deadline), some o =>
    match o.trySend s.now deadline c s.books with
    | some (o, books) =>
      { s with books, call := none, outputs := s.outputs.set (s.outputs.length - 1) o }
    | none => s
  | some .drain, some o => if o.isDrained then { s with call := none } else s
  | _, none => { s with call := none }
  | none, some _ => s

/-- When the call under way is decided at the latest: every chunk may wait for the send timeout. -/
def callLimit (s : Spout) : Instant :=
  match s.call with
  | some (.accept _ deadline) => deadline
  | _ =>
    let queued := ((s.current?.map (·.queue.items.length)).getD 0 + 2)
    s.now + queued * s.settings.sendTimeout

def machine : Machine Spout Nat where
  now := now
  setNow t s := { s with now := t }
  parties s := List.range s.outputs.length
  able := able
  act := act
  calling s := s.call.isSome
  callAble := callAble
  callAct := callAct
  due s :=
    (match s.call with
      | some (.accept _ deadline) => [deadline]
      | _ => []) ++ s.outputs.flatMap Output.due
  workload s := total Output.workload s.outputs + 8

end Spout

end LogPipeline
