import LogPipeline.Queue

/-!
# Workers

A worker owns one input queue and runs one callback at a time: for each item, and on every tick of
its timer. Once its queue is closed and empty it runs a last tick and then its stop, and has stopped
when that returns. A callback may take long; ticks that fall into it are not made up for.
-/

namespace LogPipeline

/-- How often a worker ticks, and how long the sends of one callback may take. -/
structure WorkerSettings where
  tickInterval : Nat
  sendTimeout : Nat
deriving DecidableEq, Repr, Inhabited

/-- What a worker is called for. An item comes with a deadline for the sends on its behalf. -/
inductive Callback (α : Type) where
  | input (item : α) (deadline : Instant)
  | tick
  | stop
deriving Repr, Inhabited

/-- How far a worker has come. In `lastTick` and `stopping` the callback of that name has begun. -/
inductive WorkerPhase where
  | serving
  | lastTick
  | stopping
  | stopped
  | failed (message : String)
deriving DecidableEq, Repr, Inhabited

/-- A worker between and during callbacks. -/
structure Worker where
  settings : WorkerSettings
  phase : WorkerPhase := .serving
  busy : Bool := false
  nextTick : Instant := 0
deriving DecidableEq, Repr, Inhabited

namespace Worker

/-- A new worker, whose first tick is one interval away. There is no interval of length zero. -/
def spawn (settings : WorkerSettings) (now : Instant) : Worker :=
  if settings.tickInterval = 0 then
    { settings, phase := .failed "`period` must be non-zero." }
  else { settings, nextTick := now + settings.tickInterval }

/-- No callback will run any more. -/
def isStopped (w : Worker) : Bool :=
  match w.phase with
  | .stopped | .failed _ => true
  | _ => false

/-- How late a tick may be taken and still count as taken on time. -/
def tickSlack : Nat := 5

/-- When the next tick is due after one that is taken now: an interval after it was due, or after
now if it was taken late. -/
def tickAfter (now : Instant) (w : Worker) : Instant :=
  if w.nextTick + tickSlack < now then now + w.settings.tickInterval
  else w.nextTick + w.settings.tickInterval

/-- The next callback of an idle worker, if there is one now, with the worker in that callback and
the rest of its queue. `ended` tells that nobody may send to the queue any more. An item comes
before a tick. -/
def next? {α : Type} (now : Instant) (ended : Bool) (q : Queue α) (w : Worker) :
    Option (Callback α × Worker × Queue α) :=
  match w.phase with
  | .serving =>
    match q.pop? with
    | some (a, q) => some (.input a (now + w.settings.sendTimeout), { w with busy := true }, q)
    | none =>
      if ended then some (.tick, { w with busy := true, phase := .lastTick }, q)
      else if w.nextTick ≤ now then
        some (.tick, { w with busy := true, nextTick := w.tickAfter now }, q)
      else none
  | .lastTick => some (.stop, { w with busy := true, phase := .stopping }, q)
  | _ => none

def hasNext {α : Type} (now : Instant) (ended : Bool) (q : Queue α) (w : Worker) : Bool :=
  match w.phase with
  | .serving => !q.items.isEmpty || ended || decide (w.nextTick ≤ now)
  | .lastTick => true
  | _ => false

def finish (w : Worker) : Worker :=
  { w with busy := false, phase := if w.phase = .stopping then .stopped else w.phase }

def fail (message : String) (w : Worker) : Worker :=
  { w with busy := false, phase := .failed message }

def due? (w : Worker) : Option Instant :=
  if !w.busy && w.phase = .serving then some w.nextTick else none

/-- The worker, after `finish`, with its queue: a worker that has stopped receives no more. -/
def leave {α : Type} (w : Worker) (q : Queue α) : Queue α := if w.isStopped then q.abandon else q

end Worker

end LogPipeline
