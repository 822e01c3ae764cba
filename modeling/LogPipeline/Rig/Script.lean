import LogPipeline.Schedule
import LogPipeline.Worker

/-!
# A worker on its own

A worker whose items say themselves how they are to be handled: at once, for some time, or with a
failure. What it is called for is noted with the time.
-/

namespace LogPipeline

/-- An item with instructions. -/
structure ScriptItem (α : Type) where
  value : α
  sleep : Option Nat := none
  failure : Option String := none

/-- What was noted. `left` is the time that was left to the deadline. -/
inductive ScriptEvent (α : Type) where
  | input (a : α) (time : Instant) (left : Nat)
  | done (a : α) (time : Instant) (left : Nat)
  | tick (time : Instant)
  | stop (time : Instant)

/-- What the worker does until a point in time. -/
inductive ScriptSleep (α : Type) where
  | item (a : α) (deadline until_ : Instant)
  | tick (until_ : Instant)
  | stop (until_ : Instant)

/-- When the worker goes on. -/
def ScriptSleep.wakes {α : Type} : ScriptSleep α → Instant
  | item _ _ t | tick t | stop t => t

/-- A scripted worker. `waiting` are those who wait for its end, and `woken` those whose wait has
ended, with the time. `joining` tells that the caller waits for the end. -/
structure Script (α : Type) where
  worker : Worker
  queue : Queue (ScriptItem α)
  tickSleep : Nat := 0
  stopSleep : Nat := 0
  now : Instant := 0
  sleep : Option (ScriptSleep α) := none
  events : List (ScriptEvent α) := []
  waiting : List Nat := []
  woken : List (Nat × Instant) := []
  joining : Bool := false
  joined : Bool := false

namespace Script

variable {α : Type}

def start (settings : WorkerSettings) (capacity tickSleep stopSleep : Nat) : Script α :=
  let worker := Worker.spawn settings 0
  { worker, tickSleep, stopSleep, queue := worker.leave { capacity } }

def note (e : ScriptEvent α) (s : Script α) : Script α := { s with events := s.events ++ [e] }

/-- Those who wait are woken if the worker has stopped. -/
def wake (s : Script α) : Script α :=
  if s.worker.isStopped then
    { s with waiting := [], woken := s.woken ++ s.waiting.map (·, s.now) }
  else s

def finish (s : Script α) : Script α :=
  let worker := s.worker.finish
  { s with worker, queue := worker.leave s.queue, sleep := none }.wake

def beginItem (i : ScriptItem α) (deadline : Instant) (s : Script α) : Script α :=
  let s := s.note (.input i.value s.now (deadline - s.now))
  match i.failure with
  | some message =>
    let worker := s.worker.fail message
    { s with worker, queue := worker.leave s.queue }.wake
  | none =>
    match i.sleep with
    | some ms => { s with sleep := some (.item i.value deadline (s.now + ms)) }
    | none => s.finish

def able (s : Script α) : Bool :=
  match s.sleep with
  | some d => decide (d.wakes ≤ s.now)
  | none => s.worker.hasNext s.now (!s.queue.isOpen) s.queue

def act (s : Script α) : Script α :=
  match s.sleep with
  | some d =>
    if s.now < d.wakes then s
    else
      match d with
      | .item a deadline _ => (s.note (.done a s.now (deadline - s.now))).finish
      | .tick _ => s.finish
      | .stop _ => (s.note (.stop s.now)).finish
  | none =>
    match s.worker.next? s.now (!s.queue.isOpen) s.queue with
    | some (.input i deadline, worker, queue) => beginItem i deadline { s with worker, queue }
    | some (.tick, worker, queue) =>
      { s with worker, queue, sleep := some (.tick (s.now + s.tickSleep)) }.note (.tick s.now)
    | some (.stop, worker, queue) =>
      { s with worker, queue, sleep := some (.stop (s.now + s.stopSleep)) }
    | none => s

/-! ## The owner -/

/-- What came of an attempt to send. -/
inductive Tried where
  | sent
  | full
  | closed
deriving DecidableEq, Repr

def Tried.message : Tried → String
  | sent => ""
  | full => "no available capacity"
  | closed => "channel closed"

def trySend (i : ScriptItem α) (s : Script α) : Tried × Script α :=
  if !s.queue.isRead then (.closed, s)
  else if s.queue.hasRoom then (.sent, { s with queue := s.queue.push i })
  else (.full, s)

def wait (id : Nat) (s : Script α) : Script α := { s with waiting := s.waiting ++ [id] }.wake

/-- Takes what was noted, and who was woken. -/
def takeNotes (s : Script α) : List (ScriptEvent α) × List (Nat × Instant) × Script α :=
  (s.events, s.woken, { s with events := [], woken := [] })

/-- The time that the items and the end may still take. -/
def horizon (s : Script α) : Instant :=
  s.now + (s.sleep.map (·.wakes - s.now)).getD 0 + s.tickSleep + s.stopSleep +
    total (fun i => i.sleep.getD 0 + s.tickSleep) s.queue.items

def machine : Machine (Script α) Unit where
  now := now
  setNow t s := { s with now := t }
  parties _ := [()]
  able s _ := s.able
  act _ := act
  calling s := s.joining
  callAble s := s.joining && s.worker.isStopped
  callAct s := { s with joining := false }
  due s := (s.sleep.map ScriptSleep.wakes).toList ++ s.worker.due?.toList
  workload s := 4 * s.queue.items.length + 12

end Script

end LogPipeline
