import LogPipeline.Record

/-!
# Bounded queues

A queue is first in, first out, holds at most `capacity` items, and knows whether anyone may still
send to it and whether anyone still receives. A send is tried over and over until it is decided: it
goes through as soon as there is room, it fails at once when nobody receives, and it fails at its
deadline when there was no room until then.
-/

namespace LogPipeline

/-- A bounded queue. `isOpen` holds while a sender is left, `isRead` while the receiver is there. -/
structure Queue (α : Type) where
  capacity : Nat
  items : List α := []
  isOpen : Bool := true
  isRead : Bool := true
deriving Repr, Inhabited

/-- Why a send failed. -/
inductive SendFailure where
  | timeout
  | closed
deriving DecidableEq, Repr, Inhabited

/-- The failure in one word. -/
def SendFailure.message : SendFailure → String
  | timeout => "timeout"
  | closed => "closed"

/-- How far a send has come. -/
inductive Sent (α : Type) where
  | done (q : Queue α)
  | failed (reason : SendFailure)
  | blocked

namespace Queue

variable {α : Type}

/-- The largest room that a queue can have, three bits short of 64. -/
def maxCapacity : Nat := 0x1FFFFFFFFFFFFFFF

/-- Why no queue can have this room, if none can. -/
def fault? (capacity : Nat) : Option String :=
  if capacity = 0 then some "mpsc bounded channel requires buffer > 0"
  else if maxCapacity < capacity then
    some ("a semaphore may not have more than MAX_PERMITS permits (" ++ toString maxCapacity ++ ")")
  else none

def hasRoom (q : Queue α) : Bool := q.items.length < q.capacity

def push (a : α) (q : Queue α) : Queue α := { q with items := q.items ++ [a] }

def pop? (q : Queue α) : Option (α × Queue α) :=
  match q.items with
  | [] => none
  | a :: rest => some (a, { q with items := rest })

/-- Nothing is queued and nothing more can come. -/
def isFinished (q : Queue α) : Bool := q.items.isEmpty && !q.isOpen

/-- No sender is left. What is queued can still be received. -/
def close (q : Queue α) : Queue α := { q with isOpen := false }

/-- The receiver is gone, and with it what was queued. -/
def abandon (q : Queue α) : Queue α := { q with isRead := false, items := [] }

/-- Tries to send an item at time `now` under a deadline. A closed queue wins over a full one, and
room wins over a deadline that has passed. -/
def trySend (now deadline : Instant) (a : α) (q : Queue α) : Sent α :=
  if !q.isRead then .failed .closed
  else if q.hasRoom then .done (q.push a)
  else if deadline ≤ now then .failed .timeout
  else .blocked

def decides (now deadline : Instant) (q : Queue α) : Bool :=
  !q.isRead || q.hasRoom || decide (deadline ≤ now)

@[simp] theorem push_items (a : α) (q : Queue α) : (q.push a).items = q.items ++ [a] := rfl

theorem trySend_eq_blocked_iff {now deadline : Instant} {a : α} {q : Queue α} :
    q.trySend now deadline a = .blocked ↔ q.decides now deadline = false := by
  unfold trySend decides
  split
  · simp_all
  · split
    · simp_all
    · split <;> simp_all

/-- A send goes through if the queue is read and has room. It puts its item at the end, and changes
nothing else. -/
theorem trySend_eq_done_iff {now deadline : Instant} {a : α} {q q' : Queue α} :
    q.trySend now deadline a = .done q' ↔
      q.isRead = true ∧ q.hasRoom = true ∧ q' = q.push a := by
  unfold trySend
  split
  · simp_all
  · split
    · rw [Sent.done.injEq, eq_comm]
      simp_all
    · split <;> simp_all

theorem items_of_trySend {now deadline : Instant} {a : α} {q q' : Queue α}
    (h : q.trySend now deadline a = .done q') : q'.items = q.items ++ [a] := by
  rw [(trySend_eq_done_iff.1 h).2.2, push_items]

end Queue

end LogPipeline
