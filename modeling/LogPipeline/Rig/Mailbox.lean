import LogPipeline.Queue
import LogPipeline.Schedule

/-!
# A queue on its own

A queue with one sender, whose receiver may be used at once, given away to somebody who receives a
single item at a later time, or dropped.
-/

namespace LogPipeline

/-- Who has the receiver. One that was given away is never given back; `served` tells that its owner
has received the item. -/
inductive Holder where
  | here
  | away (at_ : Instant) (served : Bool)
  | gone
deriving DecidableEq, Repr, Inhabited

/-- A queue with its clock. `sending` is the item being sent with its deadline, `sent` why the last
send failed, and `returned` the item that it handed back. -/
structure Mailbox (α : Type) where
  queue : Queue α
  now : Instant := 0
  holder : Holder := .here
  sending : Option (α × Instant) := none
  sent : Option SendFailure := none
  returned : Option α := none

namespace Mailbox

variable {α : Type}

def send (a : α) (timeout : Nat) (m : Mailbox α) : Mailbox α :=
  { m with sending := some (a, m.now + timeout), sent := none, returned := none }

/-- Receives an item, if the receiver is here and there is one. -/
def receive (m : Mailbox α) : Option α × Mailbox α :=
  match m.holder, m.queue.pop? with
  | .here, some (a, queue) => (some a, { m with queue })
  | _, _ => (none, m)

/-- Gives the receiver away, to receive one item after some time. -/
def lend (ms : Nat) (m : Mailbox α) : Mailbox α :=
  if m.holder = .here then { m with holder := .away (m.now + ms) false } else m

def drop (m : Mailbox α) : Mailbox α :=
  if m.holder = .here then { m with holder := .gone, queue := m.queue.abandon } else m

def able (m : Mailbox α) : Bool :=
  match m.holder with
  | .away t false => decide (t ≤ m.now) && !m.queue.items.isEmpty
  | _ => false

def act (m : Mailbox α) : Mailbox α :=
  match m.holder, m.queue.pop? with
  | .away t false, some (_, queue) => { m with queue, holder := .away t true }
  | _, _ => m

def callAble (m : Mailbox α) : Bool :=
  m.sending.any fun (_, deadline) => m.queue.decides m.now deadline

/-- Sends the item, or hands it back. -/
def callAct (m : Mailbox α) : Mailbox α :=
  match m.sending with
  | none => m
  | some (a, deadline) =>
    match m.queue.trySend m.now deadline a with
    | .done queue => { m with queue, sending := none }
    | .failed reason => { m with sending := none, sent := some reason, returned := some a }
    | .blocked => m

def machine : Machine (Mailbox α) Unit where
  now := now
  setNow t m := { m with now := t }
  parties _ := [()]
  able m _ := m.able
  act _ := act
  calling m := m.sending.isSome
  callAble := callAble
  callAct := callAct
  due m :=
    m.sending.toList.map (·.2) ++
      match m.holder with
      | .away t false => [t]
      | _ => []
  workload _ := 4

end Mailbox

end LogPipeline
