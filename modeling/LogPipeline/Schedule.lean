import LogPipeline.Record

/-!
# Taking turns

Parties share a state and a clock. Each acts as long as it is able to, then the next; a party that
becomes able while others are ready lines up behind them, and parties that become able at once line
up in the order in which they came to rest. One caller stands beside them: it goes on only when no
party is ready. The clock moves only when nobody can act, to the next instant that something waits
for.
-/

namespace LogPipeline

/-- Parties `κ` over a state `σ`, and the caller's part. `due` lists instants that something waits
for; `workload` bounds how often parties and caller can act before the clock has to move. -/
structure Machine (σ κ : Type) where
  now : σ → Instant
  setNow : Instant → σ → σ
  parties : σ → List κ
  able : σ → κ → Bool
  act : κ → σ → σ
  calling : σ → Bool := fun _ => false
  callAble : σ → Bool := fun _ => false
  callAct : σ → σ := id
  due : σ → List Instant
  workload : σ → Nat

/-- The parties that line up to act, and those at rest in the order in which they came to it. -/
structure Schedule (κ : Type) where
  ready : List κ := []
  idle : List κ := []
deriving Inhabited

namespace Schedule

variable {σ κ : Type}

/-- Parties that are new line up behind those at rest. Parties are never removed, and new ones come
last. -/
def enroll (m : Machine σ κ) (x : σ) (s : Schedule κ) : Schedule κ :=
  { s with idle := s.idle ++ (m.parties x).drop (s.ready.length + s.idle.length) }

/-- Parties at rest that have become able line up. -/
def wake (m : Machine σ κ) (x : σ) (s : Schedule κ) : Schedule κ :=
  let (able, idle) := s.idle.partition (m.able x)
  ⟨s.ready ++ able, idle⟩

/-- Parties at the front of the line that cannot act come to rest. -/
def skim (m : Machine σ κ) (x : σ) (s : Schedule κ) : Schedule κ :=
  let unable := s.ready.takeWhile (!m.able x ·)
  ⟨s.ready.dropWhile (!m.able x ·), s.idle ++ unable⟩

end Schedule

/-- A state with the schedule of its parties. -/
structure Running (σ κ : Type) where
  state : σ
  schedule : Schedule κ := {}

namespace Machine

variable {σ κ : Type} (m : Machine σ κ)

/-- Lets the parties act until none is able to. Each round is one act. -/
def settleParties : Nat → Running σ κ → Running σ κ
  | 0, r => r
  | fuel + 1, r =>
    let s := r.schedule.skim m r.state
    match s.ready with
    | [] => { r with schedule := s }
    | k :: _ =>
      let x := m.act k r.state
      settleParties fuel ⟨x, s.wake m x⟩

/-- Lets the caller act until it cannot go on. Parties that it makes able line up as it goes. -/
def runCaller : Nat → Running σ κ → Running σ κ
  | 0, r => r
  | fuel + 1, r =>
    if m.callAble r.state then
      let x := m.callAct r.state
      runCaller fuel ⟨x, (r.schedule.enroll m x).wake m x⟩
    else r

/-- Lets the caller and then the parties act, in turn, until nobody can go on. -/
def settleRounds : Nat → Running σ κ → Running σ κ
  | 0, r => r
  | fuel + 1, r =>
    let r := { r with schedule := (r.schedule.enroll m r.state).wake m r.state }
    let r := m.runCaller (m.workload r.state) r
    let r := m.settleParties (m.workload r.state) r
    if m.callAble r.state then settleRounds fuel r else r

def settle (r : Running σ κ) : Running σ κ := m.settleRounds (m.workload r.state + 1) r

/-- The next instant that something waits for, if it is not after `limit`. -/
def nextDue? (limit : Instant) (x : σ) : Option Instant :=
  ((m.due x).filter fun t => decide (m.now x < t) && decide (t ≤ limit)).min?

/-- Lets time pass until `target`: everybody acts whenever something is due on the way. The clock
moves by at least one each time, so the distance is fuel enough. -/
def passUntil (target : Instant) : Nat → Running σ κ → Running σ κ
  | 0, r => r
  | fuel + 1, r =>
    match m.nextDue? target r.state with
    | some t => passUntil target fuel (m.settle { r with state := m.setNow t r.state })
    | none => m.settle { r with state := m.setNow target r.state }

def advance (ms : Nat) (r : Running σ κ) : Running σ κ :=
  m.passUntil (m.now r.state + ms) (ms + 1) (m.settle r)

/-- Lets time pass until the call under way has returned, but not beyond `limit`. -/
def awaitCall (limit : Instant) : Nat → Running σ κ → Running σ κ
  | 0, r => r
  | fuel + 1, r =>
    if m.calling r.state then
      match m.nextDue? limit r.state with
      | some t => awaitCall limit fuel (m.settle { r with state := m.setNow t r.state })
      | none => r
    else r

/-- Runs the call under way, which is decided at `limit` at the latest. -/
def call (limit : Instant) (r : Running σ κ) : Running σ κ :=
  m.awaitCall limit (limit - m.now r.state + 1) (m.settle r)

end Machine

end LogPipeline
