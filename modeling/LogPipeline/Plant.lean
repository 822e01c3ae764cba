import LogPipeline.Pipeline
import LogPipeline.Schedule

/-!
# Plants

All pipelines over the ground they share. A plant only grows: pipelines are launched and stop, but
stay.
-/

namespace LogPipeline

/-- A party of the pipeline at a position. -/
structure Actor where
  pipeline : Nat
  role : Role
deriving DecidableEq, Repr, Inhabited

/-- The pipelines, and what they share. -/
structure Plant where
  ground : Ground
  pipelines : List Pipeline := []
deriving Inhabited

namespace Plant

/-- Launches a pipeline with an input queue of the given capacity. -/
def launch (id : Nat) (tag : String) (keySet : List String) (capacity : Nat) (x : Plant) : Plant :=
  { x with pipelines := x.pipelines ++ [{ id, tag, keySet, input := { capacity } }] }

def parties (x : Plant) : List Actor :=
  (List.range x.pipelines.length).flatMap fun i =>
    (Pipeline.roles x.ground.blueprint).map (Actor.mk i)

def able (x : Plant) (a : Actor) : Bool :=
  x.pipelines[a.pipeline]?.any (·.able x.ground a.pipeline a.role)

def act (a : Actor) (x : Plant) : Plant :=
  match x.pipelines[a.pipeline]? with
  | none => x
  | some p =>
    let (p, ground) := p.act a.pipeline a.role x.ground
    ⟨ground, x.pipelines.set a.pipeline p⟩

def due (x : Plant) : List Instant := x.pipelines.flatMap Pipeline.due

/-- How many steps are left, at most, before the clock has to move. -/
def workload (x : Plant) : Nat :=
  total (Pipeline.workload x.ground.blueprint) x.pipelines

def setNow (t : Instant) (x : Plant) : Plant := { x with ground.now := t }

def onBooks (f : Books → Books) (x : Plant) : Plant := { x with ground.books := f x.ground.books }

def onInput (i : Nat) (f : Queue Batch → Queue Batch) (x : Plant) : Plant :=
  { x with pipelines := x.pipelines.modify i fun p => { p with input := f p.input } }

/-- The numbers of the pipelines that have not stopped: they hold their owner tokens. -/
def running (x : Plant) : List Nat := (x.pipelines.filter fun p => !p.isStopped).map Pipeline.id

/-- What came of sending a batch. -/
inductive Fed where
  | done (x : Plant)
  | failed (reason : SendFailure)
  | blocked

/-- Tries to send a batch to the input of a pipeline, which must not have been closed. -/
def send (deadline : Instant) (i : Nat) (b : Batch) (x : Plant) : Fed :=
  match x.pipelines[i]? with
  | none => .failed .closed
  | some p =>
    if !p.input.isOpen then .failed .closed
    else
      match p.input.trySend x.ground.now deadline b with
      | .done q => .done (x.onInput i fun _ => q)
      | .failed reason => .failed reason
      | .blocked => .blocked

def decides (deadline : Instant) (i : Nat) (x : Plant) : Bool :=
  x.pipelines[i]?.all fun p => !p.input.isOpen || p.input.decides x.ground.now deadline

/-- Takes up to `n` chunks from the destination, all if no number is given. -/
def take (n : Option Nat) (x : Plant) : List TaggedChunk × Plant :=
  let (out, destination) := x.ground.destination.take n
  (out, { x with ground.destination := destination })

/-- Takes the batches that collecting pipelines have reported. -/
def takeCollected (x : Plant) : List Collected × Plant :=
  (x.ground.collected, { x with ground.collected := [] })

end Plant

end LogPipeline
