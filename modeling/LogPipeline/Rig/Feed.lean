import LogPipeline.Plant

/-!
# A pipeline fed by hand

One pipeline whose owner sends batches to its input and closes it.
-/

namespace LogPipeline

/-- A plant of one pipeline. `sending` is the batch being sent with its deadline, and `sent` what
came of the last one: nothing, or why it failed. -/
structure Feed where
  plant : Plant
  isOpen : Bool := true
  sending : Option (Batch × Instant) := none
  sent : Option SendFailure := none
deriving Inhabited

namespace Feed

def start (id : Nat) (tag : String) (capacity : Nat) (ground : Ground) : Feed :=
  { plant := Plant.launch id tag [] capacity ⟨ground, []⟩ }

def send (b : Batch) (timeout : Nat) (f : Feed) : Feed :=
  { f with sending := some (b, f.plant.ground.now + timeout), sent := none }

def close (f : Feed) : Feed :=
  { f with isOpen := false, plant := f.plant.onInput 0 Queue.close }

def callAble (f : Feed) : Bool := f.sending.any fun (_, deadline) => f.plant.decides deadline 0

/-- Sends the batch, or gives it up. It stays with the owner then. -/
def callAct (f : Feed) : Feed :=
  match f.sending with
  | none => f
  | some (b, deadline) =>
    match f.plant.send deadline 0 b with
    | .done plant => { f with plant, sending := none }
    | .failed reason => { f with sending := none, sent := some reason }
    | .blocked => f

def machine : Machine Feed Actor where
  now f := f.plant.ground.now
  setNow t f := { f with plant := f.plant.setNow t }
  parties f := f.plant.parties
  able f := f.plant.able
  act a f := { f with plant := f.plant.act a }
  calling f := f.sending.isSome
  callAble := callAble
  callAct := callAct
  due f := f.sending.toList.map (·.2) ++ f.plant.due
  workload f :=
    f.plant.workload + (f.sending.map fun (b, _) => Pipeline.batchWeight b.length).getD 0

end Feed

end LogPipeline
