import LogPipeline.Processor
import LogPipeline.Schedule

/-!
# Processors on their own

Processors that share a sequencer and a taker of chunks. Each works through the jobs on its desk,
one at a time. The taker notes every chunk it is asked to accept and keeps the asking processor
waiting for some time.
-/

namespace LogPipeline

/-- One job for a processor. A batch comes with the time that the sends on its behalf may take. -/
inductive Job where
  | batch (b : OrderedBatch) (timeout : Nat)
  | tick
  | stop
deriving DecidableEq, Repr, Inhabited

/-- Steps that a job leads to at most. -/
def Job.weight : Job → Nat
  | batch b _ => 11 * b.records.length + 32
  | _ => 32

/-- A processor with its jobs. `wakes` is when the taker lets it go on. -/
structure Desk where
  processor : Processor
  jobs : List Job := []
  busy : Bool := false
  wakes : Instant := 0
deriving Inhabited

def Desk.begin (now : Instant) (job : Job) (d : Desk) : Desk :=
  let processor := match job with
    | .batch b timeout => d.processor.receive b (now + timeout)
    | .tick => d.processor.tick now
    | .stop => d.processor.stop now
  { d with processor, jobs := d.jobs.drop 1, busy := true }

/-- Desks around a taker of chunks. `tickets` are the tickets held by name, `emitted` the chunks
that the taker was asked to accept, with the time that was left, and `failures` the processors that
failed. -/
structure Desks where
  desks : List Desk
  tickets : List (String × Nat) := []
  acceptTime : Nat := 0
  sequencer : Sequencer := {}
  books : Books := {}
  now : Instant := 0
  emitted : List (Chunk × Nat) := []
  failures : List (Nat × String) := []
deriving Inhabited

namespace Desks

def start (names : List String) (stages : Stages) (s : ProcessingSettings)
    (sendTimeout acceptTime : Nat) (books : Books) : Desks :=
  { books, acceptTime
    desks := names.map fun name => { processor := .new name stages s sendTimeout } }

def ticket? (name : String) (x : Desks) : Option Nat := (x.tickets.find? (·.1 == name)).map (·.2)

def release (name : String) (x : Desks) : Desks :=
  { x with
    tickets := x.tickets.filter (·.1 != name)
    sequencer := (x.ticket? name).elim x.sequencer x.sequencer.release }

/-- Issues a ticket and holds it under a name, in place of one that is held under it. -/
def issue (name : String) (x : Desks) : Nat × Desks :=
  let (n, sequencer) := x.sequencer.issue
  let x := { x with sequencer }.release name
  (n, { x with tickets := (name, n) :: x.tickets })

/-- A batch for a processor, with a reference of its own to the ticket held under a name, if any. -/
def batch (run : Option String) (records : Batch) (isLast : Bool) (x : Desks) :
    OrderedBatch × Desks :=
  let run := run.bind x.ticket?
  (⟨records, run, isLast⟩, { x with sequencer := run.elim x.sequencer x.sequencer.share })

/-- One more job for a processor. A batch keeps its reference to its run meanwhile. -/
def give (i : Nat) (job : Job) (x : Desks) : Desks :=
  { x with desks := x.desks.modify i fun d => { d with jobs := d.jobs ++ [job] } }

def able (x : Desks) (i : Nat) : Bool :=
  x.desks[i]?.any fun d =>
    if d.busy then
      match d.processor.agenda with
      | .sending _ :: _ => decide (d.wakes ≤ x.now)
      | _ => !d.processor.isWaiting x.sequencer
    else !d.jobs.isEmpty

def act (i : Nat) (x : Desks) : Desks :=
  match x.desks[i]? with
  | none => x
  | some d =>
    let put := fun (x : Desks) (d : Desk) => { x with desks := x.desks.set i d }
    if d.busy then
      let p := d.processor
      match p.agenda with
      | [] => put x { d with busy := false }
      | .crash :: _ =>
        put { x with failures := x.failures ++ [(i, p.crashMessage)] }
          { d with busy := false, processor := { p with agenda := [] } }
      | .offer c :: _ =>
        let x := { x with emitted := x.emitted ++ [(c, p.deadline - x.now)] }
        if x.acceptTime = 0 then put x { d with processor := p.handedOver }
        else put x { d with processor := p.asking c, wakes := x.now + x.acceptTime }
      | .sending _ :: _ => if d.wakes ≤ x.now then put x { d with processor := p.handedOver } else x
      | _ =>
        let (processor, sequencer, books) := p.act x.now x.sequencer x.books
        put { x with sequencer, books } { d with processor }
    else
      match d.jobs with
      | [] => x
      | job :: _ => put x (d.begin x.now job)

/-- Takes the chunks and the failures that were noted. -/
def takeNotes (x : Desks) : List (Chunk × Nat) × List (Nat × String) × Desks :=
  (x.emitted, x.failures, { x with emitted := [], failures := [] })

def machine : Machine Desks Nat where
  now := now
  setNow t x := { x with now := t }
  parties x := List.range x.desks.length
  able := able
  act := act
  due x := x.desks.filterMap fun d => if d.processor.isSending then some d.wakes else none
  workload x :=
    total (fun d => d.processor.workload + total Job.weight d.jobs + 8) x.desks

end Desks

end LogPipeline
