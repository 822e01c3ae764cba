import LogPipeline.Plant
import LogPipeline.Sink

/-!
# Orchestrators

An orchestrator routes the records of all sinks: to a single pipeline, or to one for each
combination of key field values, launched when the combination is first seen. What a call on a sink
still has to do is a list of errands under one deadline, done one after the other while the
pipelines run. Shutting down closes every input and waits for the pipelines, never for sinks; what a
sink sends later is lost.
-/

namespace LogPipeline

/-- How records find their pipeline. `single` tells whether the input is still open. -/
inductive Router where
  | single (isOpen : Bool)
  | keyed (fields : KeyFields) (template : TagTemplate) (map : KeyMap PipelineEntry)
deriving Repr, Inhabited

/-- One thing that a call has to do. -/
inductive Errand where
  | route (sink : Nat) (r : Record)
  | tick (sink : Nat) (buffer : Nat) (now : Instant)
  | send (pipeline : Nat) (b : Batch)
  | awaitStop (limit : Instant)
deriving DecidableEq, Repr, Inhabited

/-- Steps that one errand leads to at most. A record may launch a pipeline, and may become a batch
of its own. -/
def Errand.weight (workers : Nat) : Errand → Nat
  | route _ _ => 2 * Pipeline.batchWeight 1 + Member.spare * (workers + 2)
  | tick _ _ _ => 2
  | send _ b => Pipeline.batchWeight b.length
  | awaitStop _ => 1

/-- An orchestrator with its pipelines and its sinks by connection. `errands` is what the call under
way has left to do, and `stopped` what the last shutdown came to. -/
structure Orchestrator where
  plant : Plant
  router : Router
  sinks : List (Nat × Sink) := []
  errands : List Errand := []
  deadline : Instant := 0
  stopped : Option Bool := none
deriving Inhabited

namespace Orchestrator

/-- The tag of the only pipeline of a single route. -/
def singleTag : String := "logs"

/-- How long somebody who tries an orchestrator out waits for a shutdown before it is given up. The
shutdown itself has no limit: it ends once every pipeline has stopped, however long that takes. -/
def patience : Nat := 60000

/-! ## Construction -/

def launch (tag : String) (keySet : List String) (x : Plant) : Plant :=
  (x.launch x.pipelines.length tag keySet x.ground.blueprint.settings.queueCapacity).onBooks
    (·.count Counters.launched)

/-- An orchestrator by key set. -/
def buildKeyed (schema : Schema) (x : Plant) : Except SettingsError Orchestrator := do
  let s := x.ground.blueprint.settings
  s.check
  match s.routing with
  | .singleton => .error .emptyKeySet
  | .byKeySet names template =>
    let fields ← KeyFields.ofNames schema names
    let template ← match template with
      | some t => TagTemplate.parse t fields.names
      | none => .ok (TagTemplate.dotted fields.names)
    return { plant := x, router := .keyed fields template {} }

/-- The orchestrator that the settings ask for. The single pipeline is launched at once. -/
def build (schema : Schema) (x : Plant) : Except SettingsError Orchestrator :=
  match x.ground.blueprint.settings.routing with
  | .byKeySet _ _ => buildKeyed schema x
  | .singleton => do
    x.ground.blueprint.settings.check
    return { plant := launch singleTag [] x, router := .single true }

/-! ## Sinks -/

def sink? (id : Nat) (o : Orchestrator) : Option Sink := (o.sinks.find? (·.1 == id)).map (·.2)

def putSink (id : Nat) (s : Sink) (o : Orchestrator) : Orchestrator :=
  { o with sinks := o.sinks.map fun e => if e.1 == id then (id, s) else e }

def onBooks (f : Books → Books) (o : Orchestrator) : Orchestrator :=
  { o with plant := o.plant.onBooks f }

def now (o : Orchestrator) : Instant := o.plant.ground.now

def settings (o : Orchestrator) : PipelineSettings := o.plant.ground.blueprint.settings

def outlet (o : Orchestrator) (e : PipelineEntry) : Outlet :=
  ⟨e.id, { key := e.tag, limits := o.settings.buffer }⟩

/-- Drops a sink. What waits in it is lost. -/
def dropSink (id : Nat) (o : Orchestrator) : Orchestrator :=
  let lost := ((o.sink? id).map Sink.pending).getD []
  { o.onBooks (·.lose lost) with sinks := o.sinks.filter (·.1 != id) }

/-- A new sink for a connection, in place of one it may have. -/
def addSink (id : Nat) (o : Orchestrator) : Orchestrator :=
  let s := match o.router with
    | .single true => .single (some (o.outlet ⟨0, singleTag⟩))
    | .single false => .single none
    | .keyed _ _ _ => .keyed {}
  let o := o.dropSink id
  { o with sinks := o.sinks ++ [(id, s)] }

/-! ## Calls -/

/-- A call begins. All its sends have one deadline. -/
def begin (errands : List Errand) (o : Orchestrator) : Orchestrator :=
  { o with errands, deadline := o.now + o.settings.sendTimeout }

def accept (id : Nat) (records : Batch) (o : Orchestrator) : Orchestrator :=
  (o.onBooks (·.count (Counters.entered records.length))).begin (records.map (.route id))

/-- A sink is ticked: each of its buffers in turn. -/
def tick (id : Nat) (o : Orchestrator) : Orchestrator :=
  let n := ((o.sink? id).map Sink.size).getD 0
  o.begin ((List.range n).map fun i => .tick id i o.now)

/-- A sink is closed: everything in it is sent, and its buffers are let go of. -/
def close (id : Nat) (o : Orchestrator) : Orchestrator :=
  match o.sink? id with
  | none => o.begin []
  | some s => (o.putSink id s.emptied).begin (s.batches.map fun (i, b) => .send i b)

/-- Every input is closed, and the end of the pipelines waited for, as long as there is patience. -/
def shutDown (o : Orchestrator) : Orchestrator :=
  let errands := [.awaitStop (o.now + patience)]
  let o := { o with stopped := none }
  match o.router with
  | .single _ =>
    ({ o with plant := o.plant.onInput 0 Queue.close, router := .single false }).begin errands
  | .keyed fields template map =>
    let (entries, map) := map.destroy
    let plant := entries.foldl (fun (x : Plant) e => x.onInput e.2.id Queue.close) o.plant
    ({ o with plant, router := .keyed fields template map }).begin errands

/-! ## Errands -/

/-- Every pipeline has let go of its owner token. -/
def isQuiet (o : Orchestrator) : Bool :=
  match o.router with
  | .single _ => o.plant.running.isEmpty
  | .keyed _ _ map => map.isQuiet

/-- The errands without the first, behind a batch that is to be sent. -/
def next (b : Option (Nat × Batch)) (o : Orchestrator) : Orchestrator :=
  { o with errands := b.toList.map (fun (i, b) => .send i b) ++ o.errands.drop 1 }

/-- A record finds its buffer. For key values not seen before a pipeline is launched; after shutdown
a record without a buffer is lost. -/
def route (id : Nat) (r : Record) (o : Orchestrator) : Orchestrator :=
  match o.sink? id, o.router with
  | some (.single (some out)), _ =>
    let (b, out) := out.append o.now r
    (o.putSink id (.single (some out))).next b
  | some (.keyed cache), .keyed fields template map =>
    let key := fields.key r
    let make := fun (parts : List String) (token : Nat) =>
      PipelineEntry.mk token (template.render parts)
    match cache.getOrCreate make (fun _ e => o.outlet e) key map with
    | .error _ => (o.onBooks (·.lose [r])).next none
    | .ok (out, cache, map') =>
      let plant :=
        if map'.created = map.created then o.plant
        else launch out.buffer.key (KeySet.split key) o.plant
      let (b, out) := out.append o.now r
      ({ o with plant, router := .keyed fields template map' }.putSink id
        (.keyed (cache.put key out))).next b
  | _, _ => (o.onBooks (·.lose [r])).next none

def callAble (o : Orchestrator) : Bool :=
  match o.errands with
  | [] => false
  | .send i _ :: _ => o.plant.decides o.deadline i
  | .awaitStop limit :: _ => o.isQuiet || decide (limit ≤ o.now)
  | _ => true

/-- Does the first errand, if it can be done. -/
def callAct (o : Orchestrator) : Orchestrator :=
  match o.errands with
  | [] => o
  | .route id r :: _ => o.route id r
  | .tick id i now :: _ =>
    match o.sink? id with
    | none => o.next none
    | some s =>
      let (b, s) := s.tick now i
      (o.putSink id s).next b
  | .send i b :: _ =>
    match o.plant.send o.deadline i b with
    | .done plant => { o with plant }.next none
    | .failed reason => (o.onBooks (·.loseSend (reason = .timeout) b)).next none
    | .blocked => o
  | .awaitStop limit :: _ =>
    if o.isQuiet then { o with stopped := some true }.next none
    else if limit ≤ o.now then { o with stopped := some false }.next none
    else o

/-- When the call under way is decided at the latest. -/
def callLimit (o : Orchestrator) : Instant :=
  match o.errands with
  | .awaitStop limit :: _ => limit
  | _ => o.deadline

/-! ## Running -/

/-- A party's next step. A pipeline that stops lets go of its owner token. -/
def act (a : Actor) (o : Orchestrator) : Orchestrator :=
  let plant := o.plant.act a
  let stopped := plant.pipelines[a.pipeline]?.any Pipeline.isStopped
  let router := match o.router with
    | .keyed fields template map =>
      .keyed fields template (if stopped then map.release a.pipeline else map)
    | r => r
  { o with plant, router }

/-- What the clock may decide. -/
def due (o : Orchestrator) : List Instant :=
  match o.errands with
  | .send _ _ :: _ => o.deadline :: o.plant.due
  | .awaitStop limit :: _ => limit :: o.plant.due
  | _ => o.plant.due

/-- How many steps are left, at most, before the clock has to move. -/
def workload (o : Orchestrator) : Nat :=
  o.plant.workload + total (Errand.weight o.settings.workers) o.errands +
    total (fun e => Pipeline.batchWeight 1 * e.2.pending.length) o.sinks

def machine : Machine Orchestrator Actor where
  now := now
  setNow t o := { o with plant := o.plant.setNow t }
  parties o := o.plant.parties
  able o := o.plant.able
  act := act
  calling o := !o.errands.isEmpty
  callAble := callAble
  callAct := callAct
  due := due
  workload := workload

end Orchestrator

end LogPipeline
