import LogPipeline.Record

/-!
# The pool of idle records

Idle records wait in one queue per size class, a power of two between `2 ^ 6` and `2 ^ 16` bytes of
field storage. A request is served from the smallest class that is sure to hold it, or a larger one;
a returned record goes to the largest class its storage covers. Every queue is first in, first out,
and holds at most `perClass` records.
-/

namespace LogPipeline

/-- Idle records by size class, with the totals of what was asked for and what came back. -/
structure RecordPool where
  perClass : Nat
  classes : List (List Record)
  hits : Nat := 0
  misses : Nat := 0
  returns : Nat := 0
  drops : Nat := 0
deriving DecidableEq, Repr, Inhabited

namespace RecordPool

def minClassBytes : Nat := 64

def maxClassBytes : Nat := 65536

def classCount : Nat := 11

/-- A pool without idle records; every class holds at least one. -/
def new (perClass : Nat) : RecordPool :=
  { perClass := max perClass 1, classes := List.replicate classCount [] }

/-- The smallest class whose records can hold `bytes` bytes without growing, if there is one. -/
def requestClass (bytes : Nat) : Option Nat :=
  if maxClassBytes < bytes then none
  else some (Nat.log2 (max bytes minClassBytes - 1) + 1 - 6)

/-- The largest class that a storage of `room` bytes covers; a smaller storage counts as the
smallest class, and one beyond the largest class as the largest. -/
def releaseClass (room : Nat) : Nat :=
  if room < minClassBytes then 0 else Nat.log2 (min room maxClassBytes) - 6

/-- Takes the oldest record of the first non-empty class from class `i` on. -/
def takeFrom : Nat → List (List Record) → Option (Record × List (List Record))
  | _, [] => none
  | i + 1, q :: qs => (takeFrom i qs).map fun (r, qs) => (r, q :: qs)
  | 0, [] :: qs => (takeFrom 0 qs).map fun (r, qs) => (r, [] :: qs)
  | 0, (r :: q) :: qs => some (r, q :: qs)

/-- An idle record made ready for a new owner: no content, and exactly `arity` fields. -/
def refit (arity : Nat) (r : Record) : Record :=
  { timestamp := 0
    size := 0
    fields := r.fields.take arity ++ List.replicate (arity - r.fields.length) (Field.blank 0) }

/-- A new record whose `arity` fields share `hint` bytes of storage. -/
def fresh (arity hint : Nat) : Record :=
  { fields := List.replicate arity (Field.blank (hint / arity)) }

/-- A record with `arity` empty fields and room for about `hint` bytes. -/
def acquire (arity hint : Nat) (p : RecordPool) : Record × RecordPool :=
  match (requestClass hint).bind (takeFrom · p.classes) with
  | some (r, classes) => (refit arity r, { p with classes, hits := p.hits + 1 })
  | none => (fresh arity hint, { p with misses := p.misses + 1 })

/-- Takes a record back. One with far more storage than the largest class, or whose class is full,
is dropped. -/
def release (r : Record) (p : RecordPool) : RecordPool :=
  if maxClassBytes * 2 < r.room then { p with drops := p.drops + 1 }
  else
    let c := releaseClass r.room
    if (p.classes[c]?.getD []).length < p.perClass then
      { p with classes := p.classes.modify c (· ++ [r.clear]), returns := p.returns + 1 }
    else { p with drops := p.drops + 1 }

/-- Takes back every record of a batch, in order. -/
def releaseAll (b : Batch) (p : RecordPool) : RecordPool := b.foldl (fun p r => p.release r) p

def available (p : RecordPool) : Nat := total List.length p.classes

def describe (p : RecordPool) : String :=
  "RecordPool \x7b available: " ++ toString p.available ++
  ", metrics: PoolSnapshot \x7b hits: " ++ toString p.hits ++
  ", misses: " ++ toString p.misses ++
  ", returns: " ++ toString p.returns ++
  ", drops: " ++ toString p.drops ++ " \x7d \x7d"

@[simp] theorem releaseAll_nil (p : RecordPool) : p.releaseAll [] = p := rfl

@[simp] theorem releaseAll_cons (r : Record) (b : Batch) (p : RecordPool) :
    p.releaseAll (r :: b) = (p.release r).releaseAll b := rfl

theorem releaseAll_append (a b : Batch) (p : RecordPool) :
    p.releaseAll (a ++ b) = (p.releaseAll a).releaseAll b := by
  simp [releaseAll]

/-- Every record given back is either kept or dropped. -/
theorem release_returns_drops (r : Record) (p : RecordPool) :
    (p.release r).returns + (p.release r).drops = p.returns + p.drops + 1 := by
  unfold release
  split
  · simp; omega
  · simp only
    split <;> simp <;> omega

end RecordPool

end LogPipeline
