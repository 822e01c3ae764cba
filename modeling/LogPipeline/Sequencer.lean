/-!
# Tickets that keep parallel runs in order

A sequencer numbers runs 0, 1, 2, … and knows which of them have completed. A ticket may be held by
several owners at once and completes when the last of them lets go. It is a ticket's turn once every
lower number has completed. Numbers that complete early are parked until the gap below them closes.
-/

namespace LogPipeline

/-- `next` is the lowest number not yet completed, `parked` the completed numbers above it, and
`references` holds a ticket number once for every owner that still has it. -/
structure Sequencer where
  issued : Nat := 0
  next : Nat := 0
  parked : List Nat := []
  references : List Nat := []
deriving DecidableEq, Repr, Inhabited

namespace Sequencer

/-- Hands out the next ticket, to one owner. -/
def issue (s : Sequencer) : Nat × Sequencer :=
  (s.issued, { s with issued := s.issued + 1, references := s.issued :: s.references })

/-- One more owner for a ticket. -/
def share (n : Nat) (s : Sequencer) : Sequencer := { s with references := n :: s.references }

def isTurn (n : Nat) (s : Sequencer) : Bool := decide (n ≤ s.next)

/-- The first number from `n` on that is not parked, and what is parked above it. Each number that
is passed leaves the list, so the list bounds the walk. -/
def closeGap (n : Nat) (parked : List Nat) : Nat × List Nat :=
  if h : n ∈ parked then closeGap (n + 1) (parked.erase n) else (n, parked)
termination_by parked.length
decreasing_by
  have := List.length_erase_of_mem h
  have := List.length_pos_of_mem h
  omega

/-- A run has completed. It is parked if an earlier run is still open; otherwise the release point
moves past it and past every parked number that follows without a gap. -/
def complete (n : Nat) (s : Sequencer) : Sequencer :=
  if n = s.next then
    let (next, parked) := closeGap (n + 1) s.parked
    { s with next, parked }
  else { s with parked := n :: s.parked }

/-- One owner lets go of a ticket. The last one to do so completes it. -/
def release (n : Nat) (s : Sequencer) : Sequencer :=
  if n ∈ s.references then
    let s := { s with references := s.references.erase n }
    if n ∈ s.references then s else s.complete n
  else s

/-- The number of runs that completed ahead of an open one. -/
def parkedCount (s : Sequencer) : Nat := s.parked.length

end Sequencer

end LogPipeline
