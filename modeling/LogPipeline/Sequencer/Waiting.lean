import LogPipeline.Sequencer

/-!
# Waiting for a turn

A waiter keeps a reference to its ticket until the turn has come, then lets it go. Letting go may
complete the ticket and bring the turn of the next waiter, so one event can wake a whole chain.
-/

namespace LogPipeline

/-- A sequencer and the tickets that are waited for, in the order the waits began. -/
structure WaitingRoom where
  sequencer : Sequencer := {}
  waiting : List Nat := []
deriving DecidableEq, Repr, Inhabited

namespace WaitingRoom

/-- Wakes every waiter whose turn has come, and those whose turn this brings. The numbers come in
the order of waking. -/
def settle (r : WaitingRoom) : List Nat × WaitingRoom :=
  match _h : r.waiting.find? (fun n => r.sequencer.isTurn n) with
  | none => ([], r)
  | some n =>
    let (woken, r) := settle ⟨r.sequencer.release n, r.waiting.erase n⟩
    (n :: woken, r)
termination_by r.waiting.length
decreasing_by
  have hm := List.mem_of_find?_eq_some ‹_›
  have := List.length_erase_of_mem hm
  have := List.length_pos_of_mem hm
  omega

/-- A new waiter for a ticket, with a reference of its own. -/
def wait (n : Nat) (r : WaitingRoom) : WaitingRoom :=
  ⟨r.sequencer.share n, r.waiting ++ [n]⟩

/-- Changes the sequencer and leaves the waiters as they are. -/
def onSequencer (f : Sequencer → Sequencer) (r : WaitingRoom) : WaitingRoom :=
  { r with sequencer := f r.sequencer }

end WaitingRoom

end LogPipeline
