import LogPipeline.Rig.Mailbox
import Mathlib.Logic.Relation

/-!
# An item is sent once or handed back

What one sender puts on a queue is what its attempts append to it. Whatever else happens to the
queue while a send waits, the send appends its item once and succeeds, or appends nothing, fails,
and hands the item back (`Consignment.settles`).
-/

namespace LogPipeline

open Relation

/-- A mailbox, with a note of what its sender has put on the queue. -/
structure Consignment (α : Type) where
  mailbox : Mailbox α
  entered : List α := []

namespace Consignment

variable {α : Type} {x y : Consignment α} {a : α} {entered : List α} {deadline : Instant}

/-- A send has not returned. -/
def IsBusy (x : Consignment α) : Prop := x.mailbox.sending ≠ none

/-- A send begins, with a deadline that may have passed. -/
def send (a : α) (deadline : Instant) (x : Consignment α) : Consignment α :=
  { x with mailbox := { x.mailbox with
      sending := some (a, deadline), sent := none, returned := none } }

/-- A mailbox is asked to send with a timeout. -/
theorem send_timeout (timeout : Nat) :
    { x with mailbox := x.mailbox.send a timeout } = x.send a (x.mailbox.now + timeout) := rfl

/-- The send under way tries to go on. What it appends to the queue is noted. -/
def attempt (x : Consignment α) : Consignment α :=
  { mailbox := x.mailbox.callAct
    entered := x.entered ++ x.mailbox.callAct.queue.items.drop x.mailbox.queue.items.length }

/-- What may happen until a send returns: it tries to go on, others do anything to the queue, and
time passes. -/
inductive Wait (x : Consignment α) : Consignment α → Prop where
  | attempt (hb : x.IsBusy) : Wait x x.attempt
  | others (hb : x.IsBusy) (queue : Queue α) (holder : Holder) :
    Wait x { x with mailbox := { x.mailbox with queue, holder } }
  | pass (hb : x.IsBusy) (t : Instant) (ht : x.mailbox.now ≤ t) :
    Wait x { x with mailbox := { x.mailbox with now := t } }

theorem Wait.isBusy (hw : Wait x y) : x.IsBusy := by
  cases hw <;> assumption

/-- What is noted of an attempt is what it puts on the queue, behind all that was there. -/
theorem attempt_appends (x : Consignment α) :
    ∃ l, x.attempt.entered = x.entered ++ l
      ∧ x.attempt.mailbox.queue.items = x.mailbox.queue.items ++ l := by
  refine ⟨_, rfl, ?_⟩
  unfold Consignment.attempt Mailbox.callAct
  dsimp only
  split
  · simp
  · split
    · rename_i hsend
      simp [Queue.items_of_trySend hsend]
    · simp
    · simp

/-- A send of `a` has not come to a decision, has put it on the queue, or hands it back. -/
inductive Sends (a : α) (entered : List α) (x : Consignment α) : Prop where
  | underway {d : Instant} (hs : x.mailbox.sending = some (a, d))
    (hn : x.mailbox.sent = none) (hr : x.mailbox.returned = none) (he : x.entered = entered)
  | success (hs : x.mailbox.sending = none) (hn : x.mailbox.sent = none)
    (hr : x.mailbox.returned = none) (he : x.entered = entered ++ [a])
  | failure (hs : x.mailbox.sending = none) (hn : x.mailbox.sent ≠ none)
    (hr : x.mailbox.returned = some a) (he : x.entered = entered)

theorem Sends.wait (h : x.Sends a entered) (hw : Wait x y) : y.Sends a entered := by
  cases h with
  | success hs => exact absurd hs hw.isBusy
  | failure hs => exact absurd hs hw.isBusy
  | underway hs hn hr he =>
    cases hw with
    | attempt hb =>
      unfold Consignment.attempt Mailbox.callAct
      rw [hs]
      dsimp only
      split
      · rename_i queue hsend
        refine .success rfl hn hr ?_
        simp [he, Queue.items_of_trySend hsend]
      · exact .failure rfl nofun rfl (by simp [he])
      · exact .underway hs hn hr (by simp [he])
    | others hb => exact .underway hs hn hr he
    | pass hb => exact .underway hs hn hr he

theorem sends_of_waits (hw : ReflTransGen Wait (x.send a deadline) y) :
    y.Sends a x.entered := by
  induction hw with
  | refl => exact .underway rfl rfl rfl rfl
  | tail _ hw ih => exact ih.wait hw

/-- A send that has returned put its item on the queue once, or failed and hands it back. -/
theorem settles (hw : ReflTransGen Wait (x.send a deadline) y) (hi : ¬y.IsBusy) :
    y.mailbox.sent = none ∧ y.mailbox.returned = none ∧ y.entered = x.entered ++ [a]
      ∨ y.mailbox.sent ≠ none ∧ y.mailbox.returned = some a ∧ y.entered = x.entered := by
  cases sends_of_waits hw with
  | underway hs => exact absurd (fun hn => nomatch hs.symm.trans hn) hi
  | success _ hn hr he => exact .inl ⟨hn, hr, he⟩
  | failure _ hn hr he => exact .inr ⟨hn, hr, he⟩

end Consignment

end LogPipeline
