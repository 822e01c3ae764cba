import LogPipeline.Schedule
import Mathlib.Logic.Relation

/-!
# What a schedule can do

However the parties of a machine are scheduled, the state changes only when a party acts, when the
caller goes on, or when the clock is set. So what holds after any sequence of those (`Moves`) holds
after everybody has acted until nobody can, after time has passed, and after a call.
-/

namespace LogPipeline

/-- Steps that may come at any point may come one after the other. -/
theorem reaches_foldl {α β : Type} {R : α → α → Prop} {f : α → β → α}
    (hf : ∀ x b, Relation.ReflTransGen R x (f x b)) (l : List β) (x : α) :
    Relation.ReflTransGen R x (l.foldl f x) := by
  induction l generalizing x with
  | nil => exact .refl
  | cons b l ih => exact (hf x b).trans (ih (f x b))

namespace Machine

variable {σ κ : Type}

/-- One change of the state of a machine. -/
inductive Moves (m : Machine σ κ) (x : σ) : σ → Prop where
  | act (k : κ) : Moves m x (m.act k x)
  | call : Moves m x (m.callAct x)
  | setNow (t : Instant) : Moves m x (m.setNow t x)

/-- Any number of changes. -/
def Reaches (m : Machine σ κ) : σ → σ → Prop := Relation.ReflTransGen m.Moves

variable (m : Machine σ κ)

theorem reaches_settleParties (fuel : Nat) (r : Running σ κ) :
    m.Reaches r.state (m.settleParties fuel r).state := by
  induction fuel generalizing r with
  | zero => exact .refl
  | succ fuel ih =>
    simp only [settleParties]
    split
    · exact .refl
    · rename_i k rest hk
      exact .trans (.single (.act k)) (ih ⟨m.act k r.state, _⟩)

theorem reaches_runCaller (fuel : Nat) (r : Running σ κ) :
    m.Reaches r.state (m.runCaller fuel r).state := by
  induction fuel generalizing r with
  | zero => exact .refl
  | succ fuel ih =>
    simp only [runCaller]
    split
    · exact .trans (.single .call) (ih ⟨m.callAct r.state, _⟩)
    · exact .refl

theorem reaches_settleRounds (fuel : Nat) (r : Running σ κ) :
    m.Reaches r.state (m.settleRounds fuel r).state := by
  induction fuel generalizing r with
  | zero => exact .refl
  | succ fuel ih =>
    simp only [settleRounds]
    let r₁ : Running σ κ := { r with schedule := (r.schedule.enroll m r.state).wake m r.state }
    let r₂ := m.runCaller (m.workload r.state) r₁
    have hcaller := m.reaches_runCaller (m.workload r.state) r₁
    have hparties := m.reaches_settleParties (m.workload r₂.state) r₂
    split
    · exact (hcaller.trans hparties).trans (ih _)
    · exact hcaller.trans hparties

theorem reaches_settle (r : Running σ κ) : m.Reaches r.state (m.settle r).state :=
  m.reaches_settleRounds _ r

theorem reaches_passUntil (target : Instant) (fuel : Nat) (r : Running σ κ) :
    m.Reaches r.state (m.passUntil target fuel r).state := by
  induction fuel generalizing r with
  | zero => exact .refl
  | succ fuel ih =>
    simp only [passUntil]
    split
    · rename_i t ht
      have hsettle := m.reaches_settle { r with state := m.setNow t r.state }
      exact .trans (.single (.setNow t)) (hsettle.trans (ih _))
    · exact .trans (.single (.setNow target))
        (m.reaches_settle { r with state := m.setNow target r.state })

theorem reaches_advance (ms : Nat) (r : Running σ κ) :
    m.Reaches r.state (m.advance ms r).state :=
  (m.reaches_settle r).trans (m.reaches_passUntil _ _ _)

theorem reaches_awaitCall (limit : Instant) (fuel : Nat) (r : Running σ κ) :
    m.Reaches r.state (m.awaitCall limit fuel r).state := by
  induction fuel generalizing r with
  | zero => exact .refl
  | succ fuel ih =>
    simp only [awaitCall]
    split
    · split
      · rename_i t ht
        have hsettle := m.reaches_settle { r with state := m.setNow t r.state }
        exact .trans (.single (.setNow t)) (hsettle.trans (ih _))
      · exact .refl
    · exact .refl

theorem reaches_call (limit : Instant) (r : Running σ κ) :
    m.Reaches r.state (m.call limit r).state :=
  (m.reaches_settle r).trans (m.reaches_awaitCall _ _ _)

end Machine

end LogPipeline
