import LogPipeline.Record
import Mathlib.Data.Nat.Find
import Mathlib.Order.Monotone.Basic
import Mathlib.Order.WellFounded

/-!
# Calls under a clock

The clock waits for a call that can go on, and stops at every instant at which something is due for
a call that cannot. Under such a clock a call that never waits for anything but what is due by some
time has returned by then (`Clockwork.Timed.returns`). There is a run under such a clock wherever a
call that can go on does so only so many times (`Clockwork.exists_timed`).
-/

namespace LogPipeline

/-- A clock that never goes back, and always goes on again, passes every time. -/
theorem exists_le_of_ticks {now : ℕ → Instant} (hforward : ∀ n, now n ≤ now (n + 1))
    (hticks : ∀ n, ∃ k, now (n + k) < now (n + k + 1)) (t : Instant) : ∃ n, t ≤ now n := by
  induction t with
  | zero => exact ⟨0, Nat.zero_le _⟩
  | succ t ih =>
    obtain ⟨n, hn⟩ := ih
    obtain ⟨k, hk⟩ := hticks n
    have hle : now n ≤ now (n + k) := monotone_nat_of_le_succ hforward (Nat.le_add_right n k)
    exact ⟨n + k + 1, Nat.succ_le_of_lt (Nat.lt_of_le_of_lt (Nat.le_trans hn hle) hk)⟩

/-- What happens while calls are under way: what may come next, whether a call can go on, and what
is due for those that cannot. -/
structure Clockwork (α : Type) where
  now : α → Instant
  Move : α → α → Prop
  Able : α → Prop
  Due : α → Instant → Prop

namespace Clockwork

variable {α : Type} {c : Clockwork α}

/-- An endless run under a clock that waits for every call that can go on, passes over nothing that
is due, and never stands still for ever. -/
structure Timed (c : Clockwork α) (σ : ℕ → α) : Prop where
  moves : ∀ n, c.Move (σ n) (σ (n + 1))
  forward : ∀ n, c.now (σ n) ≤ c.now (σ (n + 1))
  patient : ∀ n, c.now (σ n) < c.now (σ (n + 1)) → ¬c.Able (σ n)
  punctual : ∀ n t, c.Due (σ n) t → c.now (σ n) < t → c.now (σ (n + 1)) ≤ t
  endless : ∀ t, ∃ n, t ≤ c.now (σ n)

/-- A call keeps something as long as it is under way, from which follows that it waits for
something due by `limit` whenever it cannot go on. -/
structure Bounds (c : Clockwork α) (Busy Kept : α → Prop) (limit : Instant) : Prop where
  move : ∀ {x y}, Kept x → Busy x → c.Move x y → Kept y
  due : ∀ {x}, Kept x → Busy x → ¬c.Able x → ∃ t, c.Due x t ∧ c.now x < t ∧ t ≤ limit

section

variable {σ : ℕ → α} {Busy Kept : α → Prop} {limit : Instant} {n : ℕ}

/-- A call that has not returned is not later than its limit. -/
theorem Timed.now_le (h : c.Timed σ) (hb : c.Bounds Busy Kept limit) (h0 : Kept (σ 0))
    (hbusy : ∀ k < n, Busy (σ k)) :
    Kept (σ n) ∧ c.now (σ n) ≤ max (c.now (σ 0)) limit := by
  induction n with
  | zero => exact ⟨h0, Nat.le_max_left _ _⟩
  | succ n ih =>
    obtain ⟨hkept, hle⟩ := ih fun k hk => hbusy k (Nat.lt_succ_of_lt hk)
    have hnow := hbusy n (Nat.lt_succ_self n)
    refine ⟨hb.move hkept hnow (h.moves n), ?_⟩
    rcases Nat.lt_or_ge (c.now (σ n)) (c.now (σ (n + 1))) with hlt | hge
    · obtain ⟨t, ht, hlate, hlimit⟩ := hb.due hkept hnow (h.patient n hlt)
      exact Nat.le_trans (h.punctual n t ht hlate) (Nat.le_trans hlimit (Nat.le_max_right _ _))
    · exact Nat.le_trans hge hle

/-- A call that never waits for anything but what is due by `limit` has returned by then. -/
theorem Timed.returns (h : c.Timed σ) (hb : c.Bounds Busy Kept limit) (h0 : Kept (σ 0)) :
    ∃ n, (∀ k < n, Busy (σ k)) ∧ ¬Busy (σ n) ∧ Kept (σ n)
      ∧ c.now (σ n) ≤ max (c.now (σ 0)) limit := by
  classical
  have hends : ∃ n, ¬Busy (σ n) := by
    by_contra hno
    have hbusy : ∀ n, Busy (σ n) := fun n => of_not_not fun hn => hno ⟨n, hn⟩
    obtain ⟨n, hn⟩ := h.endless (max (c.now (σ 0)) limit + 1)
    have hle := (h.now_le hb h0 (n := n) fun k _ => hbusy k).2
    exact absurd hn (Nat.not_le_of_lt (Nat.lt_succ_of_le hle))
  have hbefore : ∀ k < Nat.find hends, Busy (σ k) := fun k hk => of_not_not (Nat.find_min hends hk)
  exact ⟨Nat.find hends, hbefore, Nat.find_spec hends, h.now_le hb h0 hbefore⟩

end

/-- There is a run from everywhere if a call that can go on comes closer to its end as it does, and
time can pass otherwise. -/
theorem exists_timed {ι : Type*} [Preorder ι] [WellFoundedLT ι] {Inv : α → Prop} {rank : α → ι}
    (hgo : ∀ x, Inv x → c.Able x →
      ∃ y, c.Move x y ∧ Inv y ∧ c.now y = c.now x ∧ rank y < rank x)
    (hwait : ∀ x, Inv x → ¬c.Able x → ∃ y, c.Move x y ∧ Inv y ∧ c.now y = c.now x + 1)
    {x : α} (hx : Inv x) : ∃ σ, c.Timed σ ∧ σ 0 = x ∧ ∀ n, Inv (σ n) := by
  have hnext : ∀ x : { x // Inv x }, ∃ y : { x // Inv x }, c.Move x y
      ∧ (c.Able x ∧ c.now y = c.now x ∧ rank y < rank x ∨ ¬c.Able x ∧ c.now y = c.now x + 1) := by
    rintro ⟨x, hx⟩
    by_cases ha : c.Able x
    · obtain ⟨y, hm, hy, hnow, hlt⟩ := hgo x hx ha
      exact ⟨⟨y, hy⟩, hm, .inl ⟨ha, hnow, hlt⟩⟩
    · obtain ⟨y, hm, hy, hnow⟩ := hwait x hx ha
      exact ⟨⟨y, hy⟩, hm, .inr ⟨ha, hnow⟩⟩
  choose next hnext using hnext
  let σ : ℕ → { x // Inv x } := fun n => Nat.rec ⟨x, hx⟩ (fun _ => next) n
  have hmove : ∀ n, c.Move (σ n).1 (σ (n + 1)).1 := fun n => (hnext (σ n)).1
  have hcases : ∀ n, c.Able (σ n).1 ∧ c.now (σ (n + 1)).1 = c.now (σ n).1
        ∧ rank (σ (n + 1)).1 < rank (σ n).1
      ∨ ¬c.Able (σ n).1 ∧ c.now (σ (n + 1)).1 = c.now (σ n).1 + 1 := fun n => (hnext (σ n)).2
  have hforward : ∀ n, c.now (σ n).1 ≤ c.now (σ (n + 1)).1 := fun n => by
    rcases hcases n with ⟨-, hnow, -⟩ | ⟨-, hnow⟩
    · exact Nat.le_of_eq hnow.symm
    · exact Nat.le_trans (Nat.le_succ _) (Nat.le_of_eq hnow.symm)
  refine ⟨fun n => (σ n).1, ⟨hmove, hforward, fun n hlt => ?_, fun n t _ ht => ?_,
    exists_le_of_ticks hforward fun n => ?_⟩, rfl, fun n => (σ n).2⟩
  · rcases hcases n with ⟨-, hnow, -⟩ | ⟨hable, -⟩
    · exact absurd hnow (Nat.ne_of_gt hlt)
    · exact hable
  · rcases hcases n with ⟨-, hnow, -⟩ | ⟨-, hnow⟩
    · exact Nat.le_trans (Nat.le_of_eq hnow) (Nat.le_of_lt ht)
    · exact Nat.le_trans (Nat.le_of_eq hnow) ht
  · -- what an instant holds comes to an end, since the rank cannot fall for ever
    obtain ⟨k, hk⟩ := WellFounded.not_rel_apply_succ (r := (· < ·)) fun k => rank (σ (n + k)).1
    rcases hcases (n + k) with ⟨-, -, hlt⟩ | ⟨-, hnow⟩
    · exact absurd hlt hk
    · exact ⟨k, Nat.lt_of_lt_of_le (Nat.lt_succ_self _) (Nat.le_of_eq hnow.symm)⟩

end Clockwork

end LogPipeline
