import LogPipeline.Proofs.Closings

/-!
# Calls on sinks return in time

All sends of a call on a sink have one deadline. A call that cannot go on waits in a send, and not
past it, whatever the call still has to do (`Depot.Sound.waits_of_unable`). So however many batches
a call has to send, to however many pipelines, it returns by its deadline (`Depot.visit_returns`).
-/

namespace LogPipeline.Depot

open Relation

variable {d d' : Depot} {k : Nat} {v : Visit}

/-- A depot under a clock that waits for calls, whatever the pipelines do: what is due for a call is
its deadline. -/
def clockwork : Clockwork Depot where
  now := now
  Move := Move
  Able d := ∃ v ∈ d.visits, (d.orchestrator.lend v).callAble = true
  Due d t := ∃ v ∈ d.visits, v.errands ≠ [] ∧ v.deadline = t

theorem exists_timed (h : d.Sound) : ∃ σ, clockwork.Timed σ ∧ σ 0 = d := by
  have hgo : ∀ d, d.Sound → clockwork.Able d →
      ∃ d', Move d d' ∧ d'.Sound ∧ d'.now = d.now ∧ d'.chores < d.chores := by
    rintro d h ⟨v, hv, ha⟩
    obtain ⟨k, hk⟩ := List.getElem?_of_mem hv
    exact ⟨d.goOn k, .inr (.goOn k), h.goOn k, h.now_goesOn (.visit hk ha), chores_goOn hk ha⟩
  have hwait : ∀ d, d.Sound → ¬clockwork.Able d → ∃ d', Move d d' ∧ d'.Sound ∧ d'.now = d.now + 1 :=
    fun d h _ => ⟨_, .inr (.setNow (d.now + 1)), h.turn (.setNow _), rfl⟩
  obtain ⟨σ, hσ, h0, -⟩ := Clockwork.exists_timed (c := clockwork) hgo hwait h
  exact ⟨σ, hσ, h0⟩

/-- A call keeps its sink and its deadline. -/
theorem visit_move (hm : Move d d') (hv : d.visits[k]? = some v) :
    ∃ v', d'.visits[k]? = some v' ∧ v'.sink = v.sink ∧ v'.deadline = v.deadline := by
  rcases visits_move hm hv with hv' | rfl
  · exact ⟨v, hv', rfl, rfl⟩
  · refine ⟨{ v with
      errands := (d.orchestrator.lend v).callAct.errands
      sender := (d.orchestrator.lend v).waitsFor }, ?_, rfl, rfl⟩
    simp only [Depot.goOn, hv]
    exact List.getElem?_set_self (List.getElem?_eq_some_iff.1 hv).1

/-- Call `k` is one on this sink with this deadline. -/
structure Until (k sink : Nat) (deadline : Instant) (d : Depot) : Prop where
  sound : d.Sound
  visit : ∃ v, d.visits[k]? = some v ∧ v.sink = sink ∧ v.deadline = deadline

/-- Call `k` has not returned. -/
def IsBusy (k : Nat) (d : Depot) : Prop := ∀ v, d.visits[k]? = some v → v.errands ≠ []

theorem bounds (k sink : Nat) (deadline : Instant) :
    clockwork.Bounds (IsBusy k) (Until k sink deadline) deadline := by
  refine ⟨fun {d d'} h _ hm => ?_, fun {d} h hbusy hable => ?_⟩
  · obtain ⟨v, hv, rfl, rfl⟩ := h.visit
    exact ⟨h.sound.move hm, visit_move hm hv⟩
  · obtain ⟨v, hv, -, rfl⟩ := h.visit
    have hmem := List.mem_of_getElem? hv
    have hne := hbusy v hv
    have hunable : (d.orchestrator.lend v).callAble = false :=
      Bool.eq_false_iff.2 fun ha => hable ⟨v, hmem, ha⟩
    exact ⟨v.deadline, ⟨v, hmem, hne, rfl⟩, (h.sound.waits_of_unable hmem hne hunable).1,
      Nat.le_refl _⟩

/-- Under a clock a call on a sink returns by its deadline. -/
theorem visit_returns {σ : ℕ → Depot} (hσ : clockwork.Timed σ) (h : (σ 0).Sound)
    (hv : (σ 0).visits[k]? = some v) :
    ∃ n v', (σ n).visits[k]? = some v' ∧ v'.sink = v.sink ∧ v'.errands = []
      ∧ (σ n).now ≤ max (σ 0).now v.deadline := by
  obtain ⟨n, -, hdone, ⟨-, v', hv', hsink, -⟩, hnow⟩ :=
    hσ.returns (bounds k v.sink v.deadline) ⟨h, v, hv, rfl, rfl⟩
  refine ⟨n, v', hv', hsink, ?_, hnow⟩
  by_contra hne
  refine hdone fun u hu => ?_
  obtain rfl := Option.some.inj (hu.symm.trans hv')
  exact hne

/-- A call on a sink that records are given to, that is ticked, or that is closed. -/
inductive Visits (id : Nat) (d : Depot) : Depot → Prop where
  | accept (l : Batch) : Visits id d (d.call id (d.orchestrator.accept id l))
  | tick : Visits id d (d.call id (d.orchestrator.tick id))
  | close : Visits id d (d.call id (d.orchestrator.close id))

/-- Under a clock a call on a sink returns by the time it has for its sends. -/
theorem Visits.returns {id : Nat} {σ : ℕ → Depot} (h : d.Sound) (hf : d.IsFree id)
    (hc : Visits id d (σ 0)) (hσ : clockwork.Timed σ) :
    ∃ n v, (σ n).visits[d.visits.length]? = some v ∧ v.sink = id ∧ v.errands = []
      ∧ (σ n).now ≤ d.now + d.orchestrator.settings.sendTimeout := by
  have hstart : ∃ v, (σ 0).visits[d.visits.length]? = some v ∧ v.sink = id
      ∧ v.deadline = d.now + d.orchestrator.settings.sendTimeout ∧ (σ 0).now = d.now
      ∧ (σ 0).Sound := by
    generalize σ 0 = d' at hc
    cases hc with
    | accept l =>
      exact ⟨_, List.getElem?_concat_length, rfl, rfl, rfl, h.ofCall (.accept id l hf)⟩
    | tick => exact ⟨_, List.getElem?_concat_length, rfl, rfl, rfl, h.ofCall (.tick id hf)⟩
    | close =>
      refine ⟨_, List.getElem?_concat_length, rfl, ?_, ?_, h.ofCall (.close id hf)⟩
      · unfold Orchestrator.close
        split <;> rfl
      · unfold Depot.call Depot.change Orchestrator.close
        split <;> rfl
  obtain ⟨v, hv, hsink, hdeadline, hnow, hsound⟩ := hstart
  obtain ⟨n, v', hv', hsink', hdone, hle⟩ := visit_returns hσ hsound hv
  refine ⟨n, v', hv', hsink'.trans hsink, hdone, ?_⟩
  rw [hnow, hdeadline] at hle
  exact Nat.le_trans hle (Nat.max_le.2 ⟨Nat.le_add_right _ _, Nat.le_refl _⟩)

end LogPipeline.Depot
