import LogPipeline.Sequencer
import Mathlib.Data.List.Nodup
import Mathlib.Tactic.Common

/-!
# Tickets complete in order

A ticket is open while somebody holds it. `Sequencer.Valid` says what the release point and the
parked numbers are in terms of the open tickets alone: the release point is the lowest open number,
and parked is exactly what has completed above it. Every operation keeps this (`Valid.issue`,
`Valid.share`, `Valid.release`), and the release point never moves back.
-/

namespace LogPipeline

namespace Sequencer

variable {s : Sequencer} {n m : Nat}

/-- The run was opened and nobody holds its ticket any more. -/
def Completed (s : Sequencer) (n : Nat) : Prop := n < s.issued ∧ n ∉ s.references

/-- The state of a sequencer follows from which tickets are held. -/
structure Valid (s : Sequencer) : Prop where
  next_le : s.next ≤ s.issued
  lt_issued : ∀ n ∈ s.references, n < s.issued
  le_of_mem : ∀ n ∈ s.references, s.next ≤ n
  next_mem : s.next < s.issued → s.next ∈ s.references
  nodup : s.parked.Nodup
  mem_parked : ∀ n, n ∈ s.parked ↔ s.next < n ∧ s.Completed n

/-- The walk stops at the first number that is not parked, and leaves what is parked above it. -/
theorem closeGap_spec (n : Nat) (parked : List Nat) (hd : parked.Nodup) :
    n ≤ (closeGap n parked).1 ∧ (∀ k, n ≤ k → k < (closeGap n parked).1 → k ∈ parked)
      ∧ (closeGap n parked).1 ∉ parked
      ∧ ∀ k, k ∈ (closeGap n parked).2 ↔ k ∈ parked ∧ (k < n ∨ (closeGap n parked).1 ≤ k) := by
  fun_induction closeGap n parked with
  | case1 n parked h ih =>
    obtain ⟨h1, h2, h3, h4⟩ := ih (hd.erase n)
    simp only [hd.mem_erase_iff] at h2 h3 h4
    have hn : (closeGap (n + 1) (parked.erase n)).1 ≠ n := by omega
    refine ⟨by omega, fun k hk hlt => ?_, fun hp => h3 ⟨hn, hp⟩, fun k => ?_⟩
    · rcases Nat.eq_or_lt_of_le hk with rfl | hk
      · exact h
      · exact (h2 k hk hlt).2
    · rw [h4]
      constructor
      · rintro ⟨⟨hne, hk⟩, hor⟩
        exact ⟨hk, by omega⟩
      · rintro ⟨hk, hor⟩
        exact ⟨⟨by omega, hk⟩, by omega⟩
  | case2 n parked h =>
    refine ⟨Nat.le_refl _, fun k h1 h2 => absurd h1 (by omega), h, fun k => ?_⟩
    exact ⟨fun hk => ⟨hk, by omega⟩, fun hk => hk.1⟩

theorem nodup_closeGap (n : Nat) (parked : List Nat) (hd : parked.Nodup) :
    (closeGap n parked).2.Nodup := by
  fun_induction closeGap n parked with
  | case1 n parked h ih => exact ih (hd.erase n)
  | case2 n parked h => exact hd

@[simp] theorem references_complete (n : Nat) (s : Sequencer) :
    (s.complete n).references = s.references := by
  unfold complete
  split <;> rfl

@[simp] theorem issued_complete (n : Nat) (s : Sequencer) : (s.complete n).issued = s.issued := by
  unfold complete
  split <;> rfl

@[simp] theorem references_release (n : Nat) (s : Sequencer) :
    (s.release n).references = s.references.erase n := by
  unfold release
  split
  · dsimp only
    split <;> simp
  · rw [List.erase_of_not_mem ‹_›]

@[simp] theorem issued_release (n : Nat) (s : Sequencer) : (s.release n).issued = s.issued := by
  unfold release
  split
  · dsimp only
    split <;> simp
  · rfl

@[simp] theorem references_share (n : Nat) (s : Sequencer) :
    (s.share n).references = n :: s.references := rfl

@[simp] theorem issued_share (n : Nat) (s : Sequencer) : (s.share n).issued = s.issued := rfl

@[simp] theorem next_share (n : Nat) (s : Sequencer) : (s.share n).next = s.next := rfl

@[simp] theorem issue_fst (s : Sequencer) : s.issue.1 = s.issued := rfl

@[simp] theorem references_issue (s : Sequencer) :
    s.issue.2.references = s.issued :: s.references := rfl

@[simp] theorem issued_issue (s : Sequencer) : s.issue.2.issued = s.issued + 1 := rfl

@[simp] theorem next_issue (s : Sequencer) : s.issue.2.next = s.next := rfl

theorem next_le_complete (s : Sequencer) (hd : s.parked.Nodup) :
    s.next ≤ (s.complete n).next := by
  unfold complete
  split
  · have := (closeGap_spec (n + 1) s.parked hd).1
    simp only
    omega
  · exact Nat.le_refl _

theorem next_le_release (s : Sequencer) (hd : s.parked.Nodup) : s.next ≤ (s.release n).next := by
  unfold release
  split
  · dsimp only
    split
    · exact Nat.le_refl _
    · exact next_le_complete { s with references := s.references.erase n } hd
  · exact Nat.le_refl _

theorem valid_empty : Valid {} := by
  constructor <;> simp [Completed]

theorem Valid.issue (h : s.Valid) : s.issue.2.Valid := by
  have hnm := h.next_mem
  refine ⟨?_, ?_, ?_, ?_, h.nodup, fun k => ?_⟩
  · have := h.next_le
    simp only [next_issue, issued_issue]
    omega
  · intro k hk
    simp only [references_issue, List.mem_cons, issued_issue] at hk ⊢
    rcases hk with rfl | hk
    · omega
    · have := h.lt_issued k hk
      omega
  · intro k hk
    simp only [references_issue, List.mem_cons, next_issue] at hk ⊢
    rcases hk with rfl | hk
    · exact h.next_le
    · exact h.le_of_mem k hk
  · intro hlt
    have := h.next_le
    simp only [references_issue, List.mem_cons, next_issue, issued_issue] at hlt ⊢
    by_cases hn : s.next = s.issued
    · exact .inl hn
    · exact .inr (hnm (by omega))
  · have hp := h.mem_parked k
    simp only [Completed, references_issue, List.mem_cons, next_issue, issued_issue] at hp ⊢
    change k ∈ s.parked ↔ _
    rw [hp]
    constructor
    · rintro ⟨h1, h2, h3⟩
      exact ⟨h1, by omega, by simp only [not_or]; exact ⟨by omega, h3⟩⟩
    · rintro ⟨h1, h2, h3⟩
      simp only [not_or] at h3
      exact ⟨h1, by omega, h3.2⟩

theorem Valid.share (h : s.Valid) (hn : n ∈ s.references) : (s.share n).Valid := by
  have hmem : ∀ k, k ∈ (s.share n).references ↔ k ∈ s.references := by
    intro k
    simp only [references_share, List.mem_cons]
    exact ⟨fun hk => hk.elim (fun e => e ▸ hn) id, .inr⟩
  refine ⟨h.next_le, fun k hk => h.lt_issued k ((hmem k).1 hk),
    fun k hk => h.le_of_mem k ((hmem k).1 hk), fun hlt => (hmem _).2 (h.next_mem hlt), h.nodup,
    fun k => ?_⟩
  rw [Completed, hmem]
  exact h.mem_parked k

theorem Valid.drop (h : s.Valid) (hn : n ∈ s.references.erase n) :
    Valid { s with references := s.references.erase n } := by
  have hmem : ∀ k, k ∈ s.references.erase n ↔ k ∈ s.references := by
    intro k
    by_cases hk : k = n
    · subst hk
      exact ⟨List.mem_of_mem_erase, fun _ => hn⟩
    · exact List.mem_erase_of_ne hk
  refine ⟨h.next_le, fun k hk => h.lt_issued k ((hmem k).1 hk),
    fun k hk => h.le_of_mem k ((hmem k).1 hk), fun hlt => (hmem _).2 (h.next_mem hlt), h.nodup,
    fun k => ?_⟩
  simp only [Completed, hmem]
  exact h.mem_parked k

/-- The run that is due has completed. Every number up to the new release point had completed. -/
theorem Valid.advance {refs : List Nat} (h : s.Valid) (hn : s.next ∈ s.references)
    (hmem : ∀ k, k ∈ refs ↔ k ∈ s.references ∧ k ≠ s.next) :
    Valid { s with
      references := refs
      next := (closeGap (s.next + 1) s.parked).1
      parked := (closeGap (s.next + 1) s.parked).2 } := by
  have hlt := h.lt_issued s.next hn
  obtain ⟨h1, h2, h3, h4⟩ := closeGap_spec (s.next + 1) s.parked h.nodup
  set g := closeGap (s.next + 1) s.parked
  have hgone : ∀ k, s.next < k → k < g.1 → s.Completed k := fun k hk hg =>
    ((h.mem_parked k).1 (h2 k (by omega) hg)).2
  have hgle : g.1 ≤ s.issued := by
    by_contra hc
    have := (hgone s.issued (by omega) (by omega)).1
    omega
  refine ⟨hgle, fun k hk => h.lt_issued k ((hmem k).1 hk).1, fun k hk => ?_, fun hgl => ?_,
    nodup_closeGap _ _ h.nodup, fun k => ?_⟩
  · obtain ⟨hk, hkn⟩ := (hmem k).1 hk
    have := h.le_of_mem k hk
    change g.1 ≤ k
    by_contra hc
    exact (hgone k (by omega) (by omega)).2 hk
  · simp only [hmem]
    by_contra hc
    have hg : g.1 ∉ s.references := fun hm => hc ⟨hm, by omega⟩
    exact h3 ((h.mem_parked g.1).2 ⟨by omega, hgl, hg⟩)
  · change k ∈ g.2 ↔ _
    simp only [Completed, hmem]
    rw [h4, h.mem_parked, Completed]
    constructor
    · rintro ⟨⟨hk1, hk2, hk3⟩, hk4⟩
      have : k ≠ g.1 := fun e => h3 ((h.mem_parked g.1).2 (e ▸ ⟨hk1, hk2, hk3⟩))
      exact ⟨by omega, hk2, fun hk => hk3 hk.1⟩
    · rintro ⟨hk1, hk2, hk3⟩
      exact ⟨⟨by omega, hk2, fun hk => hk3 ⟨hk, by omega⟩⟩, .inr (by omega)⟩

/-- A later run than the one that is due has completed, and is parked. -/
theorem Valid.park {refs : List Nat} (h : s.Valid) (hn : n ∈ s.references) (hnext : n ≠ s.next)
    (hmem : ∀ k, k ∈ refs ↔ k ∈ s.references ∧ k ≠ n) :
    Valid { s with references := refs, parked := n :: s.parked } := by
  have hlt := h.lt_issued n hn
  have hle := h.le_of_mem n hn
  refine ⟨h.next_le, fun k hk => h.lt_issued k ((hmem k).1 hk).1,
    fun k hk => h.le_of_mem k ((hmem k).1 hk).1, fun hl => ?_, ?_, fun k => ?_⟩
  · exact (hmem _).2 ⟨h.next_mem hl, hnext.symm⟩
  · exact List.nodup_cons.2 ⟨fun hp => ((h.mem_parked n).1 hp).2.2 hn, h.nodup⟩
  · simp only [List.mem_cons, Completed, hmem, h.mem_parked]
    constructor
    · rintro (rfl | ⟨hk1, hk2, hk3⟩)
      · exact ⟨by omega, hlt, fun hk => hk.2 rfl⟩
      · exact ⟨hk1, hk2, fun hk => hk3 hk.1⟩
    · rintro ⟨hk1, hk2, hk3⟩
      by_cases hkn : k = n
      · exact .inl hkn
      · exact .inr ⟨hk1, hk2, fun hk => hk3 ⟨hk, hkn⟩⟩

/-- The last reference to a ticket is given up. -/
theorem Valid.complete (h : s.Valid) (hn : n ∈ s.references) (hne : n ∉ s.references.erase n) :
    (complete n { s with references := s.references.erase n }).Valid := by
  have hmem : ∀ k, k ∈ s.references.erase n ↔ k ∈ s.references ∧ k ≠ n := by
    intro k
    by_cases hk : k = n
    · subst hk
      simp [hne]
    · simp [List.mem_erase_of_ne hk, hk]
  unfold Sequencer.complete
  split
  · rename_i hnext
    obtain rfl : n = s.next := hnext
    exact h.advance hn hmem
  · rename_i hnext
    exact h.park hn hnext hmem

theorem Valid.release (h : s.Valid) (n : Nat) : (s.release n).Valid := by
  unfold Sequencer.release
  split
  · dsimp only
    split
    · exact h.drop ‹_›
    · exact h.complete ‹_› ‹_›
  · exact h

/-- Below the release point everything has completed. -/
theorem Valid.completed_of_lt (h : s.Valid) (hn : n < s.next) : s.Completed n :=
  ⟨by have := h.next_le; omega, fun hm => by have := h.le_of_mem n hm; omega⟩

/-- What has completed stays so, as long as only new runs are opened. -/
theorem Completed.mono {s' : Sequencer} (h : s.Completed n) (hi : s.issued ≤ s'.issued)
    (hr : ∀ k ∈ s'.references, k ∈ s.references ∨ s.issued ≤ k) : s'.Completed n := by
  refine ⟨by have := h.1; omega, fun hn => ?_⟩
  rcases hr n hn with hn | hn
  · exact h.2 hn
  · have := h.1
    omega

theorem Completed.release (h : s.Completed n) (m : Nat) : (s.release m).Completed n :=
  h.mono (by simp) fun k hk => .inl (List.mem_of_mem_erase (by simpa using hk))

theorem isTurn_iff : s.isTurn n = true ↔ n ≤ s.next := by simp [isTurn]

/-- When nobody holds a ticket, every run has completed and nothing is parked. -/
theorem Valid.next_eq_issued (h : s.Valid) (hr : s.references = []) :
    s.next = s.issued ∧ s.parked = [] := by
  have hn : s.next = s.issued := by
    by_contra hc
    have := h.next_mem (by have := h.next_le; omega)
    simp [hr] at this
  refine ⟨hn, List.eq_nil_iff_forall_not_mem.2 fun k hk => ?_⟩
  obtain ⟨h1, h2, -⟩ := (h.mem_parked k).1 hk
  omega

end Sequencer

end LogPipeline
