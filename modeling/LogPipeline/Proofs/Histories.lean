import LogPipeline.Proofs.Tickets
import Mathlib.Data.List.Induction

/-!
# Tickets over whole histories

A history lists what was done with the tickets of one sequencer. How many owners a ticket has, and
so whether it is over, follows from the history by counting alone (`owners`, `Over`), and the
sequencer agrees with the count (`count_played`). So its release point is the lowest ticket that is
not over, parked is what is over above it, and a ticket is taken for completed by one step, that of
its last owner (`exists_end`).
-/

namespace LogPipeline

/-- One thing done with tickets: the next one is handed out, a ticket gets one more owner, an owner
lets go. -/
inductive TicketOp where
  | issue
  | share (n : Nat)
  | drop (n : Nat)
deriving DecidableEq

def TicketOp.act : TicketOp → Sequencer → Sequencer
  | issue, s => s.issue.2
  | share n, s => s.share n
  | drop n, s => s.release n

/-- The sequencer after a history. -/
def played (l : List TicketOp) : Sequencer := l.foldl (fun s op => op.act s) {}

/-- The number of tickets that a history hands out. -/
def issues (l : List TicketOp) : Nat := l.count .issue

/-- How many owners a history leaves a ticket. -/
def owners (n : Nat) (l : List TicketOp) : Nat :=
  (if n < issues l then 1 else 0) + l.count (.share n) - l.count (.drop n)

/-- The ticket was handed out and has no owner any more. -/
def Over (l : List TicketOp) (n : Nat) : Prop := n < issues l ∧ owners n l = 0

instance (l : List TicketOp) (n : Nat) : Decidable (Over l n) := inferInstanceAs (Decidable (_ ∧ _))

/-- Only who owns a ticket shares it or lets it go. -/
inductive Legal : List TicketOp → Prop where
  | nil : Legal []
  | issue {l : List TicketOp} (h : Legal l) : Legal (l ++ [.issue])
  | share {l : List TicketOp} {n : Nat} (h : Legal l) (hn : 0 < owners n l) :
    Legal (l ++ [.share n])
  | drop {l : List TicketOp} {n : Nat} (h : Legal l) (hn : 0 < owners n l) : Legal (l ++ [.drop n])

/-- The sequencer takes a ticket for completed: the release point has passed it, or it is parked. -/
def Sequencer.Counts (s : Sequencer) (n : Nat) : Prop := n < s.next ∨ n ∈ s.parked

section

variable {l pre : List TicketOp} {op : TicketOp} {s : Sequencer} {n : Nat}

theorem played_concat (l : List TicketOp) (op : TicketOp) :
    played (l ++ [op]) = op.act (played l) := by
  simp [played]

theorem issues_concat (l : List TicketOp) (op : TicketOp) :
    issues (l ++ [op]) = issues l + if op = .issue then 1 else 0 := by
  unfold issues
  rw [List.count_append, List.count_singleton]
  by_cases h : op = .issue <;> simp [h]

/-- Tickets are numbered in the order in which they are handed out. -/
theorem issued_played (l : List TicketOp) : (played l).issued = issues l := by
  induction l using List.reverseRecOn with
  | nil => rfl
  | append_singleton l op ih =>
    rw [played_concat, issues_concat]
    cases op with
    | issue => simp [TicketOp.act, ih]
    | share n => simpa [TicketOp.act] using ih
    | drop n => simpa [TicketOp.act] using ih

/-! ## Owners -/

/-- Owners come with a ticket or with sharing it, and go one at a time. -/
theorem Legal.count_played (h : Legal l) :
    (played l).Valid ∧ ∀ n, (played l).references.count n + l.count (.drop n)
      = l.count (.share n) + if n < issues l then 1 else 0 := by
  induction h with
  | nil => exact ⟨Sequencer.valid_empty, fun n => rfl⟩
  | @issue l h ih =>
    obtain ⟨hv, hc⟩ := ih
    rw [played_concat, issues_concat]
    refine ⟨hv.issue, fun n => ?_⟩
    have := hc n
    have hi := issued_played l
    simp only [TicketOp.act, Sequencer.references_issue, List.count_cons, List.count_append,
      List.count_nil, beq_iff_eq, reduceCtorEq, ↓reduceIte, Nat.add_zero]
    by_cases hn : (played l).issued = n
    · subst hn
      simp only [↓reduceIte]
      split at this <;> split <;> omega
    · simp only [hn, ↓reduceIte]
      split at this <;> split <;> omega
  | @share l m h hm ih =>
    obtain ⟨hv, hc⟩ := ih
    have hmem : m ∈ (played l).references := by
      refine List.count_pos_iff.1 ?_
      have := hc m
      unfold owners at hm
      omega
    rw [played_concat, issues_concat]
    refine ⟨hv.share hmem, fun n => ?_⟩
    have := hc n
    simp only [TicketOp.act, Sequencer.references_share, List.count_cons, List.count_append,
      List.count_nil, beq_iff_eq, TicketOp.share.injEq, reduceCtorEq, ↓reduceIte, Nat.add_zero]
    omega
  | @drop l m h hm ih =>
    obtain ⟨hv, hc⟩ := ih
    have hpos : 0 < (played l).references.count m := by
      have := hc m
      unfold owners at hm
      omega
    rw [played_concat, issues_concat]
    refine ⟨hv.release m, fun n => ?_⟩
    have := hc n
    simp only [TicketOp.act, Sequencer.references_release, List.count_append, List.count_cons,
      List.count_nil, beq_iff_eq, TicketOp.drop.injEq, reduceCtorEq, ↓reduceIte, Nat.add_zero]
    by_cases hn : m = n
    · subst hn
      rw [List.count_erase_self]
      simp only [↓reduceIte]
      omega
    · rw [List.count_erase_of_ne (Ne.symm hn)]
      simp only [hn, ↓reduceIte]
      omega

/-- The sequencer knows the owners that the history leaves. -/
theorem Legal.count_references (h : Legal l) (n : Nat) :
    (played l).references.count n = owners n l := by
  have := h.count_played.2 n
  unfold owners
  omega

theorem Legal.completed_iff (h : Legal l) : (played l).Completed n ↔ Over l n := by
  unfold Sequencer.Completed Over
  rw [issued_played, ← h.count_references, List.count_eq_zero]

theorem Legal.of_concat (h : Legal (l ++ [op])) : Legal l := by
  generalize hl : l ++ [op] = l' at h
  cases h with
  | nil => simp at hl
  | _ h => exact (List.append_inj_left' hl rfl) ▸ h

theorem Legal.of_prefix (h : Legal l) (hp : pre <+: l) : Legal pre := by
  obtain ⟨post, rfl⟩ := hp
  induction post using List.reverseRecOn with
  | nil => simpa using h
  | append_singleton post op ih =>
    rw [← List.append_assoc] at h
    exact ih h.of_concat

/-! ## Completion -/

theorem Sequencer.Valid.counts_iff (h : s.Valid) : s.Counts n ↔ s.Completed n := by
  constructor
  · rintro (hn | hn)
    · exact h.completed_of_lt hn
    · exact ((h.mem_parked n).1 hn).2
  · intro hn
    by_cases hlt : n < s.next
    · exact .inl hlt
    · refine .inr ((h.mem_parked n).2 ⟨?_, hn⟩)
      -- the release point itself is open, if it was handed out
      have hne : s.next ≠ n := by
        intro he
        exact hn.2 (he ▸ h.next_mem (he ▸ hn.1))
      omega

theorem Legal.counts_iff (h : Legal l) : (played l).Counts n ↔ Over l n :=
  h.count_played.1.counts_iff.trans h.completed_iff

theorem next_le_act (hd : s.parked.Nodup) (op : TicketOp) : s.next ≤ (op.act s).next := by
  cases op with
  | issue => exact Nat.le_refl _
  | share n => exact Nat.le_refl _
  | drop n => exact s.next_le_release hd

/-- What holds of a prefix and is kept by every operation holds of the whole. -/
theorem Legal.of_prefix_step {P : List TicketOp → Prop} (h : Legal l) (hp : pre <+: l)
    (hs : ∀ l op, Legal (l ++ [op]) → P l → P (l ++ [op])) (hpre : P pre) : P l := by
  obtain ⟨post, rfl⟩ := hp
  induction post using List.reverseRecOn with
  | nil => simpa using hpre
  | append_singleton post op ih =>
    rw [← List.append_assoc] at h ⊢
    exact hs _ _ h (ih h.of_concat)

theorem Legal.next_mono (h : Legal l) (hp : pre <+: l) : (played pre).next ≤ (played l).next := by
  refine h.of_prefix_step (P := fun l => (played pre).next ≤ (played l).next) hp
    (fun l op hl hle => ?_) (Nat.le_refl _)
  rw [played_concat]
  exact Nat.le_trans hle (next_le_act hl.of_concat.count_played.1.nodup op)

theorem Legal.isTurn_mono (h : Legal l) (hp : pre <+: l) (ht : (played pre).isTurn n = true) :
    (played l).isTurn n = true := by
  rw [Sequencer.isTurn_iff] at ht ⊢
  exact Nat.le_trans ht (h.next_mono hp)

theorem Legal.owned (h : Legal (l ++ [op])) (ho : op = .share n ∨ op = .drop n) :
    n ∈ (played l).references := by
  have hl := h.of_concat
  generalize he : l ++ [op] = l' at h
  suffices hpos : 0 < owners n l by
    rw [← hl.count_references] at hpos
    exact List.count_pos_iff.1 hpos
  cases h with
  | nil => simp at he
  | issue h =>
    have := (List.append_inj' he rfl).2
    rcases ho with rfl | rfl <;> simp at this
  | share h hn =>
    obtain ⟨rfl, hop⟩ := List.append_inj' he rfl
    rcases ho with rfl | rfl <;> simp at hop
    exact hop ▸ hn
  | drop h hn =>
    obtain ⟨rfl, hop⟩ := List.append_inj' he rfl
    rcases ho with rfl | rfl <;> simp at hop
    exact hop ▸ hn

/-- A ticket that is over stays so. -/
theorem Legal.over_mono (h : Legal l) (hp : pre <+: l) (hn : Over pre n) : Over l n := by
  refine h.of_prefix_step (P := fun l => Over l n) hp (fun l op hl ho => ?_) hn
  rw [← hl.completed_iff, played_concat]
  have hc := hl.of_concat.completed_iff.2 ho
  cases op with
  | issue =>
    refine hc.mono (by simp [TicketOp.act]) fun k hk => ?_
    simp only [TicketOp.act, Sequencer.references_issue, List.mem_cons] at hk
    rcases hk with rfl | hk
    · exact .inr (Nat.le_refl _)
    · exact .inl hk
  | share m =>
    refine hc.mono (Nat.le_refl _) fun k hk => .inl ?_
    simp only [TicketOp.act, Sequencer.references_share, List.mem_cons] at hk
    rcases hk with rfl | hk
    · exact hl.owned (.inl rfl)
    · exact hk
  | drop m => exact hc.release m

/-- What makes a ticket over is that its last owner lets go. -/
theorem Legal.eq_drop (h : Legal (l ++ [op])) (hn : Over (l ++ [op]) n) (ho : ¬Over l n) :
    op = .drop n ∧ owners n l = 1 := by
  rw [← h.completed_iff, played_concat] at hn
  rw [← h.of_concat.completed_iff] at ho
  obtain ⟨hlt, hn⟩ := hn
  cases op with
  | issue =>
    simp only [TicketOp.act, Sequencer.issued_issue, Sequencer.references_issue, List.mem_cons,
      not_or] at hlt hn
    exact absurd ⟨by omega, hn.2⟩ ho
  | share m =>
    simp only [TicketOp.act, Sequencer.references_share, List.mem_cons, not_or] at hn
    exact absurd ⟨hlt, hn.2⟩ ho
  | drop m =>
    simp only [TicketOp.act, Sequencer.issued_release, Sequencer.references_release] at hlt hn
    have hmem : n ∈ (played l).references := by
      by_contra hc
      exact ho ⟨hlt, hc⟩
    by_cases hm : m = n
    · subst hm
      have hcount := List.count_erase_self (a := m) (l := (played l).references)
      rw [List.count_eq_zero.2 hn, h.of_concat.count_references] at hcount
      have hpos := List.count_pos_iff.2 hmem
      rw [h.of_concat.count_references] at hpos
      exact ⟨rfl, by omega⟩
    · exact absurd ((List.mem_erase_of_ne (Ne.symm hm)).2 hmem) hn

/-- Of a ticket that is over, some owner was the last one to let go. -/
theorem Legal.exists_end (h : Legal l) (hn : Over l n) :
    ∃ pre post, l = pre ++ .drop n :: post ∧ owners n pre = 1 ∧ ¬Over pre n
      ∧ Over (pre ++ [.drop n]) n := by
  induction l using List.reverseRecOn with
  | nil => exact absurd hn.1 (Nat.not_lt_zero _)
  | append_singleton l op ih =>
    by_cases ho : Over l n
    · obtain ⟨pre, post, rfl, hend⟩ := ih h.of_concat ho
      exact ⟨pre, post ++ [op], by simp, hend⟩
    · obtain ⟨rfl, hone⟩ := h.eq_drop hn ho
      exact ⟨l, [], rfl, hone, ho, hn⟩

/-- No ticket is completed twice. -/
theorem Legal.end_unique (h : Legal l) {pre' post post' : List TicketOp}
    (hl : l = pre ++ .drop n :: post) (hl' : l = pre' ++ .drop n :: post') (ho : ¬Over pre n)
    (hn : Over (pre ++ [.drop n]) n) (ho' : ¬Over pre' n) (hn' : Over (pre' ++ [.drop n]) n) :
    pre = pre' := by
  have hp : pre <+: l := ⟨_, hl.symm⟩
  have hp' : pre' <+: l := ⟨_, hl'.symm⟩
  have hs : pre ++ [.drop n] <+: l := ⟨post, by rw [hl]; simp⟩
  have hs' : pre' ++ [.drop n] <+: l := ⟨post', by rw [hl']; simp⟩
  rcases Nat.lt_trichotomy pre.length pre'.length with hlt | heq | hlt
  · have hle : pre ++ [.drop n] <+: pre' := List.prefix_of_prefix_length_le hs hp' (by simpa)
    exact absurd ((h.of_prefix hp').over_mono hle hn) ho'
  · exact (List.prefix_of_prefix_length_le hp hp' (by omega)).eq_of_length heq
  · have hle : pre' ++ [.drop n] <+: pre := List.prefix_of_prefix_length_le hs' hp (by simpa)
    exact absurd ((h.of_prefix hp).over_mono hle hn') ho

theorem Legal.parkedCount_eq (h : Legal l) : (played l).parkedCount
    = ((List.range (issues l)).filter fun n => (played l).next < n ∧ Over l n).length := by
  refine List.Perm.length_eq ((List.perm_ext_iff_of_nodup h.count_played.1.nodup
    (List.nodup_range.filter _)).2 fun n => ?_)
  rw [h.count_played.1.mem_parked, h.completed_iff, List.mem_filter, List.mem_range,
    decide_eq_true_eq]
  exact ⟨fun hn => ⟨hn.2.1, hn⟩, fun hn => hn.2⟩

end

/-! ## The sequencer and its history -/

/-- What the sequencer tells of the tickets of a history. -/
structure Sequencer.Reflects (l : List TicketOp) (s : Sequencer) : Prop where
  /-- Tickets are numbered 0, 1, 2, … as they are handed out. -/
  numbered : s.issued = issues l
    ∧ ∀ pre post, l = pre ++ .issue :: post → (played pre).issue.1 = issues pre
  /-- The release point is the lowest ticket that is not over, or else the next one. -/
  lowest : (∀ n < s.next, Over l n) ∧ ¬Over l s.next ∧ s.next ≤ issues l
  forward : ∀ pre, pre <+: l → (played pre).next ≤ s.next
  completed : ∀ n, s.Counts n ↔ Over l n
  /-- A ticket is completed in one place, where its last owner lets go. -/
  once : ∀ n, Over l n → ∃! pre, (∃ post, l = pre ++ .drop n :: post) ∧ owners n pre = 1
    ∧ ¬(played pre).Counts n ∧ (played (pre ++ [.drop n])).Counts n
  parked : s.parked.Nodup ∧ (∀ n, n ∈ s.parked ↔ s.next < n ∧ Over l n)
    ∧ s.parkedCount = ((List.range (issues l)).filter fun n => s.next < n ∧ Over l n).length
  turn : ∀ n < issues l, ¬Over l n → (s.isTurn n = true ↔ n = s.next)
  turnKept : ∀ pre, pre <+: l → ∀ n, (played pre).isTurn n = true → s.isTurn n = true
  /-- Nothing is left once no ticket has an owner. -/
  done : (∀ n, owners n l = 0) → s.next = issues l ∧ s.parkedCount = 0

/-- Whoever hands out, shares and lets go of tickets in whatever order, the sequencer tells of each
what the history says. -/
theorem reflects_of_legal {l : List TicketOp} (h : Legal l) : (played l).Reflects l := by
  have hv := h.count_played.1
  have hissued := issued_played l
  have hopen : ∀ n < (played l).next, Over l n := fun n hn =>
    h.completed_iff.1 (hv.completed_of_lt hn)
  have hnext : ¬Over l (played l).next := by
    rw [← h.counts_iff]
    rintro (hlt | hmem)
    · exact Nat.lt_irrefl _ hlt
    · exact Nat.lt_irrefl _ ((hv.mem_parked _).1 hmem).1
  refine ⟨⟨hissued, fun pre post hl => ?_⟩, ⟨hopen, hnext, hissued ▸ hv.next_le⟩,
    fun pre hp => h.next_mono hp, fun n => h.counts_iff, fun n hn => ?_,
    ⟨hv.nodup, fun n => ?_, h.parkedCount_eq⟩, fun n hlt hn => ?_, fun pre hp n => h.isTurn_mono hp,
    fun hnone => ?_⟩
  · exact issued_played pre
  · obtain ⟨pre, post, hl, hone, ho, hend⟩ := h.exists_end hn
    have hcounts : ∀ {pre post}, l = pre ++ .drop n :: post →
        ((played pre).Counts n ↔ Over pre n)
          ∧ ((played (pre ++ [.drop n])).Counts n ↔ Over (pre ++ [.drop n]) n) := by
      intro pre post hl
      have hp : pre <+: l := ⟨_, hl.symm⟩
      have hs : pre ++ [.drop n] <+: l := ⟨post, by rw [hl]; simp⟩
      exact ⟨(h.of_prefix hp).counts_iff, (h.of_prefix hs).counts_iff⟩
    obtain ⟨h1, h2⟩ := hcounts hl
    refine ⟨pre, ⟨⟨post, hl⟩, hone, h1.not.2 ho, h2.2 hend⟩, fun pre' hpre' => ?_⟩
    obtain ⟨⟨post', hl'⟩, -, ho', hend'⟩ := hpre'
    obtain ⟨h1', h2'⟩ := hcounts hl'
    exact h.end_unique hl' hl (h1'.not.1 ho') (h2'.1 hend') ho hend
  · rw [hv.mem_parked, h.completed_iff]
  · rw [Sequencer.isTurn_iff]
    constructor
    · intro hle
      by_contra hne
      exact hn (hopen n (by omega))
    · intro he
      omega
  · have href : (played l).references = [] := by
      refine List.eq_nil_iff_forall_not_mem.2 fun n hmem => ?_
      have := List.count_pos_iff.2 hmem
      rw [h.count_references, hnone] at this
      omega
    obtain ⟨h1, h2⟩ := hv.next_eq_issued href
    exact ⟨h1.trans hissued, by simp [Sequencer.parkedCount, h2]⟩

/-- Three tickets, the second of which has two owners, are let go of from the last to the first. -/
theorem reflects_three_tickets :
    ∃ l l', Legal l ∧ Legal l' ∧ (played l).Reflects l ∧ (played l').Reflects l' ∧ l <+: l'
      ∧ (played l).next = 0 ∧ (played l).parked = [2] ∧ (played l).isTurn 1 = false
      ∧ (played l').next = 3 ∧ (played l').parkedCount = 0 := by
  have h₁ : Legal [.issue, .issue, .issue] := (Legal.nil.issue.issue).issue
  have h₂ : Legal [.issue, .issue, .issue, .share 1, .drop 2, .drop 1] :=
    ((h₁.share (n := 1) (by decide)).drop (n := 2) (by decide)).drop (n := 1) (by decide)
  have h₃ := (h₂.drop (n := 0) (by decide)).drop (n := 1) (by decide)
  refine ⟨_, _, h₂, h₃, reflects_of_legal h₂, reflects_of_legal h₃, ⟨[.drop 0, .drop 1], rfl⟩, ?_⟩
  decide +kernel

end LogPipeline
