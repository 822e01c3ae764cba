import LogPipeline.Total
import Mathlib.Data.List.Perm.Basic
import Mathlib.Tactic.Common

/-!
# One seat of a list

A step changes the entry at one position and leaves the others. `exists_seat` cuts a list at the
position, and the other lemmas say what replacing the entry does to what the list adds up to. The
entry under a key, where no key is used twice, is such a seat as well (`exists_entry`).
-/

namespace LogPipeline

variable {α β : Type}

theorem exists_seat {l : List α} {i : Nat} {a : α} (h : l[i]? = some a) :
    ∃ pre post, l = pre ++ a :: post ∧ pre.length = i := by
  obtain ⟨hi, rfl⟩ := List.getElem?_eq_some_iff.1 h
  exact ⟨l.take i, l.drop (i + 1), by simp, by simp; omega⟩

theorem set_seat (pre post : List α) (a b : α) :
    (pre ++ a :: post).set pre.length b = pre ++ b :: post := by
  simp

theorem modify_seat (pre post : List α) (a : α) (f : α → α) :
    (pre ++ a :: post).modify pre.length f = pre ++ f a :: post := by
  induction pre with
  | nil => rfl
  | cons b pre ih => simpa using ih

/-- One entry fewer at one seat is one entry fewer altogether. -/
theorem perm_flatMap_seat {f : α → List β} {a b : α} {n : β} (pre post : List α)
    (h : (f a).Perm (n :: f b)) :
    ((pre ++ a :: post).flatMap f).Perm (n :: (pre ++ b :: post).flatMap f) := by
  simp only [List.flatMap_append, List.flatMap_cons]
  exact ((h.append_right _).append_left _).trans List.perm_middle

theorem flatMap_seat {f : α → List β} {a b : α} (pre post : List α) (h : f a = f b) :
    (pre ++ a :: post).flatMap f = (pre ++ b :: post).flatMap f := by
  simp [h]

theorem perm_erase_of_perm_cons [DecidableEq β] {n : β} {refs l : List β}
    (h : refs.Perm (n :: l)) : (refs.erase n).Perm l := by
  have := h.erase n
  rwa [List.erase_cons_head] at this

/-- The measure of one entry makes the difference. -/
theorem total_set (f : α → Nat) {l : List α} {i : Nat} {a : α} (h : l[i]? = some a)
    (b : α) : total f (l.set i b) + f a = total f l + f b := by
  obtain ⟨pre, post, rfl, rfl⟩ := exists_seat h
  rw [set_seat, total_append, total_append, total_cons, total_cons]
  omega

theorem total_modify {f : α → Nat} {g : α → α} (h : ∀ a, f (g a) = f a) (l : List α) (i : Nat) :
    total f (l.modify i g) = total f l := by
  rcases hl : l[i]? with _ | a
  · rw [List.modify_eq_self (by simpa using hl)]
  · obtain ⟨pre, post, rfl, rfl⟩ := exists_seat hl
    simp [modify_seat, h]

theorem total_eq_zero {f : α → Nat} {l : List α} (h : ∀ a ∈ l, f a = 0) :
    total f l = 0 := by
  induction l with
  | nil => rfl
  | cons a l ih =>
    rw [total_cons, h a List.mem_cons_self, ih fun b hb => h b (List.mem_cons_of_mem _ hb)]

theorem total_congr {f g : α → Nat} {l : List α} (h : ∀ a ∈ l, f a = g a) :
    total f l = total g l := by
  induction l with
  | nil => rfl
  | cons a l ih =>
    rw [total_cons, total_cons, h a List.mem_cons_self,
      ih fun b hb => h b (List.mem_cons_of_mem _ hb)]

theorem le_total (f : α → Nat) {l : List α} {a : α} (h : a ∈ l) : f a ≤ total f l := by
  obtain ⟨pre, post, rfl⟩ := List.append_of_mem h
  rw [total_append, total_cons]
  omega

/-! ## Keys -/

variable {κ : Type} [BEq κ] [LawfulBEq κ] {l : List (κ × α)} {k : κ} {a : α}

/-- Another entry under a key is found in place of the one that was there. -/
theorem find?_replace [DecidableEq κ] (l : List (κ × α)) (k : κ) (b : α) (j : κ) :
    ((l.map fun e => if e.1 == k then (k, b) else e).find? (·.1 == j)).map (·.2)
      = ((l.find? (·.1 == j)).map (·.2)).map fun a => if j = k then b else a := by
  induction l with
  | nil => rfl
  | cons e l ih =>
    by_cases hk : e.1 = k
    · by_cases hj : k = j
      · simp [hk, hj]
      · simpa [hk, hj] using ih
    · by_cases hj : e.1 = j
      · simp [hj, hj ▸ hk]
      · simpa [hk, hj] using ih

/-- There is at most one entry under a key. -/
theorem filter_key (hn : (l.map Prod.fst).Nodup) (k : κ) :
    l.filter (·.1 == k) = (l.find? (·.1 == k)).toList := by
  induction l with
  | nil => rfl
  | cons e l ih =>
    rw [List.map_cons, List.nodup_cons] at hn
    by_cases hk : e.1 = k
    · have hnone : l.filter (·.1 == k) = [] := by
        refine List.filter_eq_nil_iff.2 fun e' he' heq => hn.1 ?_
        rw [hk, ← beq_iff_eq.1 heq]
        exact List.mem_map_of_mem he'
      simp [hk, hnone]
    · simpa [hk] using ih hn.2

theorem exists_entry (hn : (l.map Prod.fst).Nodup)
    (h : (l.find? (·.1 == k)).map (·.2) = some a) :
    ∃ pre post, l = pre ++ (k, a) :: post
      ∧ (∀ b, (l.map fun e => if e.1 == k then (k, b) else e) = pre ++ (k, b) :: post)
      ∧ l.filter (·.1 != k) = pre ++ post := by
  obtain ⟨⟨k', a'⟩, hf, rfl⟩ := Option.map_eq_some_iff.1 h
  obtain ⟨hk, pre, post, rfl, hpre⟩ := List.find?_eq_some_iff_append.1 hf
  obtain rfl : k' = k := by simpa using hk
  have hne : ∀ e ∈ pre ++ post, (e.1 == k') = false := by
    intro e he
    rw [List.map_append, List.map_cons] at hn
    have hn := (List.perm_middle.nodup_iff.1 hn)
    refine beq_eq_false_iff_ne.2 fun heq => (List.nodup_cons.1 hn).1 ?_
    rw [← List.map_append]
    have hmem := List.mem_map_of_mem (f := Prod.fst) he
    rwa [heq] at hmem
  have hkeep : ∀ (b : α) (l' : List (κ × α)), (∀ e ∈ l', e ∈ pre ++ post) →
      (l'.map fun e => if e.1 == k' then (k', b) else e) = l' := by
    intro b l' hl
    refine (List.map_congr_left fun e he => ?_).trans (List.map_id l')
    simp [hne e (hl e he)]
  refine ⟨pre, post, rfl, fun b => ?_, ?_⟩
  · rw [List.map_append, List.map_cons, hkeep b pre fun e he => List.mem_append_left _ he,
      hkeep b post fun e he => List.mem_append_right _ he]
    simp
  · rw [List.filter_append, List.filter_cons_of_neg (by simp), ← List.filter_append]
    exact List.filter_eq_self.2 fun e he => by simp [bne, hne e he]

end LogPipeline
