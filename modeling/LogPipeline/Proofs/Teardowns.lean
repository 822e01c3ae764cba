import LogPipeline.Proofs.Lookups

/-!
# Maps that are destroyed

The first call to destroy a map takes all of its objects, and every later one takes none. A call
destroys what it took, closes the tracker of the owners and waits for them (`Registry.Underway`).
Since the map hands out no owner token any more, the call returns when the last of those it handed
out has been let go of, and not before (`teardown_of_run`).
-/

namespace LogPipeline

variable {ω α : Type}

/-- Waiting for owners is over once their tracker is closed and none of their tokens is alive. -/
def Waits (ready : Bool → List Nat → Bool) : Prop :=
  ∀ closed live, ready closed live = true ↔ closed = true ∧ live = []

/-- Whether this takes a call to destroy the map on. -/
def RegistryOp.drives (k : Nat) : RegistryOp α → Bool
  | proceed j => j == k
  | _ => false

/-- How often a call still has to go on, if nobody keeps it waiting. -/
def DestroyCall.remaining (c : DestroyCall ω) : Nat :=
  c.left.length + (!c.closed).toNat + (!c.done).toNat

namespace Registry

/-- Every owner token that was handed out has been let go of. -/
def AllReleased (r : Registry ω α) : Prop := ∀ token < r.made.length, token ∈ r.released

instance (r : Registry ω α) : Decidable r.AllReleased :=
  inferInstanceAs (Decidable (∀ token < r.made.length, token ∈ r.released))

/-- How far the calls are that destroy the map. The objects that were made are those that were
destroyed and those that the first call still has to destroy. -/
structure Underway (r : Registry ω α) : Prop where
  tokens : (r.map.live ++ r.released).Perm (List.range r.made.length)
  idle : r.map.destroyed = false → r.calls = [] ∧ r.torn = []
  taken : r.map.destroyed = true → ∃ c rest, r.calls = c :: rest
    ∧ (r.torn ++ c.left).Perm r.made ∧ ∀ c ∈ rest, c.left = []
  closed : ∀ c ∈ r.calls, c.closed = true → r.closed = true ∧ c.left = []
  done : ∀ c ∈ r.calls, c.done = true → c.closed = true ∧ r.map.live = []

section

variable {make : List String → Nat → ω} {wrap : Nat → String → ω → α}
  {ready : Bool → List Nat → Bool} {r : Registry ω α} {c : DestroyCall ω} {k : Nat}

theorem Underway.allReleased_iff (h : r.Underway) : r.AllReleased ↔ r.map.live = [] := by
  have hn : (r.map.live ++ r.released).Nodup := h.tokens.nodup_iff.2 List.nodup_range
  constructor
  · intro hall
    by_contra hne
    obtain ⟨t, ht⟩ := List.exists_mem_of_ne_nil _ hne
    have hlt : t < r.made.length :=
      List.mem_range.1 (h.tokens.subset (List.mem_append_left _ ht))
    exact (List.nodup_append.1 hn).2.2 t ht t (hall t hlt) rfl
  · intro hlive t ht
    have hmem := h.tokens.symm.subset (List.mem_range.2 ht)
    simpa [hlive] using hmem

/-! ### One step -/

/-- A lookup that makes something finds no call under way. -/
theorem Underway.note (hf : r.Faithful make) (h : r.Underway) {key : String} {v : ω} {m : KeyMap ω}
    (hm : r.map.getOrCreate make key = .ok (v, m)) : (r.note key v m).Underway := by
  obtain ⟨hd, ⟨-, rfl⟩ | ⟨-, rfl, rfl⟩⟩ := KeyMap.getOrCreate_cases hm
  · have hmade : (r.note key v r.map).made = r.made := by simp [Registry.note]
    refine ⟨?_, h.idle, fun hs => ?_, h.closed, h.done⟩
    · rw [hmade]
      exact h.tokens
    · simp [Registry.note, hd] at hs
  · obtain ⟨hcalls, htorn⟩ := h.idle hd
    refine ⟨?_, fun _ => ⟨hcalls, htorn⟩, fun hs => ?_, ?_, ?_⟩
    · simp only [Registry.note, Nat.succ_ne_self, ↓reduceIte, List.length_append,
        List.length_singleton, List.range_succ, List.append_assoc, ← hf.counted]
      have htokens := h.tokens
      rw [← hf.counted] at htokens
      refine ((List.perm_append_comm.append_left _).trans ?_)
      rw [← List.append_assoc]
      exact htokens.append_right _
    · simp [Registry.note, hd] at hs
    · simp [Registry.note, hcalls]
    · simp [Registry.note, hcalls]

theorem Underway.release (h : r.Underway) (token : Nat) :
    (r.act make wrap ready (.release token)).Underway := by
  refine ⟨?_, h.idle, h.taken, h.closed, fun c hc hd => ?_⟩
  · simp only [act, KeyMap.release]
    split
    · rename_i ht
      refine List.Perm.trans ?_ h.tokens
      rw [← List.append_assoc]
      refine (List.perm_append_singleton token _).trans ?_
      rw [← List.cons_append]
      exact ((List.perm_cons_erase ht).symm.append_right _)
    · rename_i ht
      rw [List.erase_of_not_mem ht, List.append_nil]
      exact h.tokens
  · obtain ⟨hclosed, hlive⟩ := h.done c hc hd
    exact ⟨hclosed, by simp [act, KeyMap.release, hlive]⟩

theorem Underway.destroy (hf : r.Faithful make) (h : r.Underway) :
    (r.act make wrap ready .destroy).Underway := by
  have hnew : ∀ c ∈ r.calls ++ [{ left := r.map.entries }],
      c ∈ r.calls ∨ c.closed = false ∧ c.done = false := by
    intro c hc
    rcases List.mem_append.1 hc with hc | hc
    · exact .inl hc
    · rw [List.mem_singleton.1 hc]
      exact .inr ⟨rfl, rfl⟩
  refine ⟨h.tokens, by simp [act, KeyMap.destroy], fun _ => ?_, fun c hc hs => ?_,
    fun c hc hs => ?_⟩
  · cases hd : r.map.destroyed with
    | false =>
      obtain ⟨hcalls, htorn⟩ := h.idle hd
      exact ⟨_, [], by simp [act, KeyMap.destroy, hcalls]; rfl,
        by simp [act, htorn, hf.present hd], by simp⟩
    | true =>
      obtain ⟨c, rest, hcalls, hperm, hrest⟩ := h.taken hd
      refine ⟨c, rest ++ [{ left := r.map.entries }],
        by simp [act, KeyMap.destroy, hcalls], hperm, fun c hc => ?_⟩
      rcases List.mem_append.1 hc with hc | hc
      · exact hrest c hc
      · rw [List.mem_singleton.1 hc]
        exact hf.absent hd
  · rcases hnew c hc with hc | ⟨hc, -⟩
    · exact h.closed c hc hs
    · simp [hc] at hs
  · rcases hnew c hc with hc | ⟨-, hc⟩
    · exact h.done c hc hs
    · simp [hc] at hs

theorem Underway.goOn (hready : Waits ready) (h : r.Underway) (k : Nat) :
    (r.goOn ready k).Underway := by
  unfold Registry.goOn
  split
  · exact h
  · rename_i c hk
    have hc : c ∈ r.calls := List.mem_of_getElem? hk
    have hd : r.map.destroyed = true := by
      by_contra hd
      simp [(h.idle (by simpa using hd)).1] at hc
    obtain ⟨c₀, rest, hcalls, hperm, hrest⟩ := h.taken hd
    have hidle : ∀ {p : Prop}, r.map.destroyed = false → p := by simp [hd]
    split
    · rename_i e l hleft
      -- only the first call has anything to destroy
      obtain rfl : k = 0 := by
        cases k with
        | zero => rfl
        | succ j =>
          have hmem : c ∈ rest := List.mem_of_getElem? (by simpa [hcalls] using hk)
          simp [hrest c hmem] at hleft
      obtain rfl : c₀ = c := by simpa [hcalls] using hk
      refine ⟨h.tokens, hidle, fun _ => ⟨{ c₀ with left := l }, rest, by simp [hcalls], ?_, hrest⟩,
        fun c' hc' hs => ?_, fun c' hc' hs => ?_⟩
      · simpa [hleft] using hperm
      · rcases List.mem_or_eq_of_mem_set hc' with hc' | rfl
        · exact h.closed c' hc' hs
        · simp [(h.closed c₀ hc hs).2] at hleft
      · rcases List.mem_or_eq_of_mem_set hc' with hc' | rfl
        · exact h.done c' hc' hs
        · exact h.done c₀ hc hs
    · rename_i hleft
      have htaken : ∀ c', c'.left = [] → ∃ c₁ rest', r.calls.set k c' = c₁ :: rest'
          ∧ (r.torn ++ c₁.left).Perm r.made ∧ ∀ c ∈ rest', c.left = [] := by
        intro c' hc'
        cases k with
        | zero =>
          obtain rfl : c₀ = c := by simpa [hcalls] using hk
          exact ⟨c', rest, by simp [hcalls], by rw [hc', ← hleft]; exact hperm, hrest⟩
        | succ j =>
          refine ⟨c₀, rest.set j c', by simp [hcalls], hperm, fun c hc => ?_⟩
          rcases List.mem_or_eq_of_mem_set hc with hc | rfl
          · exact hrest c hc
          · exact hc'
      split
      · rename_i hclosed
        refine ⟨h.tokens, hidle, fun _ => htaken _ hleft, fun c' hc' hs => ?_, fun c' hc' hs => ?_⟩
        · rcases List.mem_or_eq_of_mem_set hc' with hc' | rfl
          · exact h.closed c' hc' hs
          · exact h.closed c hc hclosed
        · rcases List.mem_or_eq_of_mem_set hc' with hc' | rfl
          · exact h.done c' hc' hs
          · rcases Bool.or_eq_true_iff.1 hs with hs | hs
            · exact h.done c hc hs
            · exact ⟨hclosed, ((hready _ _).1 hs).2⟩
      · refine ⟨h.tokens, hidle, fun _ => htaken _ hleft, fun c' hc' hs => ?_, fun c' hc' hs => ?_⟩
        · rcases List.mem_or_eq_of_mem_set hc' with hc' | rfl
          · exact ⟨rfl, (h.closed c' hc' hs).2⟩
          · exact ⟨rfl, hleft⟩
        · rcases List.mem_or_eq_of_mem_set hc' with hc' | rfl
          · exact h.done c' hc' hs
          · exact ⟨rfl, (h.done c hc hs).2⟩

theorem Underway.act (hready : Waits ready) (hf : r.Faithful make) (h : r.Underway)
    (op : RegistryOp α) : (r.act make wrap ready op).Underway := by
  cases op with
  | ask key =>
    simp only [Registry.act]
    split
    · exact h
    · exact h.note hf ‹_›
  | askVia i key =>
    simp only [Registry.act]
    split
    · exact h
    · rename_i a c m hl
      have hn : (r.note key a.1 m).Underway := by
        rcases lookUp_cases hl with ⟨-, -, rfl⟩ | ⟨-, hm, -⟩
        · have hmade : (r.note key a.1 r.map).made = r.made := by simp [Registry.note]
          refine ⟨?_, h.idle, fun hd => ?_, h.closed, h.done⟩
          · rw [hmade]
            exact h.tokens
          · rw [hmade]
            exact h.taken hd
        · exact h.note hf hm
      exact ⟨hn.tokens, hn.idle, hn.taken, hn.closed, hn.done⟩
  | change i key f =>
    simp only [Registry.act]
    split
    · exact h
    · exact ⟨h.tokens, h.idle, h.taken, h.closed, h.done⟩
  | drain i => exact ⟨h.tokens, h.idle, h.taken, h.closed, h.done⟩
  | release token => exact h.release token
  | destroy => exact h.destroy hf
  | proceed k => exact h.goOn hready k

theorem underway_run (hready : Waits ready) (l : List (RegistryOp α)) :
    (run make wrap ready l).Underway := by
  induction l using List.reverseRecOn with
  | nil => exact ⟨by simp [run], fun _ => ⟨rfl, rfl⟩, by simp [run], by simp [run], by simp [run]⟩
  | append_singleton l op ih =>
    rw [run_concat]
    exact ih.act hready (faithful_run l) op

/-! ### Until a call returns -/

/-- A call goes on by itself only, and calls are never forgotten. -/
theorem calls_act (h : r.calls[k]? = some c) (op : RegistryOp α) (hop : op.drives k = false) :
    (r.act make wrap ready op).calls[k]? = some c := by
  cases op with
  | ask key =>
    simp only [act]
    split <;> exact h
  | askVia i key =>
    simp only [act]
    split <;> exact h
  | change i key f =>
    simp only [act]
    split <;> exact h
  | drain i => exact h
  | release token => exact h
  | destroy =>
    have hlt := (List.getElem?_eq_some_iff.1 h).1
    simpa [act, List.getElem?_append_left hlt] using h
  | proceed j =>
    have hj : j ≠ k := by simpa [RegistryOp.drives] using hop
    simp only [act, goOn]
    split
    · exact h
    · split
      · simpa [List.getElem?_set_ne hj] using h
      · split <;> simpa [List.getElem?_set_ne hj] using h

/-- The step that a call takes, once all owners are gone. -/
theorem remaining_goOn (hready : Waits ready) (h : r.Underway) (hlive : r.map.live = [])
    (hk : r.calls[k]? = some c) : ∃ c', (r.goOn ready k).calls[k]? = some c'
      ∧ c'.remaining = c.remaining - 1 := by
  have hlt := (List.getElem?_eq_some_iff.1 hk).1
  have hc : c ∈ r.calls := List.mem_of_getElem? hk
  unfold goOn
  rw [hk]
  dsimp only
  split
  · rename_i e l hleft
    refine ⟨{ c with left := l }, by simp [hlt], ?_⟩
    simp [DestroyCall.remaining, hleft]
    omega
  · rename_i hleft
    split
    · rename_i hclosed
      have hready' : ready r.closed r.map.live = true :=
        (hready _ _).2 ⟨(h.closed c hc hclosed).1, hlive⟩
      refine ⟨{ c with done := true }, by simp [hlt, hready'], ?_⟩
      cases hd : c.done <;> simp [DestroyCall.remaining, hleft, hclosed, hd]
    · rename_i hclosed
      refine ⟨{ c with closed := true }, by simp [hlt], ?_⟩
      simp [DestroyCall.remaining, hleft, hclosed]

/-- A map that was destroyed hands out no owner token. -/
theorem live_act (hd : r.map.destroyed = true) (op : RegistryOp α) :
    (r.act make wrap ready op).map.live.Sublist r.map.live := by
  cases op with
  | ask key =>
    simp [act, KeyMap.getOrCreate_of_destroyed hd]
  | askVia i key =>
    simp only [act]
    split
    · exact List.Sublist.refl _
    · rename_i a c m hl
      rcases lookUp_cases hl with ⟨-, -, rfl⟩ | ⟨-, hm, -⟩
      · exact List.Sublist.refl _
      · simp [KeyMap.getOrCreate_of_destroyed hd] at hm
  | change i key f =>
    simp only [act]
    split <;> exact List.Sublist.refl _
  | drain i => exact List.Sublist.refl _
  | release token => exact List.erase_sublist
  | destroy => exact List.Sublist.refl _
  | proceed k =>
    obtain ⟨closed, calls, torn, heq⟩ := r.goOn_eq ready k
    rw [act_proceed, heq]

theorem live_run (l l' : List (RegistryOp α)) (hd : (run make wrap ready l).map.destroyed = true) :
    (run make wrap ready (l ++ l')).map.live.Sublist (run make wrap ready l).map.live := by
  induction l' using List.reverseRecOn with
  | nil => simp
  | append_singleton l' op ih =>
    rw [← List.append_assoc, run_concat]
    exact (live_act ((made_run l l').2 hd).1 op).trans ih

theorem remaining_run (hready : Waits ready) (l l' : List (RegistryOp α))
    (hlive : (run make wrap ready l).map.live = [])
    (hk : (run make wrap ready l).calls[k]? = some c) :
    ∃ c', (run make wrap ready (l ++ l')).calls[k]? = some c'
      ∧ c'.remaining = c.remaining - l'.countP (·.drives k) := by
  have hd : (run make wrap ready l).map.destroyed = true := by
    by_contra hd
    simp [((underway_run hready l).idle (by simpa using hd)).1] at hk
  induction l' using List.reverseRecOn with
  | nil => exact ⟨c, by simpa using hk, by simp⟩
  | append_singleton l' op ih =>
    obtain ⟨c', hk', hleft⟩ := ih
    have hlive' : (run make wrap ready (l ++ l')).map.live = [] :=
      List.sublist_nil.1 (hlive ▸ live_run l l' hd)
    rw [← List.append_assoc, run_concat]
    cases hop : op.drives k with
    | false => exact ⟨c', calls_act hk' op hop, by simp [hop, hleft]⟩
    | true =>
      obtain rfl : op = .proceed k := by
        cases op <;> simp_all [RegistryOp.drives]
      obtain ⟨c'', hk'', hleft'⟩ :=
        remaining_goOn hready (underway_run hready (l ++ l')) hlive' hk'
      refine ⟨c'', hk'', ?_⟩
      simp only [List.countP_append, List.countP_singleton, hop, ↓reduceIte]
      omega

/-- The call that waits for owners returns when they are gone, and not before. -/
theorem Underway.returns_iff (hready : Waits ready) (h : r.Underway) (hk : r.calls[k]? = some c)
    (hclosed : c.closed = true) :
    (∃ c', (r.goOn ready k).calls[k]? = some c' ∧ c'.done = true) ↔ r.AllReleased := by
  have hlt := (List.getElem?_eq_some_iff.1 hk).1
  obtain ⟨hrclosed, hleft⟩ := h.closed c (List.mem_of_getElem? hk) hclosed
  have hstep : (r.goOn ready k).calls[k]?
      = some { c with done := c.done || ready r.closed r.map.live } := by
    rw [Registry.goOn, hk]
    simp only [hleft, hclosed, ↓reduceIte]
    exact List.getElem?_set_self hlt
  rw [hstep, h.allReleased_iff]
  constructor
  · rintro ⟨c', hc', hdone⟩
    obtain rfl := Option.some.inj hc'
    rcases Bool.or_eq_true_iff.1 hdone with hdone | hdone
    · exact (h.done c (List.mem_of_getElem? hk) hdone).2
    · exact ((hready _ _).1 hdone).2
  · intro hlive
    exact ⟨_, rfl, by simp [(hready r.closed r.map.live).2 ⟨hrclosed, hlive⟩]⟩

variable (make wrap ready) in
/-- What comes of destroying a map after all this was done: what the calls that destroy it have
destroyed and when they return. -/
structure Dismantled (l : List (RegistryOp α)) (r : Registry ω α) : Prop where
  once : (r.made.map Prod.fst).Nodup
  tokens : (r.map.live ++ r.released).Perm (List.range r.made.length)
  untouched : .destroy ∉ l → r.calls = [] ∧ r.torn = []
  -- from the first call on nothing is made and no owner token is handed out
  ended : .destroy ∈ l → ∀ l', (run make wrap ready (l ++ l')).made = r.made
    ∧ (run make wrap ready (l ++ l')).map.live.Sublist r.map.live
  destroyed : .destroy ∈ l → ∃ c rest, r.calls = c :: rest ∧ (r.torn ++ c.left).Perm r.made
    ∧ ∀ c ∈ rest, c.left = []
  closed : ∀ c ∈ r.calls, c.closed = true → c.left = []
  -- when a call returns
  late : ∀ c ∈ r.calls, c.done = true → c.closed = true ∧ r.AllReleased
  prompt : ∀ k c, r.calls[k]? = some c → c.closed = true →
    ((∃ c', (r.goOn ready k).calls[k]? = some c' ∧ c'.done = true) ↔ r.AllReleased)
  bounded : ∀ k c, r.calls[k]? = some c → r.AllReleased →
    ∀ l' : List (RegistryOp α), c.left.length + 2 ≤ l'.countP (·.drives k) →
      ∃ c', (run make wrap ready (l ++ l')).calls[k]? = some c' ∧ c'.done = true

/-- Whatever callers do, each object is destroyed once, and a call to destroy the map returns when
all owner tokens have been let go of. -/
theorem teardown_of_run (make : List String → Nat → ω) (wrap : Nat → String → ω → α)
    (ready : Bool → List Nat → Bool) (hready : Waits ready) (l : List (RegistryOp α)) :
    Dismantled make wrap ready l (run make wrap ready l) := by
  set r := run make wrap ready l with hr
  have h : r.Underway := underway_run hready l
  have hdestroyed : r.map.destroyed = true ↔ .destroy ∈ l := destroyed_run l
  refine {
    once := (faithful_run l).once
    tokens := h.tokens
    untouched := fun hd => h.idle ?untouched
    ended := fun hd l' =>
      ⟨((made_run l l').2 (hdestroyed.2 hd)).2.2, live_run l l' (hdestroyed.2 hd)⟩
    destroyed := fun hd => h.taken (hdestroyed.2 hd)
    closed := fun c hc hclosed => (h.closed c hc hclosed).2
    late := fun c hc hdone => ?late
    prompt := fun k c hk hclosed => h.returns_iff hready hk hclosed
    bounded := fun k c hk hall l' hcount => ?bounded }
  case untouched =>
    rw [← hdestroyed] at hd
    simpa using hd
  case late =>
    obtain ⟨hclosed, hlive⟩ := h.done c hc hdone
    exact ⟨hclosed, h.allReleased_iff.2 hlive⟩
  case bounded =>
    obtain ⟨c', hk', hleft⟩ := remaining_run hready l l' (h.allReleased_iff.1 hall) hk
    refine ⟨c', hk', ?_⟩
    have hmost : c.remaining ≤ c.left.length + 2 := by
      simp only [DestroyCall.remaining]
      have hclosed := Bool.toNat_le (!c.closed)
      have hdone := Bool.toNat_le (!c.done)
      omega
    have hzero : (!c'.done).toNat = 0 := by
      simp only [DestroyCall.remaining] at hleft hmost
      omega
    simpa using hzero

/-- The second of two calls that destroy a map returns as soon as the only owner is gone, although
the first has not destroyed the object yet. -/
theorem second_teardown_returns :
    let ready : Bool → List Nat → Bool := fun closed live => closed && live.isEmpty
    let l : List (RegistryOp Unit) := [.ask "1:a", .destroy, .destroy, .release 0]
    let r := run (fun _ n => n) (fun _ _ _ => ()) ready (l ++ [.proceed 1, .proceed 1])
    Waits ready ∧ r.torn = [] ∧ ∃ c, r.calls[1]? = some c ∧ c.done = true := by
  intro ready l r
  have hready : Waits ready := by
    intro closed live
    simp [ready]
  have hall : (run (fun _ n => n) (fun _ _ _ => ()) ready l).AllReleased := by
    decide
  exact ⟨hready, rfl, (teardown_of_run _ _ ready hready l).bounded 1 ⟨[], false, false⟩ rfl hall _
    (by decide)⟩

end

end Registry

end LogPipeline
