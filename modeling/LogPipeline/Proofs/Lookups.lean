import LogPipeline.Proofs.Gathering
import Mathlib.Data.List.Induction
import Mathlib.Logic.Function.Basic

/-!
# Objects that are made once

A registry is a key map with the caches of its callers in front of it. It notes which objects were
made and which object a lookup found. Whatever is done with it, each key has one object, which is
the one that everybody finds (`Registry.Faithful`), and a caller finds its wrapper of the object as
it has left it, whatever became of the map (`find?_of_lookUp`).
-/

namespace LogPipeline

variable {ω α : Type}

/-! ## Maps and caches -/

namespace KeyMap

variable {m m' : KeyMap ω} {make make' : List String → Nat → ω} {key : String} {v : ω}

theorem mem_of_find? (h : m.find? key = some v) : (key, v) ∈ m.entries := by
  obtain ⟨e, he, rfl⟩ := Option.map_eq_some_iff.1 h
  obtain rfl : e.1 = key := by simpa using List.find?_some he
  exact List.mem_of_find?_eq_some he

theorem not_mem_of_find? (h : m.find? key = none) : key ∉ m.entries.map Prod.fst := by
  intro hmem
  obtain ⟨e, he, rfl⟩ := List.mem_map.1 hmem
  have hnone := List.find?_eq_none.1 (Option.map_eq_none_iff.1 h) e he
  simp at hnone

/-- A map that was destroyed refuses every lookup, and no other map refuses one. -/
theorem getOrCreate_of_destroyed (h : m.destroyed = true) :
    m.getOrCreate make key = .error (.mapDestroyed key) := by
  simp [getOrCreate, h]

theorem destroyed_getOrCreate (h : m.getOrCreate make key = .ok (v, m')) :
    m'.destroyed = m.destroyed := by
  obtain ⟨-, ⟨-, rfl⟩ | ⟨-, -, rfl⟩⟩ := getOrCreate_cases h <;> rfl

theorem exists_getOrCreate (make : List String → Nat → ω) (key : String)
    (h : m.destroyed = false) : ∃ v m', m.getOrCreate make key = .ok (v, m') := by
  simp only [getOrCreate, h, Bool.false_eq_true, ↓reduceIte]
  split <;> exact ⟨_, _, rfl⟩

/-- Where nothing is made, nothing depends on how it would be made. -/
theorem getOrCreate_congr (h : ∀ v m', m.getOrCreate make key = .ok (v, m') →
    m'.created = m.created) : m.getOrCreate make' key = m.getOrCreate make key := by
  unfold getOrCreate at h ⊢
  split
  · rfl
  · rename_i hd
    split
    · rfl
    · rename_i hf
      simp [hd, hf] at h

end KeyMap

namespace LocalCache

variable {c c' : LocalCache α} {m m' : KeyMap ω} {make : List String → Nat → ω}
  {wrap : String → ω → α} {key k : String} {a b : α}

theorem mem_of_find? (h : c.find? key = some a) : (key, a) ∈ c.entries := by
  obtain ⟨e, he, rfl⟩ := Option.map_eq_some_iff.1 h
  obtain rfl : e.1 = key := by simpa using List.find?_some he
  exact List.mem_of_find?_eq_some he

theorem find?_put (c : LocalCache α) (key : String) (b : α) (k : String) :
    (c.put key b).find? k = (c.find? k).map fun a => if k = key then b else a :=
  find?_replace c.entries key b k

/-- A lookup leaves what is cached, and caches what it finds. -/
theorem find?_getOrCreate (h : c.getOrCreate make wrap key m = .ok (a, c', m')) (k : String) :
    c'.find? k = (c.find? k).or (if k = key then some a else none) := by
  rcases getOrCreate_cases h with ⟨hf, rfl, rfl⟩ | ⟨hf, v, hm, rfl, rfl⟩
  · split
    · rename_i hk
      rw [hk, hf]
      rfl
    · simp
  · simp only [find?, List.find?_append, Option.map_or]
    congr 1
    by_cases hk : k = key
    · simp [hk]
    · simp [hk, Ne.symm hk]

/-- What is cached is found without the map. -/
theorem getOrCreate_of_find? (h : c.find? key = some a) (make : List String → Nat → ω)
    (wrap : String → ω → α) (m : KeyMap ω) :
    c.getOrCreate make wrap key m = .ok (a, c, m) := by
  simp [getOrCreate, h]

theorem getOrCreate_congr {make' : List String → Nat → ω}
    (h : ∀ a c' m', c.getOrCreate make wrap key m = .ok (a, c', m') → m'.created = m.created) :
    c.getOrCreate make' wrap key m = c.getOrCreate make wrap key m := by
  unfold getOrCreate at h ⊢
  split
  · rfl
  · rename_i hf
    have hmap : m.getOrCreate make' key = m.getOrCreate make key := by
      refine KeyMap.getOrCreate_congr fun v m' hm => ?_
      exact h (wrap key v) ⟨c.entries ++ [(key, wrap key v)]⟩ m'
        (by simp [hf, hm, bind, Except.bind, pure, Except.pure])
    rw [hmap]

theorem getOrCreate_of_destroyed (hc : c.find? key = none) (h : m.destroyed = true) :
    c.getOrCreate make wrap key m = .error (.mapDestroyed key) := by
  simp [getOrCreate, hc, KeyMap.getOrCreate_of_destroyed h, bind, Except.bind]

theorem exists_getOrCreate (make : List String → Nat → ω) (wrap : String → ω → α)
    (hc : c.find? key = none) (h : m.destroyed = false) :
    ∃ v c' m', c.getOrCreate make wrap key m = .ok (wrap key v, c', m') := by
  obtain ⟨v, m', hm⟩ := m.exists_getOrCreate make key h
  refine ⟨v, ⟨c.entries ++ [(key, wrap key v)]⟩, m', ?_⟩
  simp [getOrCreate, hc, hm, bind, Except.bind, pure, Except.pure]

end LocalCache

/-! ## Registries -/

/-- A call that destroys a map: the objects that it has yet to destroy, whether it has closed the
tracker of the owners, and whether it has returned. -/
structure DestroyCall (ω : Type) where
  left : List (String × ω)
  closed : Bool := false
  done : Bool := false

/-- A key map with the caches in front of it, which keep each wrapper with the object that it is of.
`made` notes the objects that were made, `served` those that lookups found, `released` the owner
tokens let go of, and `torn` the objects that were destroyed. `closed` tells whether the tracker of
the owners was closed. -/
structure Registry (ω α : Type) where
  map : KeyMap ω := {}
  caches : Nat → LocalCache (ω × α) := fun _ => {}
  made : List (String × ω) := []
  served : List (String × ω) := []
  released : List Nat := []
  closed : Bool := false
  calls : List (DestroyCall ω) := []
  torn : List (String × ω) := []

/-- What is done with a registry: a key is looked up in the map or through a cache, the owner of a
cache changes a wrapper of its own or takes all of them out, an owner token is let go of, a call to
destroy the map begins, and such a call goes on. -/
inductive RegistryOp (α : Type) where
  | ask (key : String)
  | askVia (cache : Nat) (key : String)
  | change (cache : Nat) (key : String) (f : α → α)
  | drain (cache : Nat)
  | release (token : Nat)
  | destroy
  | proceed (call : Nat)

/-- What a caller does to its wrapper of a key. -/
def RegistryOp.onWrapper (i : Nat) (key : String) : RegistryOp α → α → α
  | change j k f, a => if j = i ∧ k = key then f a else a
  | _, a => a

/-- All that a caller does to its wrapper of a key. -/
def changed (i : Nat) (key : String) (l : List (RegistryOp α)) (a : α) : α :=
  l.foldl (fun a op => op.onWrapper i key a) a

namespace Registry

/-- The object found under a key is noted, also as made if the map counts one more. -/
def note (key : String) (v : ω) (m : KeyMap ω) (r : Registry ω α) : Registry ω α :=
  { r with
    map := m
    made := r.made ++ if m.created = r.map.created then [] else [(key, v)]
    served := r.served ++ [(key, v)] }

section

variable (make : List String → Nat → ω) (wrap : Nat → String → ω → α)
  (ready : Bool → List Nat → Bool)

/-- A lookup through a cache. -/
def lookUp (i : Nat) (key : String) (r : Registry ω α) :
    Except CreationError ((ω × α) × LocalCache (ω × α) × KeyMap ω) :=
  (r.caches i).getOrCreate make (fun key v => (v, wrap i key v)) key r.map

/-- The next thing that a call to destroy the map does: it destroys an object, closes the tracker of
the owners, or returns if waiting for them is over. -/
def goOn (k : Nat) (r : Registry ω α) : Registry ω α :=
  match r.calls[k]? with
  | none => r
  | some c =>
    match c.left with
    | e :: l => { r with torn := r.torn ++ [e], calls := r.calls.set k { c with left := l } }
    | [] =>
      if c.closed then
        { r with calls := r.calls.set k { c with done := c.done || ready r.closed r.map.live } }
      else { r with closed := true, calls := r.calls.set k { c with closed := true } }

def act (op : RegistryOp α) (r : Registry ω α) : Registry ω α :=
  match op with
  | .ask key =>
    match r.map.getOrCreate make key with
    | .error _ => r
    | .ok (v, m) => r.note key v m
  | .askVia i key =>
    match r.lookUp make wrap i key with
    | .error _ => r
    | .ok (a, c, m) => { r.note key a.1 m with caches := Function.update r.caches i c }
  | .change i key f =>
    match (r.caches i).find? key with
    | none => r
    | some a =>
      { r with caches := Function.update r.caches i ((r.caches i).put key (a.1, f a.2)) }
  | .drain i => { r with caches := Function.update r.caches i {} }
  | .release token =>
    { r with
      map := r.map.release token
      released := r.released ++ if token ∈ r.map.live then [token] else [] }
  | .destroy =>
    { r with map := r.map.destroy.2, calls := r.calls ++ [{ left := r.map.destroy.1 }] }
  | .proceed k => r.goOn ready k

/-- The registry after all this was done. -/
def run (l : List (RegistryOp α)) : Registry ω α :=
  l.foldl (fun r op => r.act make wrap ready op) {}

/-- Each object is made once, and it is the one that everybody finds. The map has all of them until
it is destroyed and none after that, and counts them either way. -/
structure Faithful (r : Registry ω α) : Prop where
  once : (r.made.map Prod.fst).Nodup
  numbered : ∀ (n : Nat) (e : String × ω), r.made[n]? = some e → e.2 = make (KeySet.split e.1) n
  served : ∀ e ∈ r.served, e ∈ r.made
  cached : ∀ i, ∀ e ∈ (r.caches i).entries, (e.1, e.2.1) ∈ r.made
  counted : r.map.created = r.made.length
  present : r.map.destroyed = false → r.map.entries = r.made
  absent : r.map.destroyed = true → r.map.entries = []

end

section

variable {make make' : List String → Nat → ω} {wrap : Nat → String → ω → α}
  {ready : Bool → List Nat → Bool} {r : Registry ω α} {i : Nat} {key : String} {a : ω × α}

theorem run_concat (l : List (RegistryOp α)) (op : RegistryOp α) :
    run make wrap ready (l ++ [op]) = (run make wrap ready l).act make wrap ready op := by
  simp [run]

theorem act_proceed (r : Registry ω α) (k : Nat) :
    r.act make wrap ready (.proceed k) = r.goOn ready k := rfl

/-- A call to destroy the map leaves everything as it is but the calls and what they note. -/
theorem goOn_eq (ready : Bool → List Nat → Bool) (k : Nat) (r : Registry ω α) :
    ∃ closed calls torn, r.goOn ready k = { r with closed, calls, torn } := by
  unfold goOn
  split
  · exact ⟨_, _, _, rfl⟩
  · split
    · exact ⟨_, _, _, rfl⟩
    · split <;> exact ⟨_, _, _, rfl⟩

/-! ### What is always so -/

/-- What a lookup finds was made before or is made now. -/
theorem Faithful.note (h : r.Faithful make) {v : ω} {m : KeyMap ω}
    (hm : r.map.getOrCreate make key = .ok (v, m)) :
    (r.note key v m).Faithful make ∧ (key, v) ∈ (r.note key v m).made := by
  obtain ⟨honce, hnumbered, hserved, hcached, hcounted, hpresent, habsent⟩ := h
  obtain ⟨hd, ⟨hf, rfl⟩ | ⟨hf, rfl, rfl⟩⟩ := KeyMap.getOrCreate_cases hm
  · have hmem : (key, v) ∈ r.made := hpresent hd ▸ KeyMap.mem_of_find? hf
    have hnote : r.note key v r.map = { r with served := r.served ++ [(key, v)] } := by
      simp [Registry.note]
    rw [hnote]
    refine ⟨⟨honce, hnumbered, fun e he => ?_, hcached, hcounted, hpresent, habsent⟩, hmem⟩
    rcases List.mem_append.1 he with he | he
    · exact hserved e he
    · rwa [List.mem_singleton.1 he]
  · have hnew : key ∉ r.made.map Prod.fst := hpresent hd ▸ KeyMap.not_mem_of_find? hf
    set v := make (KeySet.split key) r.map.created with hv
    have hnote : r.note key v { r.map with
          entries := r.map.entries ++ [(key, v)]
          created := r.map.created + 1
          live := r.map.live ++ [r.map.created] }
        = { r with
            map := { r.map with
              entries := r.map.entries ++ [(key, v)]
              created := r.map.created + 1
              live := r.map.live ++ [r.map.created] }
            made := r.made ++ [(key, v)]
            served := r.served ++ [(key, v)] } := by
      simp [Registry.note]
    rw [hnote]
    have hlast : (key, v) ∈ r.made ++ [(key, v)] :=
      List.mem_append_right _ (List.mem_singleton.2 rfl)
    refine ⟨⟨?_, fun n e he => ?_, fun e he => ?_, fun i e he => ?_, ?_, fun _ => ?_, fun hs => ?_⟩,
      hlast⟩
    · rw [List.map_append, List.map_cons, List.map_nil]
      refine List.nodup_append.2 ⟨honce, by simp, fun k hk k' hk' hkk => hnew ?_⟩
      rwa [hkk, List.mem_singleton.1 hk'] at hk
    · rw [List.getElem?_append] at he
      split at he
      · exact hnumbered n e he
      · obtain ⟨hn, hlen⟩ : (key, v) = e ∧ n = r.made.length := by
          rw [List.getElem?_singleton] at he
          split at he
          · exact ⟨Option.some.inj he, by omega⟩
          · simp at he
        rw [← hn, hlen, ← hcounted]
    · rcases List.mem_append.1 he with he | he
      · exact List.mem_append_left _ (hserved e he)
      · rwa [List.mem_singleton.1 he]
    · exact List.mem_append_left _ (hcached i e he)
    · simp [hcounted]
    · rw [hpresent hd]
    · simp [hd] at hs

theorem Faithful.cache (h : r.Faithful make) {c : LocalCache (ω × α)}
    (hc : ∀ e ∈ c.entries, (e.1, e.2.1) ∈ r.made) :
    Faithful make { r with caches := Function.update r.caches i c } := by
  refine ⟨h.once, h.numbered, h.served, fun j e he => ?_, h.counted, h.present, h.absent⟩
  dsimp only at he
  rw [Function.update_apply] at he
  split at he
  · exact hc e he
  · exact h.cached j e he

/-- A lookup through a cache finds what the cache has, or what the map has. -/
theorem lookUp_cases {c : LocalCache (ω × α)} {m : KeyMap ω}
    (h : r.lookUp make wrap i key = .ok (a, c, m)) :
    (r.caches i).find? key = some a ∧ c = r.caches i ∧ m = r.map
      ∨ (r.caches i).find? key = none ∧ r.map.getOrCreate make key = .ok (a.1, m)
        ∧ a.2 = wrap i key a.1 ∧ c = ⟨(r.caches i).entries ++ [(key, a)]⟩ := by
  rcases LocalCache.getOrCreate_cases h with h | ⟨hf, v, hm, rfl, rfl⟩
  · exact .inl h
  · exact .inr ⟨hf, hm, rfl, rfl⟩

theorem Faithful.askVia (h : r.Faithful make) {c : LocalCache (ω × α)} {m : KeyMap ω}
    (hl : r.lookUp make wrap i key = .ok (a, c, m)) :
    Faithful make { r.note key a.1 m with caches := Function.update r.caches i c } := by
  rcases lookUp_cases hl with ⟨hf, rfl, rfl⟩ | ⟨-, hm, -, rfl⟩
  · have hmem := h.cached i _ (LocalCache.mem_of_find? hf)
    have hnote : r.note key a.1 r.map = { r with served := r.served ++ [(key, a.1)] } := by
      simp [Registry.note]
    rw [hnote, Function.update_eq_self]
    refine ⟨h.once, h.numbered, fun e he => ?_, h.cached, h.counted, h.present, h.absent⟩
    rcases List.mem_append.1 he with he | he
    · exact h.served e he
    · rwa [List.mem_singleton.1 he]
  · obtain ⟨hn, hmem⟩ := h.note hm
    refine hn.cache (i := i) fun e he => ?_
    rcases List.mem_append.1 he with he | he
    · exact hn.cached i e he
    · rwa [List.mem_singleton.1 he]

theorem Faithful.act (h : r.Faithful make) (op : RegistryOp α) :
    (r.act make wrap ready op).Faithful make := by
  cases op with
  | ask key =>
    simp only [Registry.act]
    split
    · exact h
    · exact (h.note ‹_›).1
  | askVia i key =>
    simp only [Registry.act]
    split
    · exact h
    · exact h.askVia ‹_›
  | change i key f =>
    simp only [Registry.act]
    split
    · exact h
    · rename_i a hf
      refine h.cache fun e he => ?_
      obtain ⟨e', he', rfl⟩ := List.mem_map.1 he
      split
      · exact h.cached i (key, a) (LocalCache.mem_of_find? hf)
      · exact h.cached i e' he'
  | drain i => exact h.cache (by simp)
  | release token => exact ⟨h.once, h.numbered, h.served, h.cached, h.counted, h.present, h.absent⟩
  | destroy =>
    exact ⟨h.once, h.numbered, h.served, h.cached, h.counted,
      by simp [Registry.act, KeyMap.destroy], fun _ => rfl⟩
  | proceed k =>
    obtain ⟨closed, calls, torn, heq⟩ := r.goOn_eq ready k
    rw [act_proceed, heq]
    exact ⟨h.once, h.numbered, h.served, h.cached, h.counted, h.present, h.absent⟩

theorem faithful_run (l : List (RegistryOp α)) : (run make wrap ready l).Faithful make := by
  induction l using List.reverseRecOn with
  | nil => exact ⟨List.nodup_nil, by simp [run], by simp [run], by simp [run], rfl, fun _ => rfl,
      by simp [run]⟩
  | append_singleton l op ih =>
    rw [run_concat]
    exact ih.act op

/-! ### What was made -/

/-- Nothing that was made is made again, and a map that was destroyed makes nothing. -/
theorem act_made (make : List String → Nat → ω) (wrap : Nat → String → ω → α)
    (ready : Bool → List Nat → Bool) (r : Registry ω α) (op : RegistryOp α) :
    r.made <+: (r.act make wrap ready op).made
      ∧ (r.map.destroyed = true → (r.act make wrap ready op).map.destroyed = true
        ∧ (r.act make wrap ready op).map.created = r.map.created
        ∧ (r.act make wrap ready op).made = r.made) := by
  cases op with
  | ask key =>
    simp only [act]
    split
    · exact ⟨List.prefix_rfl, fun hd => ⟨hd, rfl, rfl⟩⟩
    · rename_i v m hm
      refine ⟨List.prefix_append _ _, fun hd => ?_⟩
      simp [KeyMap.getOrCreate_of_destroyed hd] at hm
  | askVia i key =>
    simp only [act]
    split
    · exact ⟨List.prefix_rfl, fun hd => ⟨hd, rfl, rfl⟩⟩
    · rename_i a c m hl
      refine ⟨List.prefix_append _ _, fun hd => ?_⟩
      rcases lookUp_cases hl with ⟨-, -, rfl⟩ | ⟨-, hm, -⟩
      · simpa [note] using hd
      · simp [KeyMap.getOrCreate_of_destroyed hd] at hm
  | change i key f =>
    simp only [act]
    split <;> exact ⟨List.prefix_rfl, fun hd => ⟨hd, rfl, rfl⟩⟩
  | drain i => exact ⟨List.prefix_rfl, fun hd => ⟨hd, rfl, rfl⟩⟩
  | release token => exact ⟨List.prefix_rfl, fun hd => ⟨hd, rfl, rfl⟩⟩
  | destroy => exact ⟨List.prefix_rfl, fun _ => ⟨rfl, rfl, rfl⟩⟩
  | proceed k =>
    obtain ⟨closed, calls, torn, heq⟩ := r.goOn_eq ready k
    rw [act_proceed, heq]
    exact ⟨List.prefix_rfl, fun hd => ⟨hd, rfl, rfl⟩⟩

theorem made_run (l l' : List (RegistryOp α)) :
    (run make wrap ready l).made <+: (run make wrap ready (l ++ l')).made
      ∧ ((run make wrap ready l).map.destroyed = true →
        (run make wrap ready (l ++ l')).map.destroyed = true
          ∧ (run make wrap ready (l ++ l')).map.created = (run make wrap ready l).map.created
          ∧ (run make wrap ready (l ++ l')).made = (run make wrap ready l).made) := by
  induction l' using List.reverseRecOn with
  | nil => simp
  | append_singleton l' op ih =>
    rw [← List.append_assoc, run_concat]
    obtain ⟨hpre, hkeep⟩ := ih
    obtain ⟨hpre', hkeep'⟩ := (run make wrap ready (l ++ l')).act_made make wrap ready op
    refine ⟨hpre.trans hpre', fun hd => ?_⟩
    obtain ⟨hd', hcount, hmade⟩ := hkeep hd
    obtain ⟨hd'', hcount', hmade'⟩ := hkeep' hd'
    exact ⟨hd'', hcount'.trans hcount, hmade'.trans hmade⟩

/-- Who makes nothing does not need to know how objects are made. -/
theorem act_congr (op : RegistryOp α) (h : (r.act make wrap ready op).made = r.made) :
    r.act make' wrap ready op = r.act make wrap ready op := by
  have hcreated : ∀ (key : String) (v : ω) (m : KeyMap ω), (r.note key v m).made = r.made →
      m.created = r.map.created := by
    intro key v m hn
    by_contra hne
    simp [note, hne] at hn
  cases op with
  | ask key =>
    have hm : r.map.getOrCreate make' key = r.map.getOrCreate make key := by
      refine KeyMap.getOrCreate_congr fun v m hm => hcreated key v m ?_
      simpa only [act, hm] using h
    simp only [act, hm]
  | askVia i key =>
    have hl : r.lookUp make' wrap i key = r.lookUp make wrap i key := by
      refine LocalCache.getOrCreate_congr fun a c m hl => hcreated key a.1 m ?_
      have hl : r.lookUp make wrap i key = .ok (a, c, m) := hl
      simpa only [act, hl] using h
    simp only [act, hl]
  | change i key f => rfl
  | drain i => rfl
  | release token => rfl
  | destroy => rfl
  | proceed k => rfl

/-! ### Wrappers -/

/-- A caller that does not take its wrappers out keeps them, as it has changed them. -/
theorem find?_act (h : (r.caches i).find? key = some a) (op : RegistryOp α)
    (hop : op ≠ .drain i) :
    ((r.act make wrap ready op).caches i).find? key = some (a.1, op.onWrapper i key a.2) := by
  cases op with
  | ask k =>
    simp only [act]
    split <;> exact h
  | askVia j k =>
    simp only [act]
    split
    · exact h
    · rename_i b c m hl
      dsimp only
      by_cases hj : i = j
      · subst hj
        rw [Function.update_self, LocalCache.find?_getOrCreate hl, h]
        rfl
      · rw [Function.update_of_ne hj]
        exact h
  | change j k f =>
    simp only [act]
    split
    · rename_i hf
      have hne : ¬ (j = i ∧ k = key) := by
        rintro ⟨rfl, rfl⟩
        simp [h] at hf
      simpa [RegistryOp.onWrapper, hne] using h
    · rename_i b hf
      dsimp only
      by_cases hj : i = j
      · subst hj
        rw [Function.update_self, LocalCache.find?_put, h]
        by_cases hk : key = k
        · subst hk
          obtain rfl : a = b := by simpa [h] using hf
          simp [RegistryOp.onWrapper]
        · simp [RegistryOp.onWrapper, hk, Ne.symm hk]
      · rw [Function.update_of_ne hj]
        simpa [RegistryOp.onWrapper, Ne.symm hj] using h
  | drain j =>
    have hj : i ≠ j := fun heq => hop (heq ▸ rfl)
    simpa [act, Function.update_of_ne hj, RegistryOp.onWrapper] using h
  | release token => exact h
  | destroy => exact h
  | proceed k =>
    obtain ⟨closed, calls, torn, heq⟩ := r.goOn_eq ready k
    rw [act_proceed, heq]
    exact h

/-- A caller finds its wrapper as it was when it was found before, with all that it has done to it
since. -/
theorem find?_of_lookUp {pre mid : List (RegistryOp α)} {c : LocalCache (ω × α)} {m : KeyMap ω}
    (hl : (run make wrap ready pre).lookUp make wrap i key = .ok (a, c, m))
    (hmid : .drain i ∉ mid) :
    ((run make wrap ready (pre ++ .askVia i key :: mid)).caches i).find? key
      = some (a.1, changed i key mid a.2) := by
  induction mid using List.reverseRecOn with
  | nil =>
    have hc : c.find? key = some a := by
      rw [LocalCache.find?_getOrCreate hl]
      rcases lookUp_cases hl with ⟨hf, -⟩ | ⟨hf, -⟩
      · simp [hf]
      · simp [hf]
    simpa [run_concat, act, hl, changed] using hc
  | append_singleton mid op ih =>
    have hkept := ih fun hm => hmid (List.mem_append_left _ hm)
    have hop : op ≠ .drain i := fun heq => hmid (by simp [heq])
    rw [← List.cons_append, ← List.append_assoc, run_concat, find?_act hkept op hop, changed,
      changed, List.foldl_append]
    rfl

/-! ### What is answered -/

theorem destroyed_act (r : Registry ω α) (op : RegistryOp α) :
    (r.act make wrap ready op).map.destroyed = true ↔ r.map.destroyed = true ∨ op = .destroy := by
  cases op with
  | ask key =>
    simp only [act]
    split
    · simp
    · simp [note, KeyMap.destroyed_getOrCreate ‹_›]
  | askVia i key =>
    simp only [act]
    split
    · simp
    · rename_i a c m hl
      rcases lookUp_cases hl with ⟨-, -, rfl⟩ | ⟨-, hm, -⟩
      · simp [note]
      · simp [note, KeyMap.destroyed_getOrCreate hm]
  | change i key f =>
    simp only [act]
    split <;> simp
  | drain i => simp [act]
  | release token => simp [act, KeyMap.release]
  | destroy => simp [act, KeyMap.destroy]
  | proceed k =>
    obtain ⟨closed, calls, torn, heq⟩ := r.goOn_eq ready k
    rw [act_proceed, heq]
    simp

theorem destroyed_run (l : List (RegistryOp α)) :
    (run make wrap ready l).map.destroyed = true ↔ .destroy ∈ l := by
  induction l using List.reverseRecOn with
  | nil => simp [run]
  | append_singleton l op ih =>
    rw [run_concat, destroyed_act, ih, List.mem_append, List.mem_singleton, eq_comm (a := op)]

variable (make wrap ready) in
/-- What lookups answer after all this was done, and what comes of them: what is found is what was
made under the key, and whatever was found once is found again. A map that was destroyed refuses
whatever the caller does not have itself. -/
structure Answers (l : List (RegistryOp α)) (r : Registry ω α) : Prop where
  faithful : r.Faithful make
  size : r.map.destroyed = false → r.map.entries.length = r.map.created
  destroyed : r.map.destroyed = true ↔ .destroy ∈ l
  emptied : (r.act make wrap ready .destroy).map.entries = []
    ∧ (r.act make wrap ready .destroy).map.created = r.map.created
  -- what is made, and when
  grows : ∀ l', r.made <+: (run make wrap ready (l ++ l')).made
  ended : .destroy ∈ l → ∀ l', (run make wrap ready (l ++ l')).made = r.made
    ∧ (run make wrap ready (l ++ l')).map.created = r.map.created
  unmade : ∀ op, (r.act make wrap ready op).made = r.made → ∀ make',
    r.act make' wrap ready op = r.act make wrap ready op
  -- lookups in the map
  found : ∀ key v m, r.map.getOrCreate make key = .ok (v, m) →
    (key, v) ∈ (r.act make wrap ready (.ask key)).made
  answered : ∀ key, .destroy ∉ l → ∃ v m, r.map.getOrCreate make key = .ok (v, m)
  refused : ∀ key, .destroy ∈ l → r.map.getOrCreate make key = .error (.mapDestroyed key)
    ∧ r.act make wrap ready (.ask key) = r
  -- lookups through a cache
  foundVia : ∀ i key a c m, r.lookUp make wrap i key = .ok (a, c, m) →
    (key, a.1) ∈ (r.act make wrap ready (.askVia i key)).made
  wrapped : ∀ i key, (r.caches i).find? key = none → .destroy ∉ l →
    ∃ v c m, r.lookUp make wrap i key = .ok ((v, wrap i key v), c, m)
  missed : ∀ i key, (r.caches i).find? key = none → .destroy ∈ l →
    r.lookUp make wrap i key = .error (.mapDestroyed key)
      ∧ r.act make wrap ready (.askVia i key) = r
  kept : ∀ pre mid i key a c m, l = pre ++ .askVia i key :: mid →
    (run make wrap ready pre).lookUp make wrap i key = .ok (a, c, m) → .drain i ∉ mid →
    ∀ m', (r.caches i).getOrCreate make (fun key v => (v, wrap i key v)) key m'
      = .ok ((a.1, changed i key mid a.2), r.caches i, m')

/-- Whatever callers do, each key has one object, and every lookup finds it. -/
theorem lookups_of_run (make : List String → Nat → ω) (wrap : Nat → String → ω → α)
    (ready : Bool → List Nat → Bool) (l : List (RegistryOp α)) :
    Answers make wrap ready l (run make wrap ready l) := by
  set r := run make wrap ready l with hr
  have hfaithful : r.Faithful make := faithful_run l
  have hdestroyed : r.map.destroyed = true ↔ .destroy ∈ l := destroyed_run l
  have hopen : .destroy ∉ l → r.map.destroyed = false := by
    intro h
    rw [← hdestroyed] at h
    simpa using h
  refine {
    faithful := hfaithful
    size := fun hd => by rw [hfaithful.present hd, hfaithful.counted]
    destroyed := hdestroyed
    emptied := ⟨rfl, rfl⟩
    grows := fun l' => (made_run l l').1
    ended := fun hd l' => ?ended
    unmade := fun op hop make' => act_congr op hop
    found := fun key v m hm => ?found
    foundVia := fun i key a c m hl => ?foundVia
    wrapped := fun i key hc hd => LocalCache.exists_getOrCreate _ _ hc (hopen hd)
    answered := fun key hd => KeyMap.exists_getOrCreate make key (hopen hd)
    refused := fun key hd => ?refused
    missed := fun i key hc hd => ?missed
    kept := fun pre mid i key a c m heq hl hmid m' => ?kept }
  case ended =>
    obtain ⟨-, hcreated, hmade⟩ := (made_run l l').2 (hdestroyed.2 hd)
    exact ⟨hmade, hcreated⟩
  case found =>
    have hmem := (hfaithful.note hm).2
    simpa only [act, hm] using hmem
  case foundVia =>
    have hmem := (hfaithful.askVia hl).served (key, a.1) (by simp [note])
    simpa only [act, hl] using hmem
  case refused =>
    have hm : r.map.getOrCreate make key = .error (.mapDestroyed key) :=
      KeyMap.getOrCreate_of_destroyed (hdestroyed.2 hd)
    exact ⟨hm, by simp only [act, hm]⟩
  case missed =>
    have hl : r.lookUp make wrap i key = .error (.mapDestroyed key) :=
      LocalCache.getOrCreate_of_destroyed hc (hdestroyed.2 hd)
    exact ⟨hl, by simp only [act, hl]⟩
  case kept =>
    have hf : (r.caches i).find? key = some (a.1, changed i key mid a.2) := by
      rw [hr, heq]
      exact find?_of_lookUp hl hmid
    exact LocalCache.getOrCreate_of_find? hf _ _ m'

/-- A caller still finds its wrapper, as it has changed it, after the map was destroyed. -/
theorem lookup_after_destroy :
    let make : List String → Nat → Nat := fun _ n => n
    let wrap : Nat → String → Nat → Nat := fun _ _ v => v + 10
    let l : List (RegistryOp Nat) :=
      [.askVia 0 "1:a", .change 0 "1:a" (· * 2), .askVia 1 "1:a", .destroy]
    let r := run make wrap (fun closed live => closed && live.isEmpty) l
    ∀ m, (r.caches 0).getOrCreate make (fun key v => (v, wrap 0 key v)) "1:a" m
      = .ok ((0, 20), r.caches 0, m) :=
  (lookups_of_run (fun _ n => n) (fun _ _ v => v + 10) (fun closed live => closed && live.isEmpty)
    [.askVia 0 "1:a", .change 0 "1:a" (· * 2), .askVia 1 "1:a", .destroy]).kept [] _ 0 "1:a" (0, 10)
    _ _ rfl rfl (by simp)

end

end Registry

end LogPipeline
