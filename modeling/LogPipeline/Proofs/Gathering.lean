import LogPipeline.Sink
import LogPipeline.Proofs.Seats

/-!
# Records gathered in sinks

A buffer that is given a record or ticked hands on what it held as one batch or keeps it; a sink
does so through one of its buffers. No record is handed on twice and none is dropped, as long as no
two buffers of a sink have the same key (`Sink.Neat`). This holds of every measure of records, and
so of their number.
-/

namespace LogPipeline

/-- The records of a batch that was handed on, if one was. -/
def handed : Option (Nat × Batch) → Nat
  | none => 0
  | some (_, b) => b.length

/-- What was handed on. -/
def handedOn : Option (Nat × Batch) → Batch
  | none => []
  | some (_, b) => b

theorem length_handedOn (b : Option (Nat × Batch)) : (handedOn b).length = handed b := by
  cases b <;> rfl

theorem total_one {α : Type} (l : List α) : total (fun _ => 1) l = l.length := by
  induction l with
  | nil => rfl
  | cons a l ih =>
    rw [total_cons, ih, List.length_cons]
    exact Nat.add_comm 1 _

theorem total_flatMap {α β : Type} (φ : β → Nat) (f : α → List β) (l : List α) :
    total φ (l.flatMap f) = total (fun a => total φ (f a)) l := by
  induction l with
  | nil => rfl
  | cons a l ih => simp [ih]

namespace SendBuffer

variable {now : Instant} {b : SendBuffer}

theorem flush_cases (b : SendBuffer) :
    b.flush = (none, b) ∧ b.pending = [] ∨ b.flush = (some b.pending, b.emptied) := by
  unfold flush
  split
  · exact .inl ⟨rfl, List.isEmpty_iff.1 ‹_›⟩
  · exact .inr rfl

/-- No batch is empty. -/
theorem ne_nil_of_flush {l : Batch} (h : b.flush.1 = some l) : l ≠ [] := by
  unfold flush at h
  split at h
  · simp at h
  · rename_i hp
    obtain rfl := Option.some.inj h
    simpa using hp

end SendBuffer

namespace Outlet

theorem ne_nil_of_append {now : Instant} {o : Outlet} {r : Record} {e : Nat × Batch}
    (h : (o.append now r).1 = some e) : e.2 ≠ [] := by
  obtain ⟨l, hl, rfl⟩ := Option.map_eq_some_iff.1 h
  have hl : (o.buffer.append now r).1 = some l := hl
  unfold SendBuffer.append at hl
  dsimp only at hl
  split at hl
  · exact SendBuffer.ne_nil_of_flush hl
  · simp at hl

theorem ne_nil_of_tick {now : Instant} {o : Outlet} {e : Nat × Batch}
    (h : (o.tick now).1 = some e) : e.2 ≠ [] := by
  obtain ⟨l, hl, rfl⟩ := Option.map_eq_some_iff.1 h
  have hl : (o.buffer.tick now).1 = some l := hl
  unfold SendBuffer.tick at hl
  split at hl
  · exact SendBuffer.ne_nil_of_flush hl
  · simp at hl

/-- The records that wait in the buffer. -/
def load (o : Outlet) : Nat := o.buffer.pending.length

theorem pending_append (now : Instant) (o : Outlet) (r : Record) :
    handedOn (o.append now r).1 ++ (o.append now r).2.buffer.pending
      = o.buffer.pending ++ [r] := by
  have hpush : (o.buffer.push now r).pending = o.buffer.pending ++ [r] := rfl
  simp only [append, SendBuffer.append]
  split
  · rcases (o.buffer.push now r).flush_cases with ⟨hf, hp⟩ | hf
    · simp [hp] at hpush
    · simpa [hf, handedOn, SendBuffer.emptied] using hpush
  · exact hpush

theorem pending_tick (now : Instant) (o : Outlet) :
    handedOn (o.tick now).1 ++ (o.tick now).2.buffer.pending = o.buffer.pending := by
  simp only [tick, SendBuffer.tick]
  split
  · rcases o.buffer.flush_cases with ⟨hf, hp⟩ | hf
    · simp [hf, handedOn]
    · simp [hf, handedOn, SendBuffer.emptied]
  · rfl

theorem load_append (now : Instant) (o : Outlet) (r : Record) :
    handed (o.append now r).1 + (o.append now r).2.load = o.load + 1 := by
  simpa [length_handedOn, load] using congrArg List.length (pending_append now o r)

theorem total_handed (φ : Record → Nat) (now : Instant) (o : Outlet) (r : Record) :
    total φ (handedOn (o.append now r).1) + total φ (o.append now r).2.buffer.pending
      = total φ o.buffer.pending + φ r := by
  rw [← total_append, pending_append, total_append, total_cons, total_nil]
  rfl

/-- What a buffer hands on goes to its pipeline. -/
theorem pipeline_append (now : Instant) (o : Outlet) (r : Record) :
    (o.append now r).2.pipeline = o.pipeline
      ∧ ∀ e, (o.append now r).1 = some e → e.1 = o.pipeline := by
  refine ⟨rfl, fun e he => ?_⟩
  obtain ⟨b, -, rfl⟩ := Option.map_eq_some_iff.1 he
  rfl

theorem pipeline_tick (now : Instant) (o : Outlet) :
    (o.tick now).2.pipeline = o.pipeline
      ∧ ∀ e, (o.tick now).1 = some e → e.1 = o.pipeline := by
  refine ⟨rfl, fun e he => ?_⟩
  obtain ⟨b, -, rfl⟩ := Option.map_eq_some_iff.1 he
  rfl

end Outlet

/-! ## Caches -/

namespace KeyMap

variable {ω : Type} {m m' : KeyMap ω} {make : List String → Nat → ω} {key : String} {v : ω}

/-- An object is found, or is new and takes the next number. -/
theorem getOrCreate_cases (h : m.getOrCreate make key = .ok (v, m')) :
    m.destroyed = false ∧ (m.find? key = some v ∧ m' = m
      ∨ m.find? key = none ∧ v = make (KeySet.split key) m.created
        ∧ m' = { m with
            entries := m.entries ++ [(key, v)]
            created := m.created + 1
            live := m.live ++ [m.created] }) := by
  unfold getOrCreate at h
  split at h
  · simp at h
  · rename_i hd
    refine ⟨by simpa using hd, ?_⟩
    split at h
    · rename_i hf
      obtain ⟨rfl, rfl⟩ := by simpa using h
      exact .inl ⟨hf, rfl⟩
    · rename_i hf
      obtain ⟨rfl, rfl⟩ := by simpa using h
      exact .inr ⟨hf, rfl, rfl⟩

end KeyMap

namespace LocalCache

variable {ω α : Type} {c c' : LocalCache α} {m m' : KeyMap ω} {make : List String → Nat → ω}
  {wrap : String → ω → α} {key : String} {a : α}

/-- No key is used twice. -/
def Neat (c : LocalCache α) : Prop := (c.entries.map Prod.fst).Nodup

/-- What the map came to when it was asked for an object: nothing has changed, or there is one more
object. -/
def Grown (m m' : KeyMap ω) : Prop :=
  m' = m ∨ m.destroyed = false ∧ m'.created = m.created + 1 ∧ m'.live = m.live ++ [m.created]
    ∧ m'.destroyed = false

/-- What is found was in the cache, or is made of what the map has for the key. -/
theorem getOrCreate_cases (h : c.getOrCreate make wrap key m = .ok (a, c', m')) :
    c.find? key = some a ∧ c' = c ∧ m' = m
      ∨ c.find? key = none ∧ ∃ v, m.getOrCreate make key = .ok (v, m') ∧ a = wrap key v
        ∧ c' = ⟨c.entries ++ [(key, a)]⟩ := by
  unfold getOrCreate at h
  split at h
  · rename_i hf
    obtain ⟨rfl, rfl, rfl⟩ := by simpa using h
    exact .inl ⟨hf, rfl, rfl⟩
  · rename_i hf
    rcases hm : m.getOrCreate make key with e | ⟨v, m₁⟩
    · simp [hm, bind, Except.bind] at h
    · simp only [hm, bind, Except.bind, pure, Except.pure, Except.ok.injEq, Prod.mk.injEq] at h
      obtain ⟨rfl, rfl, rfl⟩ := h
      exact .inr ⟨hf, v, rfl, rfl, rfl⟩

/-- Only a map that was destroyed refuses to create an object. -/
theorem destroyed_of_error {e : CreationError} (h : c.getOrCreate make wrap key m = .error e) :
    m.destroyed = true := by
  unfold getOrCreate at h
  split at h
  · simp at h
  · by_contra hd
    have hd : m.destroyed = false := by simpa using hd
    unfold KeyMap.getOrCreate at h
    simp only [hd, Bool.false_eq_true, ↓reduceIte] at h
    split at h <;> simp [bind, Except.bind, pure, Except.pure] at h

/-- What is found was there or is new, and has its place in the cache. -/
theorem getOrCreate_ok (hc : c.Neat) (h : c.getOrCreate make wrap key m = .ok (a, c', m')) :
    c'.Neat ∧ c'.find? key = some a ∧ Grown m m'
      ∧ (c' = c ∨ ∃ v, a = wrap key v ∧ c'.entries = c.entries ++ [(key, a)]) := by
  rcases getOrCreate_cases h with ⟨hf, rfl, rfl⟩ | ⟨hf, v, hm, rfl, rfl⟩
  · exact ⟨hc, hf, .inl rfl, .inl rfl⟩
  · have hnew : c.entries.find? (·.1 == key) = none := by
      simpa [LocalCache.find?] using hf
    refine ⟨?_, ?_, ?_, .inr ⟨v, rfl, rfl⟩⟩
    · simp only [Neat, List.map_append, List.map_cons, List.map_nil]
      refine List.nodup_append.2 ⟨hc, by simp, fun k hk k' hk' hkk => ?_⟩
      obtain ⟨e, he, rfl⟩ := List.mem_map.1 hk
      have := List.find?_eq_none.1 hnew e he
      simp [hkk, List.mem_singleton.1 hk'] at this
    · simp [LocalCache.find?, List.find?_append, hnew]
    · obtain ⟨hd, ⟨-, rfl⟩ | ⟨-, -, rfl⟩⟩ := KeyMap.getOrCreate_cases hm
      · exact .inl rfl
      · exact .inr ⟨hd, rfl, rfl, hd⟩

theorem put_neat (hc : c.Neat) (h : c.find? key = some a) (f : α → Nat) (b : α) :
    (c.put key b).Neat
      ∧ total (fun e => f e.2) (c.put key b).entries + f a
        = total (fun e => f e.2) c.entries + f b := by
  obtain ⟨pre, post, hl, hput, -⟩ := exists_entry hc h
  have hput := hput b
  refine ⟨?_, ?_⟩
  · have : (pre ++ (key, b) :: post).map Prod.fst = (pre ++ (key, a) :: post).map Prod.fst := by
      simp
    simp only [Neat, put, hput, this]
    exact hl ▸ hc
  · simp only [put, hput]
    simp only [hl, total_append, total_cons]
    omega

end LocalCache

/-! ## Sinks -/

namespace Sink

variable {s : Sink} {now : Instant} {i : Nat} {φ : Record → Nat}

/-- No two buffers have the same key. -/
def Neat : Sink → Prop
  | single _ => True
  | keyed c => c.Neat

/-- The records that wait in the sink. -/
def load (s : Sink) : Nat := total Outlet.load s.outlets

theorem total_pending (φ : Record → Nat) (s : Sink) :
    total φ s.pending = total (fun o => total φ o.buffer.pending) s.outlets :=
  total_flatMap φ _ s.outlets

theorem total_keyed (φ : Record → Nat) (c : LocalCache Outlet) :
    total φ (keyed c).pending = total (fun e => total φ e.2.buffer.pending) c.entries := by
  simp [total_pending, outlets]

theorem length_pending (s : Sink) : s.pending.length = s.load := by
  rw [← total_one, total_pending]
  simp only [total_one]
  rfl

@[simp] theorem pending_emptied (s : Sink) : s.emptied.pending = [] := by
  cases s <;> rfl

@[simp] theorem load_emptied (s : Sink) : s.emptied.load = 0 := by
  cases s <;> rfl

@[simp] theorem neat_emptied (s : Sink) : s.emptied.Neat := by
  cases s
  · trivial
  · exact List.nodup_nil

theorem load_keyed (c : LocalCache Outlet) :
    (keyed c).load = total (fun e => Outlet.load e.2) c.entries := by
  simp [load, outlets]

/-- What a sink sends when it is closed is what waits in it. -/
theorem flatMap_batches (s : Sink) : s.batches.flatMap Prod.snd = s.pending := by
  unfold batches pending
  induction s.outlets with
  | nil => rfl
  | cons o l ih =>
    rcases o.buffer.flush_cases with ⟨hf, hp⟩ | hf
    · rw [List.filterMap_cons_none (by simp [hf]), ih]
      simp [hp]
    · rw [List.filterMap_cons_some (by rw [hf]; rfl), List.flatMap_cons, List.flatMap_cons, ih]

theorem load_batches (s : Sink) : total (fun b => b.2.length) s.batches = s.load := by
  rw [← length_pending, ← flatMap_batches, ← total_one, total_flatMap]
  simp only [total_one]

theorem ne_nil_of_mem_batches {s : Sink} {e : Nat × Batch} (h : e ∈ s.batches) : e.2 ≠ [] := by
  obtain ⟨o, -, ho⟩ := List.mem_filterMap.1 h
  obtain ⟨l, hl, rfl⟩ := Option.map_eq_some_iff.1 ho
  exact SendBuffer.ne_nil_of_flush hl

theorem ne_nil_of_tick {now : Instant} {i : Nat} {s : Sink} {e : Nat × Batch}
    (h : (s.tick now i).1 = some e) : e.2 ≠ [] := by
  unfold tick at h
  split at h
  · simp at h
  · exact Outlet.ne_nil_of_tick h
  · split at h
    · simp at h
    · exact Outlet.ne_nil_of_tick h

/-- A record that a tick hands on does not wait any longer. -/
theorem total_tick (φ : Record → Nat) (now : Instant) (i : Nat) (s : Sink) :
    total φ (handedOn (s.tick now i).1) + total φ (s.tick now i).2.pending = total φ s.pending := by
  have hone : ∀ o : Outlet,
      total φ (handedOn (o.tick now).1) + total φ (o.tick now).2.buffer.pending
        = total φ o.buffer.pending := fun o => by
    rw [← total_append, Outlet.pending_tick]
  unfold tick
  split
  · rfl
  · rename_i o
    simpa [pending, outlets] using hone o
  · rename_i c
    split
    · exact Nat.zero_add _
    · rename_i key o hi
      have htotal := total_set (fun e => total φ e.2.buffer.pending) hi (key, (o.tick now).2)
      have htick := hone o
      simp only [total_keyed]
      dsimp only at htotal
      omega

theorem load_tick (hs : s.Neat) (now : Instant) (i : Nat) :
    (s.tick now i).2.Neat ∧ handed (s.tick now i).1 + (s.tick now i).2.load = s.load := by
  refine ⟨?_, ?_⟩
  · unfold tick
    split
    · trivial
    · trivial
    · rename_i c
      split
      · exact hs
      · rename_i key o hi
        have : (c.entries.set i (key, (o.tick now).2)).map Prod.fst = c.entries.map Prod.fst := by
          obtain ⟨pre, post, hl, rfl⟩ := exists_seat hi
          simp [hl]
        simp only [Neat, LocalCache.Neat, this]
        exact hs
  · have htotal := total_tick (fun _ => 1) now i s
    simpa only [total_one, length_handedOn, length_pending] using htotal

end Sink

end LogPipeline
