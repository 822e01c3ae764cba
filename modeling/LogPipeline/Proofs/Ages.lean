import LogPipeline.Proofs.Gathering
import Mathlib.Data.List.Basic

/-!
# How long things have waited

Things come one after the other, and the last of them wait, with a note of when the first of these
came (`Lingers`). What waits in a buffer is the end of what was appended to it
(`SendBuffer.Recalls`). Whatever is done to a buffer either adds one record to this end or hands on
all of it. So a tick leaves nothing behind that has waited for the flush interval
(`SendBuffer.Recalls.tick`), and a buffer whose limits are positive stays below them
(`SendBuffer.Within.append`).
-/

namespace LogPipeline

/-! ## What came last -/

section

variable {α : Type} {now now' t : Instant} {log recent : List (α × Instant)}
  {oldest : Option Instant}

/-- Of the things that came so far, each with its time, the last ones wait, and `oldest` is when the
first of these came. -/
structure Lingers (now : Instant) (log recent : List (α × Instant)) (oldest : Option Instant) :
    Prop where
  suffix : recent <:+ log
  oldest : oldest = recent.head?.map Prod.snd
  ordered : (recent.map Prod.snd).Pairwise (· ≤ ·)
  past : ∀ e ∈ recent, e.2 ≤ now

theorem lingers_nil (now : Instant) (log : List (α × Instant)) : Lingers now log [] none :=
  ⟨List.nil_suffix, rfl, .nil, List.forall_mem_nil _⟩

/-- What came last waits alone. -/
theorem lingers_last (now : Instant) (log : List (α × Instant)) (a : α) :
    Lingers now (log ++ [(a, now)]) [(a, now)] (some now) :=
  ⟨List.suffix_append _ _, rfl, List.pairwise_singleton _ _,
    fun _ he => Nat.le_of_eq (congrArg Prod.snd (List.mem_singleton.1 he))⟩

namespace Lingers

theorem later (h : Lingers now log recent oldest) (ht : now ≤ now') :
    Lingers now' log recent oldest :=
  ⟨h.suffix, h.oldest, h.ordered, fun e he => Nat.le_trans (h.past e he) ht⟩

theorem push (h : Lingers now log recent oldest) (a : α) :
    Lingers now (log ++ [(a, now)]) (recent ++ [(a, now)])
      (if recent.isEmpty then some now else oldest) := by
  refine ⟨?_, ?_, ?_, fun e he => ?_⟩
  · obtain ⟨past, rfl⟩ := h.suffix
    exact ⟨past, (List.append_assoc ..).symm⟩
  · rw [h.oldest]
    cases recent <;> rfl
  · rw [List.map_append, List.pairwise_append]
    refine ⟨h.ordered, List.pairwise_singleton _ _, fun s hs s' hs' => ?_⟩
    obtain ⟨e, he, rfl⟩ := List.mem_map.1 hs
    obtain rfl : s' = now := by simpa using hs'
    exact h.past e he
  · rcases List.mem_append.1 he with he | he
    · exact h.past e he
    · exact Nat.le_of_eq (congrArg Prod.snd (List.mem_singleton.1 he))

/-- If the first of those that wait has not waited for long, none has. -/
theorem fresh (h : Lingers now log recent oldest) {interval : Nat}
    (hs : ∀ s, oldest = some s → t - s < interval) : ∀ e ∈ recent, t - e.2 < interval := by
  intro e he
  cases recent with
  | nil => cases he
  | cons first rest =>
    have hle : first.2 ≤ e.2 := by
      rcases List.mem_cons.1 he with rfl | he
      · exact Nat.le_refl _
      · exact (List.pairwise_cons.1 h.ordered).1 _ (List.mem_map_of_mem he)
    exact Nat.lt_of_le_of_lt (Nat.sub_le_sub_left hle t) (hs first.2 h.oldest)

end Lingers

end

/-! ## Buffers -/

namespace SendBuffer

variable {now now' t : Instant} {b : SendBuffer} {r : Record} {log recent : List (Record × Instant)}

/-- Of the records appended so far, each with its time, those that wait in the buffer are the last,
and the buffer knows when the first of them came. -/
structure Recalls (now : Instant) (log recent : List (Record × Instant)) (b : SendBuffer) : Prop
    extends Lingers now log recent b.oldest where
  records : recent.map Prod.fst = b.pending

theorem recalls_nil (h : b.pending = []) (ho : b.oldest = none) (now : Instant)
    (log : List (Record × Instant)) : b.Recalls now log [] := ⟨ho ▸ lingers_nil now log, h.symm⟩

theorem recalls_emptied (b : SendBuffer) (now : Instant) (log : List (Record × Instant)) :
    b.emptied.Recalls now log [] := recalls_nil rfl rfl now log

theorem Recalls.later (h : b.Recalls now log recent) (ht : now ≤ now') :
    b.Recalls now' log recent := ⟨h.toLingers.later ht, h.records⟩

theorem Recalls.push (h : b.Recalls now log recent) (r : Record) :
    (b.push now r).Recalls now (log ++ [(r, now)]) (recent ++ [(r, now)]) := by
  have hempty : b.pending.isEmpty = recent.isEmpty := by
    rw [← h.records]
    cases recent <;> rfl
  refine ⟨?_, ?_⟩
  · simp only [SendBuffer.push, hempty]
    exact h.toLingers.push r
  · rw [List.map_append, h.records]
    rfl

/-- A record stays, or leaves with all others. -/
theorem append_cases (now : Instant) (r : Record) (b : SendBuffer) :
    b.append now r = (none, b.push now r) ∧ (b.push now r).isFull = false
      ∨ b.append now r = (some (b.pending ++ [r]), (b.push now r).emptied) := by
  unfold append
  dsimp only
  split
  · rcases (b.push now r).flush_cases with ⟨-, hp⟩ | hf
    · simp [push] at hp
    · exact .inr hf
  · rename_i hfull
    exact .inl ⟨rfl, by simpa using hfull⟩

theorem limits_append (now : Instant) (r : Record) (b : SendBuffer) :
    (b.append now r).2.limits = b.limits := by
  rcases b.append_cases now r with ⟨ha, -⟩ | ha <;> rw [ha] <;> rfl

theorem Recalls.append (h : b.Recalls now log recent) (r : Record) :
    ∃ recent', (b.append now r).2.Recalls now (log ++ [(r, now)]) recent' := by
  rcases b.append_cases now r with ⟨ha, -⟩ | ha
  · rw [ha]
    exact ⟨_, h.push r⟩
  · rw [ha]
    exact ⟨[], recalls_emptied _ _ _⟩

theorem Recalls.flush (h : b.Recalls now log recent) :
    b.flush.2.Recalls now log [] ∧ b.flush.2.limits = b.limits := by
  rcases b.flush_cases with ⟨hf, hp⟩ | hf
  · obtain rfl := List.map_eq_nil_iff.1 (h.records.trans hp)
    rw [hf]
    exact ⟨h, rfl⟩
  · rw [hf]
    exact ⟨recalls_emptied b now log, rfl⟩

/-- A buffer whose oldest record has not waited for long holds none that has. -/
theorem Recalls.fresh (h : b.Recalls now log recent) (hs : b.isStale t = false) :
    ∀ e ∈ recent, t - e.2 < b.limits.flushInterval :=
  h.toLingers.fresh fun s ho => by simpa [isStale, ho] using hs

/-- A tick hands on everything, or nothing that waits is old. -/
theorem Recalls.tick_cases (h : b.Recalls now log recent) (t : Instant) :
    b.tick t = (none, b) ∧ b.isStale t = false
      ∨ b.tick t = (some b.pending, b.emptied) ∧ b.pending ≠ [] := by
  unfold SendBuffer.tick
  split
  · rename_i hs
    have hne : b.pending ≠ [] := by
      rintro hp
      obtain rfl := List.map_eq_nil_iff.1 (h.records.trans hp)
      simp [isStale, h.oldest] at hs
    exact .inr ⟨b.flush_cases.resolve_left fun hf => hne hf.2, hne⟩
  · exact .inl ⟨rfl, by simpa using ‹¬b.isStale t = true›⟩

theorem Recalls.tick (h : b.Recalls now log recent) (t : Instant) :
    (b.tick t).2.isStale t = false ∧ (b.tick t).2.limits = b.limits
      ∧ ∃ recent', (b.tick t).2.Recalls now log recent' := by
  rcases h.tick_cases t with ⟨ht, hs⟩ | ⟨ht, -⟩
  · rw [ht]
    exact ⟨hs, rfl, recent, h⟩
  · rw [ht]
    exact ⟨rfl, rfl, [], recalls_emptied _ _ _⟩

end SendBuffer

/-! ## Limits -/

/-- What limits allow for a batch: no record more than wanted, and not enough bytes without the last
record. -/
structure BufferLimits.Allows (limits : BufferLimits) (l : Batch) : Prop where
  pos : 1 ≤ l.length
  records : l.length ≤ limits.maxRecords
  bytes : Batch.bytes l.dropLast < limits.maxBytes

/-- Limits that a record has to come for. -/
structure BufferLimits.Positive (limits : BufferLimits) : Prop where
  records : 1 ≤ limits.maxRecords
  bytes : 1 ≤ limits.maxBytes

namespace SendBuffer

variable {now t : Instant} {b : SendBuffer} {r : Record}

/-- A buffer that knows how many bytes wait in it and is below both of its limits. -/
structure Within (b : SendBuffer) : Prop where
  records : b.pending.length < b.limits.maxRecords
  bytes : b.pendingBytes < b.limits.maxBytes
  exact : b.pendingBytes = Batch.bytes b.pending

theorem within_emptied (h : b.limits.Positive) : b.emptied.Within := ⟨h.records, h.bytes, rfl⟩

theorem Within.positive (h : b.Within) : b.limits.Positive :=
  ⟨Nat.lt_of_le_of_lt (Nat.zero_le _) h.records, Nat.lt_of_le_of_lt (Nat.zero_le _) h.bytes⟩

/-- What waits is a batch that may be sent at any time. -/
theorem Within.allows (h : b.Within) (hp : b.pending ≠ []) : b.limits.Allows b.pending := by
  refine ⟨List.length_pos_iff.2 hp, Nat.le_of_lt h.records, Nat.lt_of_le_of_lt ?_ h.bytes⟩
  rw [h.exact]
  conv_rhs => rw [← List.dropLast_append_getLast hp]
  simp [Batch.bytes]

theorem Within.append (h : b.Within) (now : Instant) (r : Record) :
    (b.append now r).2.Within ∧ ∀ l, (b.append now r).1 = some l → b.limits.Allows l := by
  rcases b.append_cases now r with ⟨ha, hfull⟩ | ha
  · rw [ha]
    have hbelow : (b.push now r).pending.length < b.limits.maxRecords
        ∧ (b.push now r).pendingBytes < b.limits.maxBytes := by
      simpa [isFull, push] using hfull
    refine ⟨⟨hbelow.1, hbelow.2, ?_⟩, fun l hl => by simp at hl⟩
    simp [push, h.exact, Batch.bytes]
  · rw [ha]
    refine ⟨within_emptied (b := b.push now r) h.positive, fun l hl => ?_⟩
    obtain rfl := Option.some.inj hl
    refine ⟨by simp, by simpa using Nat.succ_le_of_lt h.records, ?_⟩
    rw [List.dropLast_concat, ← h.exact]
    exact h.bytes

theorem Within.flush (h : b.Within) :
    b.flush.2.Within ∧ ∀ l, b.flush.1 = some l → b.limits.Allows l := by
  rcases b.flush_cases with ⟨hf, hp⟩ | hf
  · rw [hf]
    exact ⟨h, fun l hl => by simp at hl⟩
  · refine ⟨hf ▸ within_emptied h.positive, fun l hl => ?_⟩
    obtain rfl : b.pending = l := by simpa [hf] using hl
    exact h.allows (ne_nil_of_flush (congrArg Prod.fst hf))

/-- A record whose bytes leave room for those of a buffer below its limits can be counted. -/
theorem Within.lt (h : b.Within) {word : Nat} (hr : r.size + b.limits.maxBytes ≤ word) :
    b.pendingBytes + r.size < word := by
  have := h.bytes
  omega

/-! ## What is handed on -/

/-- What comes of an operation on a buffer: a batch at most, and the rest, which together are
`records`. -/
structure Hands (limits : BufferLimits) (records : Batch) (r : Option Batch × SendBuffer) :
    Prop where
  within : r.2.Within
  records : r.1.getD [] ++ r.2.pending = records
  allowed : ∀ l, r.1 = some l → limits.Allows l

theorem hands_append (hb : b.Within) (now : Instant) (r : Record) :
    Hands b.limits (b.pending ++ [r]) (b.append now r) := by
  obtain ⟨hwithin, hallowed⟩ := hb.append now r
  refine ⟨hwithin, ?_, hallowed⟩
  rcases b.append_cases now r with ⟨ha, -⟩ | ha
  · rw [ha]
    rfl
  · rw [ha]
    exact List.append_nil _

theorem hands_flush (hb : b.Within) : Hands b.limits b.pending b.flush := by
  obtain ⟨hwithin, hallowed⟩ := hb.flush
  refine ⟨hwithin, ?_, hallowed⟩
  rcases b.flush_cases with ⟨hf, hp⟩ | hf
  · rw [hf]
    rfl
  · rw [hf]
    exact List.append_nil _

theorem hands_tick (hb : b.Within) (t : Instant) : Hands b.limits b.pending (b.tick t) := by
  unfold SendBuffer.tick
  split
  · exact hands_flush hb
  · exact ⟨hb, rfl, nofun⟩

end SendBuffer

end LogPipeline
