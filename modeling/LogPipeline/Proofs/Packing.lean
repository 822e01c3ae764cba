import LogPipeline.Proofs.Content
import Mathlib.Data.List.Forall2

/-!
# Lines in chunks

The chunks of a processor and the chunk being built hold whole lines, one after the other. A write
adds a line behind all others (`Packed.write`), and neither a write nor a flush breaks one up.
-/

namespace LogPipeline

/-- Lines one after the other. -/
def joined (lines : List ByteArray) : ByteArray := lines.foldr (· ++ ·) .empty

@[simp] theorem joined_nil : joined [] = .empty := rfl

@[simp] theorem joined_cons (line : ByteArray) (lines : List ByteArray) :
    joined (line :: lines) = line ++ joined lines := rfl

@[simp] theorem joined_append (k l : List ByteArray) : joined (k ++ l) = joined k ++ joined l := by
  induction k with
  | nil => simp
  | cons a k ih => simp [ih, ByteArray.append_assoc]

/-- The chunk says these lines, of which there is at least one. -/
def Chunk.Says (c : Chunk) (lines : List ByteArray) : Prop := lines ≠ [] ∧ c.data = joined lines

/-- The chunks say these blocks of lines, and the chunk being built says the rest. No line is
empty. -/
structure Packed (cs : List Chunk) (m : ChunkMaker) (blocks : List (List ByteArray))
    (rest : List ByteArray) : Prop where
  chunks : List.Forall₂ Chunk.Says cs blocks
  buffer : m.buffer = joined rest
  full : ∀ line ∈ rest, line.size ≠ 0

namespace Packed

variable {cs : List Chunk} {m : ChunkMaker} {blocks : List (List ByteArray)}
  {rest : List ByteArray} {p p' : Processor} {b b' : Books}

theorem hasPending_iff (h : Packed cs m blocks rest) : m.hasPending = true ↔ rest ≠ [] := by
  have hb := h.buffer
  rcases rest with _ | ⟨line, rest⟩
  · simp [ChunkMaker.hasPending, hb]
  · have := h.full line (by simp)
    simp only [ChunkMaker.hasPending, hb, joined_cons, ByteArray.size_append, ne_eq, reduceCtorEq,
      not_false_eq_true, iff_true, decide_eq_true_eq]
    omega

theorem flush (h : Packed cs m blocks rest) :
    ∃ blocks' rest', Packed (cs ++ m.flush.1.toList) m.flush.2 blocks' rest'
      ∧ blocks'.flatten ++ rest' = blocks.flatten ++ rest := by
  unfold ChunkMaker.flush
  split
  · rename_i hm
    refine ⟨blocks ++ [rest], [], ⟨?_, rfl, by simp⟩, by simp⟩
    exact List.rel_append h.chunks (.cons ⟨h.hasPending_iff.1 hm, h.buffer⟩ .nil)
  · exact ⟨blocks, rest, by simpa using h, rfl⟩

theorem write (h : Packed cs m blocks rest) {line : ByteArray} (hl : line.size ≠ 0) :
    ∃ blocks' rest', Packed (cs ++ (m.write line).1.toList) (m.write line).2 blocks' rest'
      ∧ blocks'.flatten ++ rest' = blocks.flatten ++ rest ++ [line] := by
  unfold ChunkMaker.write
  split
  · rename_i hm
    simp only [Bool.and_eq_true] at hm
    refine ⟨blocks ++ [rest], [line], ⟨?_, ?_, by simpa using hl⟩, by simp⟩
    · exact List.rel_append h.chunks (.cons ⟨h.hasPending_iff.1 hm.1, h.buffer⟩ .nil)
    · simp [ChunkMaker.added, ChunkMaker.emptied]
  · refine ⟨blocks, rest ++ [line], ⟨by simpa using h.chunks, ?_, ?_⟩, by simp⟩
    · simp [ChunkMaker.added, h.buffer]
    · intro k hk
      rcases List.mem_append.1 hk with hk | hk
      · exact h.full k hk
      · rw [List.mem_singleton.1 hk]
        exact hl

/-- A line without bytes may complete a chunk, but adds nothing. -/
theorem write_empty (h : Packed cs m blocks rest) {line : ByteArray} (hl : line.size = 0) :
    ∃ blocks' rest', Packed (cs ++ (m.write line).1.toList) (m.write line).2 blocks' rest'
      ∧ blocks'.flatten ++ rest' = blocks.flatten ++ rest := by
  rw [ByteArray.size_eq_zero_iff] at hl
  subst hl
  unfold ChunkMaker.write
  split
  · rename_i hm
    simp only [Bool.and_eq_true] at hm
    refine ⟨blocks ++ [rest], [], ⟨?_, ?_, by simp⟩, by simp⟩
    · exact List.rel_append h.chunks (.cons ⟨h.hasPending_iff.1 hm.1, h.buffer⟩ .nil)
    · simp [ChunkMaker.added, ChunkMaker.emptied]
  · refine ⟨blocks, rest, ⟨by simpa using h.chunks, ?_, h.full⟩, by simp⟩
    simp [ChunkMaker.added, h.buffer]

theorem turnover (h : Packed p.chunks p.maker blocks rest) (ht : p.Turnover b p' b') :
    ∃ blocks' rest', Packed p'.chunks p'.maker blocks' rest'
      ∧ blocks'.flatten ++ rest'
        = blocks.flatten ++ rest ++ p.line?.toList.filter (·.size ≠ 0) := by
  cases ht with
  | kept hc hm _ _ hl => exact ⟨blocks, rest, hc ▸ hm ▸ h, by simp [hl]⟩
  | filtered hc hm _ _ _ hl => exact ⟨blocks, rest, hc ▸ hm ▸ h, by simp [hl]⟩
  | unwritten hc hm _ _ _ _ hl => exact ⟨blocks, rest, hc ▸ hm ▸ h, by simp [hl]⟩
  | @written r r' line l _ hc hm _ _ _ _ _ hl =>
    by_cases hz : line.size = 0
    · obtain ⟨blocks', rest', h', he⟩ := h.write_empty hz
      rw [ByteArray.size_eq_zero_iff] at hz
      exact ⟨blocks', rest', hc ▸ hm ▸ h', by simp [he, hl, hz]⟩
    · obtain ⟨blocks', rest', h', he⟩ := h.write hz
      rw [ByteArray.size_eq_zero_iff] at hz
      exact ⟨blocks', rest', hc ▸ hm ▸ h', by simp [he, hl, hz]⟩
  | flushed hc hm _ _ _ hl =>
    obtain ⟨blocks', rest', h', he⟩ := h.flush
    exact ⟨blocks', rest', hc ▸ hm ▸ h', by simp [he, hl]⟩

theorem eq_nil (h : Packed cs m blocks rest) (hc : cs = []) (hm : m.hasPending = false) :
    blocks = [] ∧ rest = [] := by
  have h1 := h.chunks
  rw [hc] at h1
  refine ⟨by cases h1; rfl, ?_⟩
  by_contra hr
  simp [h.hasPending_iff.2 hr] at hm

end Packed

end LogPipeline
