import LogPipeline.Proofs.Packing

/-!
# Fragments in chunks

A maker is called to write fragments and to flush, in any order, and each call may complete a chunk.
The fragments are cut into blocks, one for each chunk and one for the chunk being built
(`Bundled`), and a block outgrows the limit only if nothing but one fragment is in it. A chunk that
a write completes has no room for what follows (`lt_of_write`). What is said of chunks is said of
their content, so it holds however they are stored, as long as it can be read back
(`packs_of_calls`).
-/

namespace LogPipeline

/-- What a maker is called for. -/
inductive MakerCall where
  | write (fragment : ByteArray)
  | flush

/-- The fragment that a call brings. -/
def MakerCall.fragment? : MakerCall → Option ByteArray
  | write fragment => some fragment
  | flush => none

/-- How content is compressed, which may fail, and how it is read back. -/
structure Codec where
  press : ByteArray → Option ByteArray
  unpress : ByteArray → ByteArray

namespace Codec

/-- What was compressed can be read back. -/
def Undoes (z : Codec) : Prop :=
  ∀ content data, z.press content = some data → z.unpress data = content

/-- A chunk as it is stored: what cannot be compressed stays as it is. -/
def store (z : Codec) (c : Chunk) : Chunk :=
  if c.compressed then
    match z.press c.data with
    | some data => { c with data }
    | none => { c with compressed := false }
  else c

/-- What a stored chunk says. -/
def content (z : Codec) (c : Chunk) : ByteArray := if c.compressed then z.unpress c.data else c.data

theorem content_store {z : Codec} (h : z.Undoes) (c : Chunk) : z.content (z.store c) = c.data := by
  unfold store
  split
  · rename_i hc
    split
    · rename_i data hdata
      simp [content, hc, h _ _ hdata]
    · simp [content]
  · rename_i hc
    simp [content, hc]

@[simp] theorem records_store (z : Codec) (c : Chunk) : (z.store c).records = c.records := by
  unfold store
  split
  · split <;> rfl
  · rfl

@[simp] theorem rawBytes_store (z : Codec) (c : Chunk) : (z.store c).rawBytes = c.rawBytes := by
  unfold store
  split
  · split <;> rfl
  · rfl

end Codec

/-- The fragments that have bytes. -/
def weighty (fragments : List ByteArray) : List ByteArray := fragments.filter (·.size ≠ 0)

@[simp] theorem weighty_nil : weighty [] = [] := rfl

@[simp] theorem weighty_append (k l : List ByteArray) :
    weighty (k ++ l) = weighty k ++ weighty l := List.filter_append ..

theorem weighty_cons_of_ne {f : ByteArray} (hf : f.size ≠ 0) (l : List ByteArray) :
    weighty (f :: l) = f :: weighty l := List.filter_cons_of_pos (by simpa using hf)

theorem weighty_cons_of_eq {f : ByteArray} (hf : f.size = 0) (l : List ByteArray) :
    weighty (f :: l) = weighty l := List.filter_cons_of_neg (by simpa using hf)

theorem length_weighty_singleton (f : ByteArray) : (weighty [f]).length ≤ 1 :=
  List.length_filter_le ..

theorem size_joined_eq_zero_iff {fragments : List ByteArray} :
    (joined fragments).size = 0 ↔ weighty fragments = [] := by
  induction fragments with
  | nil => exact ⟨fun _ => rfl, fun _ => rfl⟩
  | cons f l ih =>
    rw [joined_cons, ByteArray.size_append, Nat.add_eq_zero_iff, ih]
    by_cases hf : f.size = 0
    · rw [weighty_cons_of_eq hf]
      exact and_iff_right hf
    · rw [weighty_cons_of_ne hf]
      exact iff_of_false (fun h => hf h.1) (List.cons_ne_nil _ _)

theorem joined_flatten (blocks : List (List ByteArray)) :
    joined blocks.flatten = joined (blocks.map joined) := by
  induction blocks with
  | nil => rfl
  | cons block blocks ih => simp [ih]

/-- The chunk holds the fragments of a block. It is within the limit unless there is nothing in it
but one fragment. -/
structure Chunk.Holds (limit : Nat) (c : Chunk) (block : List ByteArray) : Prop where
  data : c.data = joined block
  size_ne : c.data.size ≠ 0
  rawBytes : c.rawBytes = c.data.size
  records : c.records = block.length
  within : c.data.size ≤ limit ∨ (weighty block).length = 1

/-- The fragments of the blocks are in the chunks, and the rest of them in the chunk being built. -/
structure Bundled (cs : List Chunk) (m : ChunkMaker) (blocks : List (List ByteArray))
    (rest : List ByteArray) : Prop where
  chunks : List.Forall₂ (Chunk.Holds m.maxBytes) cs blocks
  buffer : m.buffer = joined rest
  records : m.records = rest.length
  within : m.buffer.size ≤ m.maxBytes ∨ (weighty rest).length ≤ 1

namespace ChunkMaker

variable {m : ChunkMaker} {cs : List Chunk} {blocks : List (List ByteArray)}
  {rest : List ByteArray}

/-- One call: the chunk that it completes, if it does, and the maker after it. -/
def call (m : ChunkMaker) : MakerCall → Option Chunk × ChunkMaker
  | .write fragment => m.write fragment
  | .flush => m.flush

/-- The maker after some calls. -/
def after (m : ChunkMaker) (calls : List MakerCall) : ChunkMaker :=
  calls.foldl (fun m k => (m.call k).2) m

/-- Calls with the chunks that they complete. -/
def answers : ChunkMaker → List MakerCall → List (MakerCall × Option Chunk)
  | _, [] => []
  | m, k :: calls => (k, (m.call k).1) :: (m.call k).2.answers calls

/-- The chunks that some calls complete. -/
def output (m : ChunkMaker) (calls : List MakerCall) : List Chunk :=
  (m.answers calls).filterMap Prod.snd

@[simp] theorem output_nil (m : ChunkMaker) : m.output [] = [] := rfl

theorem output_cons (m : ChunkMaker) (k : MakerCall) (calls : List MakerCall) :
    m.output (k :: calls) = (m.call k).1.toList ++ (m.call k).2.output calls := by
  unfold output
  rcases hk : (m.call k).1 with _ | c <;> simp [answers, hk]

theorem maxBytes_call (m : ChunkMaker) (k : MakerCall) : (m.call k).2.maxBytes = m.maxBytes := by
  cases k with
  | write f =>
    simp only [call, write]
    split <;> rfl
  | flush =>
    simp only [call, flush]
    split <;> rfl

theorem hasPending_iff_size : m.hasPending = true ↔ m.buffer.size ≠ 0 := by
  simp only [hasPending, decide_eq_true_eq]
  omega

end ChunkMaker

namespace Bundled

variable {m : ChunkMaker} {cs : List Chunk} {blocks : List (List ByteArray)}
  {rest : List ByteArray}

/-- The chunk being built can be completed as it is. -/
theorem holds (h : Bundled cs m blocks rest) (hm : m.hasPending = true) :
    m.chunk.Holds m.maxBytes rest := by
  have hne := ChunkMaker.hasPending_iff_size.1 hm
  refine ⟨h.buffer, hne, rfl, h.records, h.within.imp_right fun hle => ?_⟩
  have hpos : weighty rest ≠ [] := fun h0 =>
    hne (by rw [h.buffer]; exact size_joined_eq_zero_iff.2 h0)
  have := List.length_pos_iff.2 hpos
  omega

theorem flush (h : Bundled cs m blocks rest) :
    ∃ blocks' rest', Bundled (cs ++ m.flush.1.toList) m.flush.2 blocks' rest'
      ∧ blocks'.flatten ++ rest' = blocks.flatten ++ rest := by
  unfold ChunkMaker.flush
  split
  · rename_i hm
    refine ⟨blocks ++ [rest], [], ⟨?_, rfl, rfl, .inr (by simp [weighty])⟩, by simp⟩
    exact List.rel_append h.chunks (.cons (h.holds hm) .nil)
  · exact ⟨blocks, rest, by simpa using h, rfl⟩

theorem write (h : Bundled cs m blocks rest) (f : ByteArray) :
    ∃ blocks' rest', Bundled (cs ++ (m.write f).1.toList) (m.write f).2 blocks' rest'
      ∧ blocks'.flatten ++ rest' = blocks.flatten ++ rest ++ [f] := by
  unfold ChunkMaker.write
  split
  · rename_i hm
    simp only [Bool.and_eq_true] at hm
    refine ⟨blocks ++ [rest], [f], ⟨?_, ?_, rfl, .inr (length_weighty_singleton f)⟩, by simp⟩
    · exact List.rel_append h.chunks (.cons (h.holds hm.1) .nil)
    · simp [ChunkMaker.added, ChunkMaker.emptied]
  · rename_i hm
    refine ⟨blocks, rest ++ [f], ⟨by rw [Option.toList_none, List.append_nil]; exact h.chunks,
      ?_, ?_, ?_⟩, by simp⟩
    · simp [ChunkMaker.added, h.buffer]
    · simp [ChunkMaker.added, h.records]
    · by_cases hp : m.hasPending = true
      · -- the fragment was found to fit
        refine .inl ?_
        simp only [hp, Bool.true_and, decide_eq_true_eq] at hm
        simp only [ChunkMaker.added, ByteArray.size_append]
        omega
      · -- nothing but the fragment has bytes
        refine .inr ?_
        have h0 : weighty rest = [] := by
          rw [← size_joined_eq_zero_iff, ← h.buffer]
          by_contra hne
          exact hp (ChunkMaker.hasPending_iff_size.2 hne)
        rw [weighty_append, h0, List.nil_append]
        exact length_weighty_singleton f

theorem call (h : Bundled cs m blocks rest) (k : MakerCall) :
    ∃ blocks' rest', Bundled (cs ++ (m.call k).1.toList) (m.call k).2 blocks' rest'
      ∧ blocks'.flatten ++ rest' = blocks.flatten ++ rest ++ k.fragment?.toList := by
  cases k with
  | write f => exact h.write f
  | flush =>
    obtain ⟨blocks', rest', h', he⟩ := h.flush
    exact ⟨blocks', rest', h', by simp [he, MakerCall.fragment?]⟩

theorem calls (h : Bundled cs m blocks rest) (ks : List MakerCall) :
    ∃ blocks' rest', Bundled (cs ++ m.output ks) (m.after ks) blocks' rest'
      ∧ blocks'.flatten ++ rest'
        = blocks.flatten ++ rest ++ ks.filterMap MakerCall.fragment? := by
  induction ks generalizing m cs blocks rest with
  | nil => exact ⟨blocks, rest, by rw [ChunkMaker.output_nil, List.append_nil]; exact h, by simp⟩
  | cons k ks ih =>
    obtain ⟨blocks₁, rest₁, h₁, he₁⟩ := h.call k
    obtain ⟨blocks₂, rest₂, h₂, he₂⟩ := ih h₁
    refine ⟨blocks₂, rest₂, ?_, ?_⟩
    · rw [ChunkMaker.output_cons, ← List.append_assoc]
      exact h₂
    · rw [he₂, he₁, List.append_assoc]
      cases k with
      | write f => rfl
      | flush => rfl

theorem records_eq (h : Bundled cs m blocks rest) :
    total Chunk.records cs + m.records = (blocks.flatten ++ rest).length := by
  have hcs : total Chunk.records cs = blocks.flatten.length := by
    have hchunks := h.chunks
    clear h
    induction hchunks with
    | nil => rfl
    | cons hc _ ih => simp [hc.records, ih]
  rw [hcs, h.records, List.length_append]

end Bundled

namespace ChunkMaker

variable {m : ChunkMaker}

/-- A chunk is completed by a write only if the fragment does not fit into it. -/
theorem lt_of_write {f : ByteArray} {c : Chunk} (h : (m.write f).1 = some c) :
    m.maxBytes < c.data.size + f.size := by
  unfold write at h
  split at h
  · rename_i hm
    simp only [Bool.and_eq_true, decide_eq_true_eq] at hm
    obtain rfl := Option.some.inj h
    exact hm.2
  · simp at h

/-- So it has no room for the first fragment with bytes from there on, or is too long itself. -/
theorem full_of_answers {calls : List MakerCall} {pre post : List (MakerCall × Option Chunk)}
    {f : ByteArray} {c : Chunk} (h : m.answers calls = pre ++ (.write f, some c) :: post) :
    m.maxBytes < c.data.size
      ∨ ∃ g, (weighty (f :: post.filterMap (·.1.fragment?))).head? = some g
        ∧ m.maxBytes < c.data.size + g.size := by
  induction calls generalizing m pre with
  | nil => simp [answers] at h
  | cons k calls ih =>
    rcases pre with _ | ⟨e, pre⟩
    · simp only [answers, List.nil_append, List.cons.injEq, Prod.mk.injEq] at h
      obtain ⟨⟨rfl, hc⟩, -⟩ := h
      have hlt := lt_of_write hc
      by_cases hf : f.size = 0
      · exact .inl (by omega)
      · exact .inr ⟨f, by rw [weighty_cons_of_ne hf, List.head?_cons], hlt⟩
    · simp only [answers, List.cons_append, List.cons.injEq] at h
      rw [← m.maxBytes_call k]
      exact ih h.2

theorem maxBytes_after (m : ChunkMaker) (calls : List MakerCall) :
    (m.after calls).maxBytes = m.maxBytes := by
  induction calls generalizing m with
  | nil => rfl
  | cons k calls ih => exact (ih (m.call k).2).trans (m.maxBytes_call k)

/-- A maker before its first call. -/
def fresh (maxBytes : Nat) (compress : Bool) : ChunkMaker := { maxBytes, compress }

theorem bundled_fresh (maxBytes : Nat) (compress : Bool) :
    Bundled [] (fresh maxBytes compress) [] [] :=
  ⟨.nil, rfl, rfl, .inr (Nat.zero_le _)⟩

/-- What the chunks that calls of a new maker complete, as they are stored, and the chunk that is
being built after them say of the calls. -/
structure Packs (z : Codec) (maxBytes : Nat) (compress : Bool) (calls : List MakerCall) : Prop where
  /-- All fragments are there, one after the other. -/
  content : joined ((((fresh maxBytes compress).output calls).map z.store).map z.content)
      ++ ((fresh maxBytes compress).after calls).buffer
    = joined (calls.filterMap MakerCall.fragment?)
  /-- Every chunk holds a block of fragments. None is empty, and none is longer than the limit
  unless just one fragment in it has bytes. -/
  blocks : ∃ blocks rest, blocks.flatten ++ rest = calls.filterMap MakerCall.fragment?
    ∧ ((fresh maxBytes compress).after calls).buffer = joined rest
    ∧ List.Forall₂ (fun c block => z.content c = joined block ∧ (z.content c).size ≠ 0
        ∧ c.rawBytes = (z.content c).size ∧ c.records = block.length
        ∧ ((z.content c).size ≤ maxBytes ∨ (weighty block).length = 1))
      (((fresh maxBytes compress).output calls).map z.store) blocks
  /-- Every write is counted, in a chunk or in the one being built. -/
  records : total Chunk.records (((fresh maxBytes compress).output calls).map z.store)
      + ((fresh maxBytes compress).after calls).records
    = (calls.filterMap MakerCall.fragment?).length
  /-- A chunk that a write completed cannot be merged with the first fragment with bytes from there
  on, or is too long itself. -/
  full : ∀ pre f c post,
    (fresh maxBytes compress).answers calls = pre ++ (.write f, some c) :: post →
    maxBytes < (z.content (z.store c)).size
      ∨ ∃ g, (weighty (f :: post.filterMap (·.1.fragment?))).head? = some g
        ∧ maxBytes < (z.content (z.store c)).size + g.size
  /-- A chunk is being built just if the next flush returns one. -/
  pending : ((fresh maxBytes compress).after calls).hasPending = true
    ↔ ((fresh maxBytes compress).after calls).flush.1.isSome = true

/-- Fragments are packed in order, each in one chunk, and as many together as fit. -/
theorem packs_of_calls {z : Codec} (hz : z.Undoes) (maxBytes : Nat) (compress : Bool)
    (calls : List MakerCall) : Packs z maxBytes compress calls := by
  obtain ⟨blocks, rest, h, he⟩ := (bundled_fresh maxBytes compress).calls calls
  simp only [List.nil_append, List.flatten_nil] at h he
  have hchunks := h.chunks
  rw [maxBytes_after] at hchunks
  have hcontent : (((fresh maxBytes compress).output calls).map z.store).map z.content
      = blocks.map joined := by
    rw [List.map_map, ← List.forall₂_eq_eq_eq]
    refine List.forall₂_map_left_iff.2 (List.forall₂_map_right_iff.2 ?_)
    exact hchunks.imp fun c block hc => (Codec.content_store hz c).trans hc.data
  refine ⟨?_, ⟨blocks, rest, he, h.buffer, ?_⟩, ?_, fun pre f c post hpost => ?_, ?_⟩
  · rw [hcontent, ← joined_flatten, h.buffer, ← joined_append, he]
  · refine List.forall₂_map_left_iff.2 (hchunks.imp fun c block hc => ?_)
    rw [Codec.content_store hz, Codec.rawBytes_store, Codec.records_store]
    exact ⟨hc.data, hc.size_ne, hc.rawBytes, hc.records, hc.within⟩
  · rw [total_map]
    simp only [Codec.records_store]
    rw [h.records_eq, he]
  · rw [Codec.content_store hz]
    exact full_of_answers hpost
  · rw [isSome_flush]

/-- Content that is too short to be compressed is stored in one block, behind the mark of the format
and the length. -/
def framed : Codec where
  press content := some
    (.mk #[0x28, 0xB5, 0x2F, 0xFD, 0x00, 0x58, .ofNat (8 * content.size + 1),
      .ofNat (content.size / 32), .ofNat (content.size / 8192)] ++ content)
  unpress data := data.extract 9 data.size

theorem undoes_framed : framed.Undoes := by
  rintro content data hdata
  obtain rfl := Option.some.inj hdata
  exact ByteArray.extract_append_eq_right rfl (by simp [ByteArray.size_append])

/-- Fragments without bytes, one above the limit, and a flush with nothing to complete. -/
theorem packs_of_uneven_calls :
    let calls : List MakerCall :=
      [.write (.mk #[1, 2]), .write (.mk #[3]), .write .empty, .write (.mk #[4, 5, 6, 7, 8]),
        .write .empty, .write (.mk #[9]), .flush, .flush]
    framed.Undoes
      ∧ (((fresh 4 true).output calls).map framed.store).map (fun c => (c.data.size, c.records))
        = [(12, 3), (14, 1), (10, 2)]
      ∧ Packs framed 4 true calls :=
  ⟨undoes_framed, by decide, packs_of_calls undoes_framed 4 true _⟩

end ChunkMaker

end LogPipeline
