import LogPipeline.Line
import LogPipeline.Proofs.Packing

/-!
# Lines of output

Data is cut behind each line break (`linesOf`). A record is written as one such line
(`Record.isLine_lineBytes`), since no break is left between quotation marks, and data that ends in a
break can be followed by more lines without changing the ones before (`linesOf_append`).
-/

namespace LogPipeline

/-! ## Cutting data -/

/-- Bytes cut behind each line break. -/
def cutLines : List UInt8 → List (List UInt8)
  | [] => []
  | b :: l =>
    if b = 10 then [b] :: cutLines l
    else
      match cutLines l with
      | [] => [[b]]
      | x :: xs => (b :: x) :: xs

/-- The lines of some data. -/
def linesOf (data : ByteArray) : List ByteArray :=
  (cutLines data.data.toList).map fun l => ⟨l.toArray⟩

/-- The lines of a chunk. -/
def Chunk.lines (c : Chunk) : List ByteArray := linesOf c.data

/-- There is one line break, at the end. -/
def IsLine (line : ByteArray) : Prop := ∃ m, line.data.toList = m ++ [10] ∧ 10 ∉ m

/-- Empty, or with a line break at the end. -/
def IsWhole (data : ByteArray) : Prop := data = .empty ∨ ∃ m, data.data.toList = m ++ [10]

theorem cutLines_append (m l : List UInt8) :
    cutLines (m ++ 10 :: l) = cutLines (m ++ [10]) ++ cutLines l := by
  induction m with
  | nil => simp [cutLines]
  | cons b m ih =>
    simp only [List.cons_append, cutLines]
    by_cases hb : b = 10
    · simp [hb, ih]
    · rw [if_neg hb, if_neg hb, ih]
      rcases hm : cutLines (m ++ [10]) with _ | ⟨x, xs⟩
      · rcases m with _ | ⟨c, m⟩
        · simp [cutLines] at hm
        · simp only [List.cons_append, cutLines] at hm
          split at hm
          · simp at hm
          · split at hm <;> simp at hm
      · rfl

theorem cutLines_line {m : List UInt8} (hm : 10 ∉ m) : cutLines (m ++ [10]) = [m ++ [10]] := by
  induction m with
  | nil => rfl
  | cons b m ih =>
    obtain ⟨hb, hm⟩ := not_or.1 (mt List.mem_cons.2 hm)
    have hb : b ≠ 10 := fun h => hb h.symm
    simp [cutLines, ih hm, hb]

theorem flatten_cutLines (l : List UInt8) : (cutLines l).flatten = l := by
  induction l with
  | nil => rfl
  | cons b l ih =>
    simp only [cutLines]
    split
    · simp [ih]
    · split
      · rename_i hl
        rw [hl] at ih
        simp [← ih]
      · rename_i x xs hl
        rw [hl] at ih
        simpa using ih

@[simp] theorem linesOf_empty : linesOf .empty = [] := rfl

theorem linesOf_append {a : ByteArray} (ha : IsWhole a) (b : ByteArray) :
    linesOf (a ++ b) = linesOf a ++ linesOf b := by
  rcases ha with rfl | ⟨m, hm⟩
  · simp
  · simp only [linesOf, ByteArray.toList_data_append, hm, List.append_assoc, List.singleton_append]
    rw [cutLines_append, List.map_append]

theorem linesOf_line {line : ByteArray} (h : IsLine line) : linesOf line = [line] := by
  obtain ⟨m, hl, hm⟩ := h
  simp only [linesOf, hl, cutLines_line hm, List.map_cons, List.map_nil]
  rw [← hl]

/-- Nothing gets lost between the lines. -/
theorem joined_linesOf (data : ByteArray) : joined (linesOf data) = data := by
  have hjoin : ∀ ls : List (List UInt8),
      (joined (ls.map fun l => ⟨l.toArray⟩)).data.toList = ls.flatten := by
    intro ls
    induction ls with
    | nil => rfl
    | cons l ls ih => simp [ih]
  refine ByteArray.ext (Array.toList_inj.1 ?_)
  rw [linesOf, hjoin, flatten_cutLines]

theorem IsWhole.append {a line : ByteArray} (hl : IsLine line) : IsWhole (a ++ line) := by
  obtain ⟨m, hl, -⟩ := hl
  exact .inr ⟨a.data.toList ++ m, by rw [ByteArray.toList_data_append, hl, List.append_assoc]⟩

/-! ## Makers -/

namespace ChunkMaker

variable {m : ChunkMaker}

/-- The lines in the chunk being built. -/
def lines (m : ChunkMaker) : List ByteArray := linesOf m.buffer

theorem lines_flush (m : ChunkMaker) :
    m.flush.1.toList.flatMap Chunk.lines ++ m.flush.2.lines = m.lines := by
  unfold flush
  split
  · simp [lines, emptied, chunk, Chunk.lines]
  · rfl

theorem isWhole_flush (h : IsWhole m.buffer) : IsWhole m.flush.2.buffer := by
  unfold flush
  split
  · exact .inl rfl
  · exact h

theorem lines_write (h : IsWhole m.buffer) {line : ByteArray} (hl : IsLine line) :
    (m.write line).1.toList.flatMap Chunk.lines ++ (m.write line).2.lines = m.lines ++ [line] := by
  unfold write
  split
  · simp [lines, added, emptied, chunk, Chunk.lines, linesOf_line hl]
  · simp [lines, added, linesOf_append h, linesOf_line hl]

theorem isWhole_write {line : ByteArray} (hl : IsLine line) : IsWhole (m.write line).2.buffer := by
  unfold write
  split <;> exact .append hl

end ChunkMaker

/-! ## Records -/

/-- No line break is in the text. -/
def Unbroken (s : String) : Prop := '\n' ∉ s.toList

instance (s : String) : Decidable (Unbroken s) := inferInstanceAs (Decidable ('\n' ∉ s.toList))

theorem Unbroken.append {s t : String} (hs : Unbroken s) (ht : Unbroken t) : Unbroken (s ++ t) := by
  simp only [Unbroken, String.toList_append, List.mem_append, not_or]
  exact ⟨hs, ht⟩

theorem Unbroken.intercalate {sep : String} (hsep : Unbroken sep) {l : List String}
    (hl : ∀ s ∈ l, Unbroken s) : Unbroken (String.intercalate sep l) := by
  induction l with
  | nil => simp [Unbroken]
  | cons s l ih =>
    have hs := hl s List.mem_cons_self
    have ih := ih fun t ht => hl t (List.mem_cons_of_mem _ ht)
    rcases l with _ | ⟨t, l⟩
    · simpa using hs
    · rw [String.intercalate_cons_cons]
      exact (hs.append hsep).append ih

namespace Json

theorem hexDigit_ne {n : Nat} (hn : n < 16) : hexDigit n ≠ '\n' := by
  have : ∀ n < 16, hexDigit n ≠ '\n' := by decide
  exact this n hn

theorem escape_unbroken (c : Char) : '\n' ∉ escape c := by
  unfold escape
  split
  · decide
  split
  · decide
  split
  · decide
  split
  · decide
  split
  · decide
  split
  · decide
  split
  · decide
  rename_i hc _ _
  split
  · rename_i hn
    have h1 := hexDigit_ne (n := c.toNat / 16) (by omega)
    have h2 := hexDigit_ne (n := c.toNat % 16) (by omega)
    simp [h1.symm, h2.symm]
  · simpa using fun h : '\n' = c => hc h.symm

theorem unbroken_quote (s : String) : Unbroken (quote s) := by
  simp only [Unbroken, quote, String.toList_ofList, quoteChars, List.mem_cons, List.mem_append,
    List.mem_flatMap]
  rintro (h | ⟨c, -, hc⟩ | h | h)
  · simp at h
  · exact escape_unbroken c hc
  · simp at h
  · simp at h

theorem unbroken_nat (n : Nat) : Unbroken (toString n) := by
  intro h
  rw [Nat.toString_eq_repr, Nat.toList_repr] at h
  have := Nat.isDigit_of_mem_toDigits (by decide) (by decide) h
  simp at this

theorem unbroken_int (n : Int) : Unbroken (toString n) := by
  cases n with
  | ofNat n => exact unbroken_nat n
  | negSucc n => exact Unbroken.append (s := "-") (by decide) (unbroken_nat _)

theorem unbroken_writeEntries {l : List (String × Json)} (hl : ∀ e ∈ l, Unbroken e.2.write) :
    ∀ s ∈ writeEntries l, Unbroken s := by
  induction l with
  | nil => simp [writeEntries]
  | cons e l ih =>
    obtain ⟨key, v⟩ := e
    have ih := ih fun e he => hl e (List.mem_cons_of_mem _ he)
    have hv := hl (key, v) List.mem_cons_self
    rw [writeEntries]
    intro s hs
    rcases List.mem_cons.1 hs with rfl | hs
    · exact ((unbroken_quote key).append (by decide)).append hv
    · exact ih s hs

theorem unbroken_obj {l : List (String × Json)} (hl : ∀ e ∈ l, Unbroken e.2.write) :
    Unbroken (obj l).write := by
  rw [write]
  have hcomma : Unbroken "," := by decide
  have := Unbroken.intercalate hcomma (unbroken_writeEntries hl)
  exact (Unbroken.append (by decide) this).append (by decide)

end Json

/-- Only a line break is written with the byte of one. -/
theorem utf8EncodeChar_unbroken {c : Char} (hc : c ≠ '\n') : 10 ∉ String.utf8EncodeChar c := by
  have hv : c.val.toNat ≠ 10 := fun h => hc (Char.ext (UInt32.toNat_inj.1 h))
  have hbyte : ∀ n, n % 256 ≠ 10 → (10 : UInt8) ≠ UInt8.ofNat n := by
    intro n hn h
    have := congrArg UInt8.toNat h
    simp at this
    omega
  unfold String.utf8EncodeChar
  dsimp only
  split
  · exact fun h => hbyte c.val.toNat (by omega) (List.mem_singleton.1 h)
  · split
    · simp only [List.mem_cons, List.not_mem_nil, or_false, not_or]
      exact ⟨hbyte _ (by omega), hbyte _ (by omega)⟩
    · split
      · simp only [List.mem_cons, List.not_mem_nil, or_false, not_or]
        exact ⟨hbyte _ (by omega), hbyte _ (by omega), hbyte _ (by omega)⟩
      · simp only [List.mem_cons, List.not_mem_nil, or_false, not_or]
        exact ⟨hbyte _ (by omega), hbyte _ (by omega), hbyte _ (by omega), hbyte _ (by omega)⟩

theorem Record.unbroken_json (schema : Schema) (r : Record) : Unbroken (r.json schema).write := by
  refine Json.unbroken_obj fun e he => ?_
  rcases List.mem_cons.1 he with rfl | he
  · rw [Json.write]
    exact Json.unbroken_int _
  · obtain ⟨⟨name, field⟩, -, rfl⟩ := List.mem_map.1 he
    rw [Json.write]
    exact Json.unbroken_quote _

/-- A record is written as one line. -/
theorem Record.isLine_lineBytes (schema : Schema) (r : Record) : IsLine (r.lineBytes schema) := by
  have hbytes : ∀ s : String, s.toUTF8.data.toList = s.toList.flatMap String.utf8EncodeChar := by
    intro s
    rw [String.toUTF8_eq_toByteArray, ← String.utf8Encode_toList]
    simp [List.utf8Encode]
  refine ⟨((r.json schema).write).toList.flatMap String.utf8EncodeChar, ?_, fun h => ?_⟩
  · rw [lineBytes, line, hbytes, String.toList_append, List.flatMap_append]
    rfl
  · obtain ⟨c, hc, hb⟩ := List.mem_flatMap.1 h
    refine utf8EncodeChar_unbroken ?_ hb
    rintro rfl
    exact r.unbroken_json schema hc

end LogPipeline
