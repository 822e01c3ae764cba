import LogPipeline.Proofs.Frames

/-!
# How a text is split

A text is split into the frames at its front, as far as frames go. A frame is a numeral, a colon and
as many bytes as the numeral says (`Frame.Sound`); where a part is read there is exactly such a
frame (`readPart_eq_some`), and where none is read no frame stands (`readPart_eq_none`). The first
colon of a text and the number of bytes leave no choice in what a frame is (`Frame.Sound.cancel`),
so there is one way to cut a text into frames and a rest without one (`Decomposes.unique`).
-/

namespace LogPipeline

namespace Text

/-- The numerals of a number of 64 bits: decimal digits, zeros in front or not, and perhaps a plus
sign before them. -/
def Numeral (cs : List Char) (n : Nat) : Prop :=
  ∃ digits, (cs = digits ∨ cs = '+' :: digits) ∧ digits ≠ [] ∧ (∀ c ∈ digits, c.isDigit = true)
    ∧ Nat.ofDigitChars 10 digits 0 = n ∧ n ≤ maxWord

theorem digitsFrom_eq_some {cs : List Char} {n m : Nat} :
    digitsFrom n cs = some m ↔
      (∀ c ∈ cs, c.isDigit = true) ∧ Nat.ofDigitChars 10 cs n = m := by
  constructor
  · intro h
    have hdigits : ∀ c ∈ cs, c.isDigit = true := by
      induction cs generalizing n with
      | nil => exact List.forall_mem_nil _
      | cons c cs ih =>
        rw [digitsFrom] at h
        split at h
        · exact List.forall_mem_cons.2 ⟨‹_›, ih h⟩
        · cases h
    rw [digitsFrom_eq_ofDigitChars hdigits] at h
    exact ⟨hdigits, Option.some.inj h⟩
  · rintro ⟨hdigits, rfl⟩
    exact digitsFrom_eq_ofDigitChars hdigits n

/-- Digits, at least one, of a number of 64 bits. -/
theorem filter_digitsFrom_eq_some {digits : List Char} {n : Nat} :
    (if digits.isEmpty then none else (digitsFrom 0 digits).filter (· ≤ maxWord)) = some n ↔
      digits ≠ [] ∧ (∀ c ∈ digits, c.isDigit = true) ∧ Nat.ofDigitChars 10 digits 0 = n
        ∧ n ≤ maxWord := by
  cases digits with
  | nil => simp
  | cons c cs =>
    rw [if_neg (by simp), Option.filter_eq_some_iff, digitsFrom_eq_some]
    simp [and_assoc]

theorem readNumeral_eq_some {cs : List Char} {n : Nat} :
    readNumeral cs = some n ↔ Numeral cs n := by
  unfold readNumeral
  split
  · rename_i rest
    rw [filter_digitsFrom_eq_some]
    constructor
    · exact fun h => ⟨rest, .inr rfl, h⟩
    · rintro ⟨digits, rfl | hcs, h⟩
      · -- a sign is no digit
        have := h.2.1 '+' List.mem_cons_self
        simp at this
      · rwa [(List.cons.inj hcs).2]
  · rename_i hsign
    rw [filter_digitsFrom_eq_some]
    constructor
    · exact fun h => ⟨cs, .inl rfl, h⟩
    · rintro ⟨digits, rfl | rfl, h⟩
      · exact h
      · exact absurd rfl (hsign digits)

instance (cs : List Char) (n : Nat) : Decidable (Numeral cs n) :=
  decidable_of_iff _ readNumeral_eq_some

theorem readNumeral_eq_none {cs : List Char} :
    readNumeral cs = none ↔ ∀ n, ¬ Numeral cs n := by
  simp [Option.eq_none_iff_forall_ne_some, readNumeral_eq_some]

/-- A text is a numeral of one number at most. -/
theorem Numeral.unique {cs : List Char} {n m : Nat} (hn : Numeral cs n) (hm : Numeral cs m) :
    n = m :=
  Option.some.inj ((readNumeral_eq_some.2 hn).symm.trans (readNumeral_eq_some.2 hm))

end Text

namespace KeySet

/-! ## Readers -/

theorem splitAtColon_eq_none {cs : List Char} : splitAtColon cs = none ↔ ':' ∉ cs := by
  fun_induction splitAtColon cs with
  | case1 => simp
  | case2 rest => simp
  | case3 c rest hc ih =>
    have hc : ':' ≠ c := fun h => hc h.symm
    rw [Option.map_eq_none_iff, ih, List.mem_cons, not_or]
    exact ⟨fun h => ⟨hc, h⟩, And.right⟩

theorem splitAtColon_eq_some {cs a b : List Char} :
    splitAtColon cs = some (a, b) ↔ ':' ∉ a ∧ cs = a ++ ':' :: b := by
  constructor
  · intro h
    fun_induction splitAtColon cs generalizing a b with
    | case1 => cases h
    | case2 rest =>
      cases h
      exact ⟨List.not_mem_nil, rfl⟩
    | case3 c rest hc ih =>
      obtain ⟨⟨x, y⟩, hxy, hcons⟩ := Option.map_eq_some_iff.1 h
      cases hcons
      obtain ⟨hx, rfl⟩ := ih hxy
      exact ⟨fun hmem => (List.mem_cons.1 hmem).elim (fun h => hc h.symm) hx, rfl⟩
  · rintro ⟨ha, rfl⟩
    exact splitAtColon_append ha b

theorem takeBytes_eq_some {n : Nat} {cs a b : List Char} :
    takeBytes n cs = some (a, b) ↔ total Char.utf8Size a = n ∧ cs = a ++ b := by
  constructor
  · intro h
    fun_induction takeBytes n cs generalizing a b with
    | case1 cs =>
      cases h
      exact ⟨rfl, rfl⟩
    | case2 => cases h
    | case3 n c cs hc ih =>
      obtain ⟨⟨x, y⟩, hxy, hcons⟩ := Option.map_eq_some_iff.1 h
      cases hcons
      obtain ⟨hx, rfl⟩ := ih hxy
      exact ⟨by rw [total_cons]; omega, rfl⟩
    | case4 => cases h
  · rintro ⟨rfl, rfl⟩
    exact takeBytes_append a b

/-- The first `n` bytes end inside a character. -/
def CutsChar (n : Nat) (cs : List Char) : Prop :=
  ∃ a c b, cs = a ++ c :: b ∧ total Char.utf8Size a < n ∧ n < total Char.utf8Size a + c.utf8Size

theorem takeBytes_eq_none {n : Nat} {cs : List Char} :
    takeBytes n cs = none ↔ total Char.utf8Size cs < n ∨ CutsChar n cs := by
  constructor
  · intro h
    fun_induction takeBytes n cs with
    | case1 => cases h
    | case2 n => exact .inl n.succ_pos
    | case3 n c cs hc ih =>
      rcases ih (Option.map_eq_none_iff.1 h) with hfew | ⟨a, d, b, rfl, hlow, hhigh⟩
      · exact .inl (by rw [total_cons]; omega)
      · exact .inr ⟨c :: a, d, b, rfl, by rw [total_cons]; omega, by rw [total_cons]; omega⟩
    | case4 n c cs hc => exact .inr ⟨[], c, cs, rfl, n.succ_pos, by simp; omega⟩
  · intro h
    rw [Option.eq_none_iff_forall_ne_some]
    rintro ⟨x, y⟩ hxy
    obtain ⟨rfl, hcs⟩ := takeBytes_eq_some.1 hxy
    rcases h with hfew | ⟨a, c, b, rfl, hlow, hhigh⟩
    · rw [hcs, total_append] at hfew
      omega
    · rcases List.append_eq_append_iff.1 hcs with ⟨a', rfl, hc⟩ | ⟨a', rfl, -⟩
      · cases a' with
        | nil => simp at hlow
        | cons d a' =>
          obtain ⟨rfl, -⟩ := List.cons.inj hc
          simp only [total_append, total_cons] at hhigh
          omega
      · rw [total_append] at hlow
        omega

/-! ## Frames -/

/-- A length and a part, as they stand in a key. -/
structure Frame where
  length : String
  part : String
deriving DecidableEq, Repr

namespace Frame

def text (f : Frame) : String := f.length ++ ":" ++ f.part

/-- The length is a numeral of the bytes of the part, and the first colon ends it. -/
structure Sound (f : Frame) : Prop where
  closed : ':' ∉ f.length.toList
  numeral : Text.Numeral f.length.toList f.part.utf8ByteSize

instance (f : Frame) : Decidable f.Sound :=
  decidable_of_iff (':' ∉ f.length.toList ∧ Text.Numeral f.length.toList f.part.utf8ByteSize)
    ⟨fun h => ⟨h.1, h.2⟩, fun h => ⟨h.closed, h.numeral⟩⟩

theorem toList_text (f : Frame) : f.text.toList = f.length.toList ++ ':' :: f.part.toList := by
  simp [text]

variable {f g : Frame}

/-- What stands in front of two texts that are one is one frame. -/
theorem Sound.cancel (hf : f.Sound) (hg : g.Sound) {s t : String} (h : f.text ++ s = g.text ++ t) :
    f = g ∧ s = t := by
  have hchars : f.length.toList ++ ':' :: (f.part.toList ++ s.toList)
      = g.length.toList ++ ':' :: (g.part.toList ++ t.toList) := by
    simpa [toList_text] using congrArg String.toList h
  have hcolon := splitAtColon_append hf.closed (f.part.toList ++ s.toList)
  rw [hchars, splitAtColon_append hg.closed, Option.some.injEq, Prod.mk.injEq] at hcolon
  obtain ⟨hlength, htail⟩ := hcolon
  have hbytes := hf.numeral
  rw [← hlength] at hbytes
  have htake := takeBytes_append f.part.toList s.toList
  rw [← htail, total_utf8Size, ← hg.numeral.unique hbytes, ← total_utf8Size, takeBytes_append,
    Option.some.injEq, Prod.mk.injEq] at htake
  obtain ⟨hpart, hrest⟩ := htake
  refine ⟨?_, String.toList_inj.1 hrest.symm⟩
  cases f
  cases g
  exact congrArg₂ Frame.mk (String.toList_inj.1 hlength.symm) (String.toList_inj.1 hpart.symm)

end Frame

/-- A part is read where its frame stands. -/
theorem readPart_eq_some {s : String} {p rest : List Char} :
    readPart s.toList = some (p, rest) ↔
      ∃ f : Frame, f.Sound ∧ s = f.text ++ String.ofList rest ∧ f.part.toList = p := by
  constructor
  · intro h
    simp only [readPart, Option.bind_eq_bind, Option.bind_eq_some_iff] at h
    obtain ⟨⟨length, tail⟩, hcolon, n, hlength, htake⟩ := h
    obtain ⟨hclosed, hs⟩ := splitAtColon_eq_some.1 hcolon
    obtain ⟨rfl, rfl⟩ := takeBytes_eq_some.1 htake
    refine ⟨⟨String.ofList length, String.ofList p⟩, ⟨?_, ?_⟩, ?_, ?_⟩
    · simpa using hclosed
    · rw [← total_utf8Size]
      simpa using Text.readNumeral_eq_some.1 hlength
    · rw [← String.toList_inj]
      simpa [Frame.toList_text] using hs
    · simp
  · rintro ⟨f, hf, rfl, rfl⟩
    have hlength := Text.readNumeral_eq_some.2 hf.numeral
    have htake := takeBytes_append f.part.toList rest
    rw [total_utf8Size] at htake
    simp [readPart, Frame.toList_text, splitAtColon_append hf.closed, hlength, htake]

/-- No frame stands in front: there is no colon, or what stands before the first colon is no
numeral, or it is one of more bytes than are left, or of bytes that end inside a character. -/
def Unframed (s : String) : Prop :=
  ':' ∉ s.toList ∨
    ∃ length tail : String, s = length ++ ":" ++ tail ∧ ':' ∉ length.toList ∧
      ((∀ n, ¬ Text.Numeral length.toList n) ∨
        ∃ n, Text.Numeral length.toList n ∧
          (tail.utf8ByteSize < n ∨ CutsChar n tail.toList))

theorem readPart_eq_none {s : String} : readPart s.toList = none ↔ Unframed s := by
  constructor
  · intro h
    cases hcolon : splitAtColon s.toList with
    | none => exact .inl (splitAtColon_eq_none.1 hcolon)
    | some p =>
      obtain ⟨length, tail⟩ := p
      obtain ⟨hclosed, hs⟩ := splitAtColon_eq_some.1 hcolon
      refine .inr ⟨String.ofList length, String.ofList tail, ?_, by simpa using hclosed, ?_⟩
      · rw [← String.toList_inj]
        simpa using hs
      rw [← total_utf8Size, String.toList_ofList, String.toList_ofList]
      cases hnumeral : Text.readNumeral length with
      | none => exact .inl (Text.readNumeral_eq_none.1 hnumeral)
      | some n =>
        have htake : takeBytes n tail = none := by simpa [readPart, hcolon, hnumeral] using h
        exact .inr ⟨n, Text.readNumeral_eq_some.1 hnumeral, takeBytes_eq_none.1 htake⟩
  · rintro (hnone | ⟨length, tail, rfl, hclosed, h⟩)
    · simp [readPart, splitAtColon_eq_none.2 hnone]
    · have hcolon := splitAtColon_append hclosed tail.toList
      rcases h with hno | ⟨n, hn, h⟩
      · simp [readPart, hcolon, Text.readNumeral_eq_none.2 hno]
      · rw [← total_utf8Size] at h
        simp [readPart, hcolon, Text.readNumeral_eq_some.2 hn, takeBytes_eq_none.2 h]

instance (s : String) : Decidable (Unframed s) := decidable_of_iff _ readPart_eq_none

/-! ## Decompositions -/

/-- A text is cut into frames and a rest with no frame in front. -/
structure Decomposes (s : String) (frames : List Frame) (rest : String) : Prop where
  text : s = String.join (frames.map Frame.text) ++ rest
  sound : ∀ f ∈ frames, f.Sound
  ended : Unframed rest

theorem not_unframed {f : Frame} (hf : f.Sound) (s : String) : ¬ Unframed (f.text ++ s) := by
  intro h
  have hread : readPart (f.text ++ s).toList = some (f.part.toList, s.toList) :=
    readPart_eq_some.2 ⟨f, hf, by rw [String.ofList_toList], rfl⟩
  rw [readPart_eq_none.2 h] at hread
  cases hread

namespace Decomposes

variable {s rest rest' : String} {f : Frame} {frames frames' : List Frame}

theorem nil (h : Unframed s) : Decomposes s [] s :=
  ⟨by simp, List.forall_mem_nil _, h⟩

theorem cons (hf : f.Sound) (h : Decomposes s frames rest) :
    Decomposes (f.text ++ s) (f :: frames) rest :=
  ⟨by rw [h.text]; simp [String.append_assoc], List.forall_mem_cons.2 ⟨hf, h.sound⟩, h.ended⟩

theorem eq_of_nil (h : Decomposes s [] rest) : rest = s := by
  simpa using h.text.symm

theorem exists_of_cons (h : Decomposes s (f :: frames) rest) :
    ∃ t, s = f.text ++ t ∧ f.Sound ∧ Decomposes t frames rest := by
  obtain ⟨hf, hframes⟩ := List.forall_mem_cons.1 h.sound
  exact ⟨_, by simpa [String.append_assoc] using h.text, hf, rfl, hframes, h.ended⟩

theorem unique (h : Decomposes s frames rest) (h' : Decomposes s frames' rest') :
    frames' = frames ∧ rest' = rest := by
  induction frames generalizing s frames' with
  | nil =>
    obtain rfl := h.eq_of_nil
    cases frames' with
    | nil => exact ⟨rfl, h'.eq_of_nil⟩
    | cons g frames' =>
      obtain ⟨t, rfl, hg, -⟩ := h'.exists_of_cons
      exact absurd h.ended (not_unframed hg t)
  | cons f frames ih =>
    obtain ⟨t, rfl, hf, ht⟩ := h.exists_of_cons
    cases frames' with
    | nil =>
      have hended := h'.ended
      rw [h'.eq_of_nil] at hended
      exact absurd hended (not_unframed hf t)
    | cons g frames' =>
      obtain ⟨t', heq, hg, ht'⟩ := h'.exists_of_cons
      obtain ⟨rfl, rfl⟩ := hf.cancel hg heq
      obtain ⟨rfl, rfl⟩ := ih ht ht'
      exact ⟨rfl, rfl⟩

end Decomposes

theorem exists_decomposes (cs : List Char) :
    ∃ frames rest, Decomposes (String.ofList cs) frames rest
      ∧ (splitChars cs).map String.ofList = frames.map Frame.part := by
  fun_induction splitChars cs with
  | case1 cs hnone =>
    have hended : Unframed (String.ofList cs) := by
      rwa [← readPart_eq_none, String.toList_ofList]
    exact ⟨[], _, .nil hended, rfl⟩
  | case2 cs part tail hsome ih =>
    rw [← String.toList_ofList (l := cs)] at hsome
    obtain ⟨f, hf, hs, rfl⟩ := readPart_eq_some.1 hsome
    obtain ⟨frames, rest, htail, hparts⟩ := ih
    refine ⟨f :: frames, rest, hs ▸ htail.cons hf, ?_⟩
    rw [List.map_cons, List.map_cons, hparts, String.ofList_toList]

/-- Whatever a text is, it is cut in one way into frames, each a numeral, a colon and as many bytes
as the numeral says, and a rest with no frame in front; and it is split into the parts of these
frames. -/
theorem split_decomposes (s : String) :
    ∃ frames rest, Decomposes s frames rest ∧ split s = frames.map Frame.part
      ∧ ∀ frames' rest', Decomposes s frames' rest' → frames' = frames ∧ rest' = rest := by
  obtain ⟨frames, rest, h, hparts⟩ := exists_decomposes s.toList
  rw [String.ofList_toList] at h
  exact ⟨frames, rest, h, hparts, fun _ _ => h.unique⟩

/-- A length may have a sign and zeros in front; the last one ends inside a character. -/
theorem split_decomposes_padded :
    let frames : List Frame := [⟨"+1", "a"⟩, ⟨"003", "b:c"⟩, ⟨"0", ""⟩]
    Decomposes "+1:a003:b:c0:2:€" frames "2:€"
      ∧ split "+1:a003:b:c0:2:€" = ["a", "b:c", ""] := by
  intro frames
  have hsound : ∀ f ∈ frames, f.Sound := by decide
  have hended : Unframed "2:€" := by decide +kernel
  have h : Decomposes "+1:a003:b:c0:2:€" frames "2:€" := ⟨by decide, hsound, hended⟩
  obtain ⟨_, _, -, hsplit, hunique⟩ := split_decomposes "+1:a003:b:c0:2:€"
  rw [hsplit, ← (hunique _ _ h).1]
  exact ⟨h, rfl⟩

end KeySet

end LogPipeline
