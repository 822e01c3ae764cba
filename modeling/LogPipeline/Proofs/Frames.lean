import LogPipeline.KeySet.Framing
import LogPipeline.Total
import Mathlib.Data.List.Basic
import Mathlib.Data.Set.Function

/-!
# What is framed is read back

The first colon of a frame ends its length, since digits hold no colon; the length is read back from
its digits; and as many bytes are the part, whatever its characters are. So a frame at the front of
a text yields its part and leaves the rest (`split_frame_append`), and a merged key yields its parts
whatever comes behind it (`split_merge_append`).
-/

namespace LogPipeline

namespace Text

theorem digitsFrom_eq_ofDigitChars {cs : List Char} (h : ∀ c ∈ cs, c.isDigit = true) (n : Nat) :
    digitsFrom n cs = some (Nat.ofDigitChars 10 cs n) := by
  induction cs generalizing n with
  | nil => rfl
  | cons c cs ih =>
    rw [digitsFrom, if_pos (h c List.mem_cons_self), ih fun d hd => h d (List.mem_cons_of_mem _ hd),
      Nat.ofDigitChars_cons, Nat.mul_comm n 10]
    rfl

/-- A number of 64 bits is read back from its digits. -/
theorem readNumeral_toDigits {n : Nat} (h : n ≤ maxWord) :
    readNumeral (Nat.toDigits 10 n) = some n := by
  have hdigits : ∀ c ∈ Nat.toDigits 10 n, c.isDigit = true := fun c hc =>
    Nat.isDigit_of_mem_toDigits (by decide) (by decide) hc
  have hread : digitsFrom 0 (Nat.toDigits 10 n) = some n := by
    rw [digitsFrom_eq_ofDigitChars hdigits, Nat.ofDigitChars_ten_toDigits]
  unfold readNumeral
  split
  · -- a sign is no digit
    rename_i rest hrest
    have := hdigits '+' (by rw [hrest]; exact List.mem_cons_self)
    simp at this
  · simp [Nat.toDigits_ne_nil, hread, h]

end Text

namespace KeySet

theorem splitAtColon_append {a : List Char} (h : ':' ∉ a) (b : List Char) :
    splitAtColon (a ++ ':' :: b) = some (a, b) := by
  induction a with
  | nil => rfl
  | cons c a ih =>
    obtain ⟨hc, ha⟩ := not_or.1 fun hmem => h (List.mem_cons.2 hmem)
    rw [List.cons_append, splitAtColon, ih ha]
    · rfl
    · exact fun hc' => hc hc'.symm

theorem takeBytes_append (a b : List Char) :
    takeBytes (total Char.utf8Size a) (a ++ b) = some (a, b) := by
  induction a with
  | nil => rw [total_nil, List.nil_append, takeBytes]
  | cons c a ih =>
    have hc := c.utf8Size_pos
    obtain ⟨n, hn⟩ : ∃ n, c.utf8Size + total Char.utf8Size a = n + 1 :=
      ⟨c.utf8Size + total Char.utf8Size a - 1, by omega⟩
    have hrest : n + 1 - c.utf8Size = total Char.utf8Size a := by omega
    rw [total_cons, hn, List.cons_append, takeBytes, if_pos (by omega), hrest, ih]
    rfl

/-- The bytes of a text are those of its characters. -/
theorem total_utf8Size (s : String) : total Char.utf8Size s.toList = s.utf8ByteSize := by
  have hbytes : ∀ cs : List Char, (String.ofList cs).utf8ByteSize = total Char.utf8Size cs := by
    intro cs
    induction cs with
    | nil => rfl
    | cons c cs ih =>
      rw [← List.singleton_append, String.ofList_append, String.utf8ByteSize_append, ih,
        total_append]
      simp
  rw [← hbytes, String.ofList_toList]

theorem toList_frame (p : String) :
    (frame p).toList = Nat.toDigits 10 p.utf8ByteSize ++ ':' :: p.toList := by
  simp [frame, Nat.toString_eq_repr]

/-- A frame yields its part and leaves what comes behind it. -/
theorem readPart_frame {p : String} (h : p.utf8ByteSize < UInt64.size) (rest : List Char) :
    readPart ((frame p).toList ++ rest) = some (p.toList, rest) := by
  have hcolon : ':' ∉ Nat.toDigits 10 p.utf8ByteSize := fun hc => by
    have := Nat.isDigit_of_mem_toDigits (by decide) (by decide) hc
    simp at this
  have hlen := Text.readNumeral_toDigits (n := p.utf8ByteSize) (Nat.le_of_lt_succ h)
  have htake := takeBytes_append p.toList rest
  rw [total_utf8Size] at htake
  rw [toList_frame, List.append_assoc, List.cons_append, readPart, splitAtColon_append hcolon]
  simp [hlen, htake]

theorem split_frame_append {p : String} (h : p.utf8ByteSize < UInt64.size) (tail : String) :
    split (frame p ++ tail) = p :: split tail := by
  have hread : splitChars ((frame p).toList ++ tail.toList)
      = p.toList :: splitChars tail.toList := by
    rw [splitChars]
    split
    · rename_i hnone
      simp [readPart_frame h] at hnone
    · rename_i part rest hsome
      rw [readPart_frame h, Option.some.injEq, Prod.mk.injEq] at hsome
      rw [hsome.1, hsome.2]
  rw [split, String.toList_append, hread, List.map_cons, String.ofList_toList, split]

/-! ## Merged keys -/

/-- Parts are written behind what is there already. -/
theorem foldl_pushPart (out : String) (parts : List String) :
    parts.foldl pushPart out = out ++ merge parts := by
  have hpush : ∀ (parts : List String) (start : String),
      parts.foldl pushPart (out ++ start) = out ++ parts.foldl pushPart start := by
    intro parts
    induction parts with
    | nil => exact fun start => rfl
    | cons p parts ih =>
      intro start
      rw [List.foldl_cons, List.foldl_cons, pushPart, String.append_assoc, ih]
      rfl
  have h := hpush parts ""
  rwa [String.append_empty] at h

@[simp] theorem merge_nil : merge [] = "" := rfl

@[simp] theorem merge_cons (p : String) (parts : List String) :
    merge (p :: parts) = frame p ++ merge parts := by
  have hpush := foldl_pushPart (frame p) parts
  rw [← hpush]
  show parts.foldl pushPart ("" ++ frame p) = _
  rw [String.empty_append]

theorem split_merge_append {parts : List String} (h : ∀ p ∈ parts, p.utf8ByteSize < UInt64.size)
    (tail : String) : split (merge parts ++ tail) = parts ++ split tail := by
  induction parts with
  | nil => simp
  | cons p parts ih =>
    rw [merge_cons, String.append_assoc, split_frame_append (h p List.mem_cons_self),
      ih fun q hq => h q (List.mem_cons_of_mem _ hq), List.cons_append]

@[simp] theorem split_empty : split "" = [] := by
  simp [split, splitChars, readPart, splitAtColon]

theorem split_merge {parts : List String} (h : ∀ p ∈ parts, p.utf8ByteSize < UInt64.size) :
    split (merge parts) = parts := by
  simpa using split_merge_append h ""

/-- No two lists of parts have the same merged key. -/
theorem merge_injOn : Set.InjOn merge {parts | ∀ p ∈ parts, p.utf8ByteSize < UInt64.size} := by
  intro parts h parts' h' heq
  rw [← split_merge h, heq, split_merge h']

/-- A merged key that was written into a buffer is read back part by part, whatever the buffer held
before, whatever is written behind the key, and whatever the parts hold. So no two lists of parts
have the same key. Parts that are pushed one at a time make the same key. -/
theorem split_mergeInto_append (parts : List String) (h : ∀ p ∈ parts, p.utf8ByteSize < UInt64.size)
    (buffer tail : String) :
    split (mergeInto parts buffer ++ tail) = parts ++ split tail
      ∧ split (mergeInto parts buffer) = parts
      ∧ (∀ (parts' : List String) (buffer' : String), (∀ p ∈ parts', p.utf8ByteSize < UInt64.size) →
        mergeInto parts' buffer' = mergeInto parts buffer → parts' = parts)
      ∧ mergeInto parts buffer = merge parts
      ∧ ∀ start, parts.foldl pushPart start = start ++ mergeInto parts buffer := by
  have hmerge : ∀ parts buffer, mergeInto parts buffer = merge parts := fun _ _ => rfl
  simp only [hmerge]
  exact ⟨split_merge_append h tail, split_merge h, fun parts' _ h' heq => merge_injOn h' h heq,
    trivial, fun start => foldl_pushPart start parts⟩

/-- Parts that look like frames, written over a stale key and followed by half a frame. -/
theorem split_mergeInto_framed_parts :
    (∀ p ∈ ["1:a", "", "é:2"], p.utf8ByteSize < UInt64.size)
      ∧ mergeInto ["1:a", "", "é:2"] "stale" = "3:1:a0:4:é:2"
      ∧ split (mergeInto ["1:a", "", "é:2"] "stale" ++ "9:b")
        = ["1:a", "", "é:2"] ++ split "9:b" := by
  have h : ∀ p ∈ ["1:a", "", "é:2"], p.utf8ByteSize < UInt64.size := by decide
  exact ⟨h, by decide, (split_mergeInto_append _ h "stale" "9:b").1⟩

end KeySet

end LogPipeline
