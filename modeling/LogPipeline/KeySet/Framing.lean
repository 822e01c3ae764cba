import LogPipeline.Text.Numeral

/-!
# Framing of merged keys

A merged key is the list of its parts, each written as its length in bytes, a colon, and the part
itself. A length in front is the only framing that no text can break. `split` reads parts from the
front as long as they are written well.
-/

namespace LogPipeline.KeySet

def frame (part : String) : String := toString part.utf8ByteSize ++ ":" ++ part

/-- All parts, framed one after the other. -/
def merge (parts : List String) : String := parts.foldl (fun out p => out ++ frame p) ""

def pushPart (out part : String) : String := out ++ frame part

/-- Writes a merged key into a buffer, in place of what the buffer holds. -/
def mergeInto (parts : List String) (_buffer : String) : String := parts.foldl pushPart ""

/-- The characters before the first colon and those behind it. -/
def splitAtColon : List Char → Option (List Char × List Char)
  | [] => none
  | ':' :: rest => some ([], rest)
  | c :: rest => (splitAtColon rest).map fun (a, b) => (c :: a, b)

/-- The characters that fill exactly `n` bytes, and the rest. `none` if there are fewer bytes or a
character would be cut. -/
def takeBytes : Nat → List Char → Option (List Char × List Char)
  | 0, cs => some ([], cs)
  | _ + 1, [] => none
  | n + 1, c :: cs =>
    if c.utf8Size ≤ n + 1 then
      (takeBytes (n + 1 - c.utf8Size) cs).map fun (a, b) => (c :: a, b)
    else none
termination_by _ cs => cs.length

/-- One framed part at the front, and the rest. -/
def readPart (cs : List Char) : Option (List Char × List Char) := do
  let (len, tail) ← splitAtColon cs
  let n ← Text.readNumeral len
  takeBytes n tail

theorem length_splitAtColon {cs a b : List Char} (h : splitAtColon cs = some (a, b)) :
    b.length < cs.length := by
  fun_induction splitAtColon cs generalizing a b with
  | case1 => simp at h
  | case2 rest =>
    simp only [Option.some.injEq, Prod.mk.injEq] at h
    obtain ⟨-, rfl⟩ := h
    simp
  | case3 c rest _ ih =>
    obtain ⟨⟨x, y⟩, hxy, he⟩ := Option.map_eq_some_iff.1 h
    simp only [Prod.mk.injEq] at he
    have := ih hxy
    rw [← he.2]
    simp
    omega

theorem length_takeBytes {n : Nat} {cs a b : List Char} (h : takeBytes n cs = some (a, b)) :
    b.length ≤ cs.length := by
  fun_induction takeBytes n cs generalizing a b with
  | case1 =>
    simp only [Option.some.injEq, Prod.mk.injEq] at h
    exact h.2 ▸ Nat.le_refl _
  | case2 => simp at h
  | case3 n c cs hc ih =>
    obtain ⟨⟨x, y⟩, hxy, he⟩ := Option.map_eq_some_iff.1 h
    simp only [Prod.mk.injEq] at he
    have := ih hxy
    rw [← he.2]
    simp
    omega
  | case4 => simp at h

theorem length_readPart {cs a b : List Char} (h : readPart cs = some (a, b)) :
    b.length < cs.length := by
  unfold readPart at h
  cases h1 : splitAtColon cs with
  | none => simp [h1] at h
  | some p =>
    obtain ⟨len, tail⟩ := p
    cases h2 : Text.readNumeral len with
    | none => simp [h1, h2] at h
    | some n =>
      have h3 : takeBytes n tail = some (a, b) := by simpa [h1, h2] using h
      exact Nat.lt_of_le_of_lt (length_takeBytes h3) (length_splitAtColon h1)

/-- The parts at the front of a text, as far as they are framed. -/
def splitChars (cs : List Char) : List (List Char) :=
  match _h : readPart cs with
  | none => []
  | some (part, rest) => part :: splitChars rest
termination_by cs.length
decreasing_by exact length_readPart ‹_›

/-- The parts of a merged key. -/
def split (key : String) : List String := (splitChars key.toList).map String.ofList

end LogPipeline.KeySet
