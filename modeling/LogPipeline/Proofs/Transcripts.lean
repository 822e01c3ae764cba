import LogPipeline.Json.Reading
import LogPipeline.Processor
import LogPipeline.Proofs.Lines
import Mathlib.Data.List.Forall2

/-!
# Lines are read back

An escape is read as the character it was written for, whatever follows it (`readQuoted_escape`);
the digits of a whole number are read as that number where no number goes on
(`readNumber_int`); so the text of an object is cut into the tokens of its entries (`cuts_obj`), and
they are read as the entries (`parse_write_obj`). Records that are written behind some data leave
the data as it is, and what they add falls into one line for each, which reads as the timestamp of
the record and its fields under their names (`append_lines`).
-/

namespace LogPipeline

namespace Json

/-! ## Texts -/

theorem hexValue_hexDigit {n : Nat} (hn : n < 16) : hexValue? (hexDigit n) = some n := by
  have : ∀ n < 16, hexValue? (hexDigit n) = some n := by decide
  exact this n hn

/-- A unit that is no half of a pair is read by itself, whatever follows it. -/
theorem readQuoted_unit {a b c d : Char} {n : Nat} (h : hex4? a b c d = some n)
    (hl : isLeading n = false) (ht : isTrailing n = false) (rest : List Char)
    (read : Option (List Char)) :
    readQuoted ('\\' :: 'u' :: a :: b :: c :: d :: rest) read
      = readQuoted rest (read.map (Char.ofNat n :: ·)) := by
  rw [readQuoted.eq_def]
  split
  case h_3 heq =>
    obtain ⟨rfl, rfl, rfl, rfl, rfl⟩ := by simpa using heq
    simp [h, hl, ht]
  case h_4 heq =>
    obtain ⟨rfl, rfl, rfl, rfl, rfl⟩ := by simpa using heq
    simp [h, hl, ht]
  case h_5 hnone heq =>
    obtain ⟨rfl, rfl⟩ := by simpa using heq
    exact absurd rfl (hnone _ _ _ _ _ rfl)
  case h_6 hnone heq =>
    obtain ⟨rfl, rfl⟩ := by simpa using heq
    exact absurd rfl (hnone _ _ rfl)
  all_goals simp_all

/-- An escape is read as the character it was written for. -/
theorem readQuoted_escape (c : Char) (rest : List Char) (read : Option (List Char)) :
    readQuoted (escape c ++ rest) read = readQuoted rest (read.map (c :: ·)) := by
  unfold escape
  split
  · subst_vars; simp [readQuoted, shortEscape?]
  split
  · subst_vars; simp [readQuoted, shortEscape?]
  split
  · subst_vars; simp [readQuoted, shortEscape?]
  split
  · subst_vars; simp [readQuoted, shortEscape?]
  split
  · subst_vars; simp [readQuoted, shortEscape?]
  split
  · subst_vars; simp [readQuoted, shortEscape?]
  split
  · subst_vars; simp [readQuoted, shortEscape?]
  split
  · rename_i hc
    have hunit :
        hex4? '0' '0' (hexDigit (c.toNat / 16)) (hexDigit (c.toNat % 16)) = some c.toNat := by
      have h0 : hexValue? '0' = some 0 := by decide
      have hhigh := hexValue_hexDigit (n := c.toNat / 16) (by omega)
      have hlow := hexValue_hexDigit (n := c.toNat % 16) (by omega)
      simp [hex4?, h0, hhigh, hlow]
      omega
    have hl : isLeading c.toNat = false := by simp [isLeading]; omega
    have ht : isTrailing c.toNat = false := by simp [isTrailing]; omega
    simp only [List.cons_append, List.nil_append]
    rw [readQuoted_unit hunit hl ht, Char.ofNat_toNat]
  · rw [List.cons_append, List.nil_append, readQuoted.eq_def]
    split
    case h_6 heq =>
      obtain ⟨rfl, rfl⟩ := by simpa using heq
      rw [if_neg ‹_›]
    all_goals simp_all

theorem readQuoted_flatMap_escape (cs rest read : List Char) :
    readQuoted (cs.flatMap escape ++ '"' :: rest) (some read)
      = some (some (String.ofList (read.reverse ++ cs)), rest) := by
  induction cs generalizing read with
  | nil => simp [readQuoted]
  | cons c cs ih =>
    rw [List.flatMap_cons, List.append_assoc, readQuoted_escape, Option.map_some, ih]
    simp

theorem readToken_quote (s : String) (rest : List Char) :
    readToken ((quote s).toList ++ rest) = some (.text (some s), rest) := by
  rw [quote, String.toList_ofList, quoteChars, List.cons_append, List.append_assoc, readToken]
  simp [readQuoted_flatMap_escape]

/-! ## Numbers -/

theorem digits_append {ds rest : List Char} (hd : ∀ c ∈ ds, c.isDigit = true)
    (hr : ∀ c ∈ rest.head?, c.isDigit = false) :
    digits (ds ++ rest) = (ds.map (·.toNat - 48), rest) := by
  induction ds with
  | nil =>
    cases rest with
    | nil => rfl
    | cons c rest => simp [digits, hr c rfl]
  | cons c ds ih =>
    have hc := hd c List.mem_cons_self
    simp [digits, hc, ih fun d h => hd d (List.mem_cons_of_mem _ h)]

/-- Digits of a number of 64 bits are all taken. -/
theorem extend_eq {sig : Nat} {ds : List Nat}
    (h : ds.foldl (fun n d => n * 10 + d) sig ≤ Text.maxWord) :
    extend sig ds = (ds.foldl (fun n d => n * 10 + d) sig, 0) := by
  have hgrows : ∀ (ds : List Nat) sig, sig ≤ ds.foldl (fun n d => n * 10 + d) sig := by
    intro ds
    induction ds with
    | nil => exact fun sig => Nat.le_refl sig
    | cons d ds ih => exact fun sig => Nat.le_trans (by omega) (ih (sig * 10 + d))
  induction ds generalizing sig with
  | nil => rfl
  | cons d ds ih =>
    rw [List.foldl_cons] at h ⊢
    rw [extend, if_pos (Nat.le_trans (hgrows ds _) h), ih h]

theorem foldl_digits (n : Nat) :
    ((Nat.toDigits 10 n).map (·.toNat - 48)).foldl (fun n d => n * 10 + d) 0 = n := by
  rw [List.foldl_map]
  conv_rhs => rw [← Nat.ofDigitChars_ten_toDigits (n := n)]
  simp only [Nat.ofDigitChars, Nat.mul_comm 10]
  rfl

theorem head_toDigits {n : Nat} (h : 0 < n) : (Nat.toDigits 10 n).head? ≠ some '0' := by
  induction n using Nat.strongRecOn with
  | ind n ih =>
    rw [Nat.toDigits_eq_if (by decide)]
    split
    · rename_i hn
      have : ∀ n < 10, 0 < n → [Nat.digitChar n].head? ≠ some '0' := by decide
      exact this n hn h
    · have hne := Nat.toDigits_ne_nil (n := n / 10) (b := 10)
      rw [List.head?_append_of_ne_nil _ hne]
      exact ih (n / 10) (by omega) (by omega)

/-- No number goes on here. -/
def EndsNumber (rest : List Char) : Prop :=
  ∀ c ∈ rest.head?, c.isDigit = false ∧ c ≠ '.' ∧ c ≠ 'e' ∧ c ≠ 'E'

theorem eq_zero_of_digit {c : Char} (hc : c.isDigit = true) (h : c.toNat - 48 = 0) : c = '0' := by
  simp only [Char.isDigit, Bool.and_eq_true, decide_eq_true_eq, ge_iff_le,
    UInt32.le_iff_toNat_le] at hc
  have h48 : ('0' : Char).val.toNat = 48 := rfl
  have hle : 48 ≤ c.toNat := h48 ▸ hc.1
  have heq : c.toNat = 48 := by omega
  exact Char.toNat_inj.1 heq

/-- The digits make the number where nothing else of a number follows. -/
theorem readNumber_digits (negative : Bool) {ds rest : List Char}
    (hds : ∀ c ∈ ds, c.isDigit = true) (hne : ds ≠ [])
    (hzero : ds.head? = some '0' → ds.length = 1) (hrest : EndsNumber rest) :
    readNumber ((if negative then ['-'] else []) ++ (ds ++ rest))
      = some (number negative (ds.map (·.toNat - 48)) [] none, rest) := by
  obtain ⟨d, ds, rfl⟩ := List.exists_cons_of_ne_nil hne
  have hd := hds d List.mem_cons_self
  have hdigits := digits_append hds fun c hc => (hrest c hc).1
  have hlead : d.toNat - 48 = 0 → ds = [] := fun h => by
    simpa using hzero (by simp [eq_zero_of_digit hd h])
  unfold readNumber
  split
  rename_i sign cs heq
  have hsign : (sign, cs) = (negative, d :: ds ++ rest) := by
    rw [← heq]
    split
    · rename_i hcs
      cases negative with
      | true => simpa using hcs.symm
      | false =>
        obtain ⟨rfl, -⟩ := by simpa using hcs
        simp at hd
    · rename_i hcs
      cases negative with
      | true => exact absurd rfl (hcs _)
      | false => simp
  cases hsign
  rw [hdigits]
  dsimp only
  rw [if_neg (by simpa using hlead)]
  rcases rest with _ | ⟨c, rest⟩
  · simp
  · obtain ⟨-, hdot, he, hE⟩ := hrest c rfl
    simp [he, hE, hdot]

/-- A whole number as it is written. -/
theorem toList_toString (n : Int) :
    (toString n).toList = (if n < 0 then ['-'] else []) ++ Nat.toDigits 10 n.natAbs := by
  cases n with
  | ofNat n =>
    have : (toString n).toList = Nat.toDigits 10 n := by rw [Nat.toString_eq_repr, Nat.toList_repr]
    have hwrite : toString (Int.ofNat n) = toString n := rfl
    rw [hwrite, this]
    simp
  | negSucc n =>
    have : (toString (n + 1)).toList = Nat.toDigits 10 (n + 1) := by
      rw [Nat.toString_eq_repr, Nat.toList_repr]
    have hwrite : toString (Int.negSucc n) = "-" ++ toString (n + 1) := rfl
    rw [hwrite, String.toList_append, this, if_pos (Int.negSucc_lt_zero n)]
    rfl

/-- A whole number of 64 bits, with a sign or without. -/
def IsWord (n : Int) : Prop := -0x8000000000000000 ≤ n ∧ n ≤ Text.maxWord

instance (n : Int) : Decidable (IsWord n) :=
  inferInstanceAs (Decidable (-0x8000000000000000 ≤ n ∧ n ≤ Text.maxWord))

/-- A whole number is read back where no number goes on. -/
theorem readNumber_int {n : Int} (h : IsWord n) {rest : List Char} (hr : EndsNumber rest) :
    readNumber ((toString n).toList ++ rest) = some (.whole n, rest) := by
  have hdigits : ∀ c ∈ Nat.toDigits 10 n.natAbs, c.isDigit = true := fun _ hc =>
    Nat.isDigit_of_mem_toDigits (by decide) (by decide) hc
  have hzero : (Nat.toDigits 10 n.natAbs).head? = some '0' →
      (Nat.toDigits 10 n.natAbs).length = 1 := by
    intro h0
    have : n.natAbs = 0 := by
      by_contra hn
      exact head_toDigits (Nat.pos_of_ne_zero hn) h0
    rw [this]
    rfl
  have hread := readNumber_digits (decide (n < 0)) hdigits Nat.toDigits_ne_nil hzero hr
  have habs : n.natAbs ≤ Text.maxWord := by
    unfold IsWord Text.maxWord at *
    omega
  have hext : extend 0 ((Nat.toDigits 10 n.natAbs).map (·.toNat - 48)) = (n.natAbs, 0) := by
    rw [extend_eq (by rwa [foldl_digits]), foldl_digits]
  have hnum : number (decide (n < 0)) ((Nat.toDigits 10 n.natAbs).map (·.toNat - 48)) [] none
      = .whole n := by
    unfold number
    rw [hext]
    obtain ⟨m, hm⟩ : ∃ m, n.natAbs = m := ⟨_, rfl⟩
    rw [hm]
    by_cases hn : n < 0
    · have hbounds : m ≠ 0 ∧ m ≤ 0x8000000000000000 := by
        unfold IsWord at h
        omega
      have hback : -(m : Int) = n := by omega
      simp [hn, hbounds, hback]
    · have hback : (m : Int) = n := by omega
      simp [hn, hback]
  rw [hnum] at hread
  rw [toList_toString]
  simpa using hread

/-- A whole number begins with its sign or with a digit. -/
theorem toString_eq_cons (n : Int) :
    ∃ c cs, (toString n).toList = c :: cs ∧ (c = '-' ∨ c.isDigit = true) := by
  rw [toList_toString]
  split
  · exact ⟨_, _, rfl, .inl rfl⟩
  · obtain ⟨c, cs, hcs⟩ :=
      List.exists_cons_of_ne_nil (Nat.toDigits_ne_nil (n := n.natAbs) (b := 10))
    refine ⟨c, cs, by simpa using hcs, .inr ?_⟩
    exact Nat.isDigit_of_mem_toDigits (by decide) (by decide) (hcs ▸ List.mem_cons_self)

theorem readToken_number {c : Char} (hc : c = '-' ∨ c.isDigit = true) (rest : List Char) :
    readToken (c :: rest) = (readNumber (c :: rest)).map fun (n, rest) => (.number n, rest) := by
  rw [readToken.eq_def]
  split
  case h_12 => rfl
  case h_1 heq => cases heq
  all_goals
    rename_i heq
    obtain ⟨rfl, -⟩ := List.cons.inj heq
    simp at hc

theorem readToken_int {n : Int} (h : IsWord n) {rest : List Char} (hr : EndsNumber rest) :
    readToken ((toString n).toList ++ rest) = some (.number (.whole n), rest) := by
  have hread := readNumber_int h hr
  obtain ⟨c, cs, hcs, hc⟩ := toString_eq_cons n
  rw [hcs, List.cons_append] at hread ⊢
  rw [readToken_number hc, hread]
  rfl

/-! ## Tokens -/

/-- The text is cut into the tokens, however many more there might be. -/
def Cuts (cs : List Char) (ts : List Token) : Prop := ∀ fuel, cs.length ≤ fuel → cut fuel cs = ts

theorem Cuts.nil : Cuts [] [] := by
  intro fuel _
  cases fuel <;> rfl

theorem Cuts.cons {c : Char} {cs rest : List Char} {t : Token} {ts : List Token}
    (hblank : isBlank c = false) (hread : readToken (c :: cs) = some (t, rest))
    (hlen : rest.length ≤ cs.length) (h : Cuts rest ts) : Cuts (c :: cs) (t :: ts) := by
  intro fuel hfuel
  obtain ⟨fuel, rfl⟩ : ∃ k, fuel = k + 1 := ⟨fuel - 1, by simp at hfuel; omega⟩
  have hrest := h fuel (by simp at hfuel; omega)
  rw [cut, List.dropWhile_cons_of_neg (by simp [hblank])]
  simp [hread, hrest]

theorem Cuts.quote (s : String) {cs : List Char} {ts : List Token} (h : Cuts cs ts) :
    Cuts ((quote s).toList ++ cs) (.text (some s) :: ts) := by
  have hread := readToken_quote s cs
  rw [Json.quote, String.toList_ofList, quoteChars, List.cons_append] at hread ⊢
  refine .cons rfl hread ?_ h
  simp only [List.length_append]
  omega

theorem isBlank_number {c : Char} (hc : c = '-' ∨ c.isDigit = true) : isBlank c = false := by
  rw [Bool.eq_false_iff]
  intro h
  have hblank : c = ' ' ∨ c = '\n' ∨ c = '\t' ∨ c = '\r' := by
    simpa [isBlank, or_assoc] using h
  rcases hblank with rfl | rfl | rfl | rfl <;> simp at hc

theorem Cuts.int {n : Int} (hn : IsWord n) {cs : List Char} (hcs : EndsNumber cs) {ts : List Token}
    (h : Cuts cs ts) : Cuts ((toString n).toList ++ cs) (.number (.whole n) :: ts) := by
  have hread := readToken_int hn hcs
  obtain ⟨c, ds, hds, hc⟩ := toString_eq_cons n
  rw [hds, List.cons_append] at hread ⊢
  exact .cons (isBlank_number hc) hread (by simp) h

/-! ## Objects -/

/-- A text, or a whole number of 64 bits. -/
inductive IsPlain : Json → Prop where
  | str (s : String) : IsPlain (.str s)
  | int {n : Int} (h : IsWord n) : IsPlain (.int n)

theorem Cuts.plain {v : Json} (hv : IsPlain v) {cs : List Char} (hcs : EndsNumber cs)
    {ts : List Token} (h : Cuts cs ts) : Cuts (v.write.toList ++ cs) (toTokens v ++ ts) := by
  cases hv with
  | str s => simpa [write, toTokens] using h.quote s
  | int hn => simpa [write, toTokens] using h.int hn hcs

/-- What follows the first entry, a comma before each. -/
def further (es : List (String × Json)) : List Token :=
  es.flatMap fun (k, v) => .comma :: .text (some k) :: .colon :: toTokens v

theorem goEntries_cons (k : String) (v : Json) (es : List (String × Json)) :
    toTokens.goEntries ((k, v) :: es) = .text (some k) :: .colon :: (toTokens v ++ further es) := by
  induction es generalizing k v with
  | nil => simp [toTokens.goEntries, further]
  | cons e es ih =>
    obtain ⟨k', v'⟩ := e
    rw [toTokens.goEntries, ih]
    · simp [further]
    · simp

theorem Cuts.entry {v : Json} (hv : IsPlain v) (k : String) {cs : List Char} (hcs : EndsNumber cs)
    {ts : List Token} (h : Cuts cs ts) :
    Cuts ((Json.quote k ++ ":" ++ v.write).toList ++ cs)
      (.text (some k) :: .colon :: (toTokens v ++ ts)) := by
  have hcolon : Cuts (':' :: (v.write.toList ++ cs)) (.colon :: (toTokens v ++ ts)) :=
    .cons rfl rfl (by simp) (h.plain hv hcs)
  simpa using hcolon.quote k

theorem Cuts.entries {es : List (String × Json)} (hes : ∀ e ∈ es, IsPlain e.2) {cs : List Char}
    (hcs : EndsNumber cs) {ts : List Token} (h : Cuts cs ts) :
    Cuts ((String.intercalate "," (writeEntries es)).toList ++ cs)
      (toTokens.goEntries es ++ ts) := by
  induction es with
  | nil => simpa [writeEntries, toTokens.goEntries] using h
  | cons e es ih =>
    obtain ⟨k, v⟩ := e
    have hv := hes (k, v) List.mem_cons_self
    have ih := ih fun e he => hes e (List.mem_cons_of_mem _ he)
    rcases es with _ | ⟨⟨k', v'⟩, es⟩
    · simpa [writeEntries, toTokens.goEntries] using h.entry hv k hcs
    · have hcomma := Cuts.cons rfl rfl (Nat.le_refl _) ih (c := ',') (t := .comma)
      have hends : EndsNumber
          (',' :: ((String.intercalate "," (writeEntries ((k', v') :: es))).toList ++ cs)) := by
        simp [EndsNumber]
      have hall := hcomma.entry hv k hends
      rw [writeEntries, writeEntries, String.intercalate_cons_cons, ← writeEntries]
      simpa [toTokens.goEntries] using hall

theorem cuts_obj {es : List (String × Json)} (hes : ∀ e ∈ es, IsPlain e.2) :
    Cuts (obj es).write.toList (toTokens (obj es)) := by
  have hclose : Cuts ['}'] [.closeBrace] := .cons rfl rfl (Nat.le_refl _) .nil
  have hends : EndsNumber ['}'] := by simp [EndsNumber]
  have hopen : Cuts ('{' :: _) (.openBrace :: _) :=
    .cons rfl rfl (Nat.le_refl _) (hclose.entries hes hends)
  simpa [write, toTokens] using hopen

theorem value_plain {v : Json} (hv : IsPlain v) (care : Care) (fuel : Nat) (ts : List Token) :
    value care (fuel + 1) (toTokens v ++ ts) = .ok (v, ts) := by
  cases hv <;> rfl

/-- An entry is read, and then the others. -/
theorem entries_step {v : Json} (hv : IsPlain v) {depth fuel : Nat} {first : Bool} {k : String}
    {ts ts' : List Token} (hkey : nextKey first ts = .ok (some k, .colon :: (toTokens v ++ ts')))
    {es : List (String × Json)} {rest : List Token}
    (h : entries (.strict depth) false (fuel + 1) ts' = .ok (es, rest)) :
    entries (.strict depth) first (fuel + 2) ts = .ok ((k, v) :: es, rest) := by
  have hvalue := value_plain hv (.strict depth) fuel ts'
  rw [entries]
  · simp only [hkey, expect, Token.isColon, bind, Except.bind, if_true, hvalue, h]
    rfl
  · simp
  · simp

theorem entries_further {es : List (String × Json)} (hes : ∀ e ∈ es, IsPlain e.2) (depth : Nat)
    {fuel : Nat} (hfuel : es.length < fuel) (ts : List Token) :
    entries (.strict depth) false fuel (further es ++ .closeBrace :: ts) = .ok (es, ts) := by
  induction es generalizing fuel with
  | nil =>
    obtain ⟨fuel, rfl⟩ : ∃ k, fuel = k + 1 := ⟨fuel - 1, by simp at hfuel; omega⟩
    rfl
  | cons e es ih =>
    obtain ⟨k, v⟩ := e
    obtain ⟨fuel, rfl⟩ : ∃ k, fuel = k + 2 := ⟨fuel - 2, by simp at hfuel; omega⟩
    have hlen : es.length < fuel + 1 := by simp at hfuel; omega
    have ih := ih (fun e he => hes e (List.mem_cons_of_mem _ he)) hlen
    refine entries_step (hes (k, v) List.mem_cons_self) ?_ ih
    simp [further, nextKey]

theorem entries_goEntries {es : List (String × Json)} (hes : ∀ e ∈ es, IsPlain e.2) (depth : Nat)
    {fuel : Nat} (hfuel : es.length < fuel) (ts : List Token) :
    entries (.strict depth) true fuel (toTokens.goEntries es ++ .closeBrace :: ts)
      = .ok (es, ts) := by
  rcases es with _ | ⟨⟨k, v⟩, es⟩
  · obtain ⟨fuel, rfl⟩ : ∃ k, fuel = k + 1 := ⟨fuel - 1, by simp at hfuel; omega⟩
    rfl
  · obtain ⟨fuel, rfl⟩ : ∃ k, fuel = k + 2 := ⟨fuel - 2, by simp at hfuel; omega⟩
    have hlen : es.length < fuel + 1 := by simp at hfuel; omega
    have hrest := entries_further (fun e he => hes e (List.mem_cons_of_mem _ he)) depth hlen ts
    refine entries_step (hes (k, v) List.mem_cons_self) ?_ hrest
    simp [goEntries_cons, nextKey]

theorem length_le_further (es : List (String × Json)) : es.length ≤ (further es).length := by
  induction es with
  | nil => simp
  | cons e es ih =>
    obtain ⟨k, v⟩ := e
    simp only [further, List.flatMap_cons, List.length_append, List.length_cons] at ih ⊢
    omega

theorem length_le_goEntries (es : List (String × Json)) :
    es.length ≤ (toTokens.goEntries es).length := by
  rcases es with _ | ⟨⟨k, v⟩, es⟩
  · simp
  · have := length_le_further es
    simp [goEntries_cons]
    omega

/-- An object of texts and whole numbers is read back from what it is written as. -/
theorem parse_write_obj {es : List (String × Json)} (hes : ∀ e ∈ es, IsPlain e.2) :
    parse (obj es).write = .ok (obj es) := by
  have htokens :
      tokens (obj es).write = .openBrace :: (toTokens.goEntries es ++ [.closeBrace]) := by
    have := cuts_obj hes _ (Nat.le_refl _)
    rwa [String.length_toList, toTokens] at this
  have hlen := length_le_goEntries es
  unfold parse
  rw [htokens]
  generalize hd : (Token.openBrace :: (toTokens.goEntries es ++ [Token.closeBrace])).length = n
  have hn : es.length + 2 ≤ n := by simp [← hd]; omega
  have hfuel : es.length < 2 * n := by omega
  have hentries := entries_goEntries hes (n + 1) hfuel []
  have hinside : (Care.strict (n + 2)).inside = some (.strict (n + 1)) := by simp [Care.inside]
  simp only [hd, document, value, hinside, hentries, bind, Except.bind]
  rfl

end Json

/-! ## Records -/

/-- Records written one after the other behind what is there already. -/
def Stages.append (g : Stages) : List Record → ByteArray → Option ByteArray
  | [], out => some out
  | r :: rs, out => do
    let line ← g.write r
    g.append rs (out ++ line)

namespace Record

/-- What the line of a record says: its timestamp, and then each field under its name, as far as
there are both a field and a name. -/
def entries (schema : Schema) (r : Record) : List (String × Json) :=
  ("timestamp", .int r.timestamp) ::
    List.ofFn fun i : Fin (min schema.arity r.fields.length) =>
      (schema.names.get (i.castLE (Nat.min_le_left ..)),
        .str (r.fields.get (i.castLE (Nat.min_le_right ..))).text)

theorem json_eq_entries (schema : Schema) (r : Record) :
    r.json schema = .obj (r.entries schema) := by
  rw [json, entries]
  congr 2
  refine List.ext_getElem ?_ fun i hi hi' => ?_
  · simp [Schema.arity]
  · simp only [List.getElem_map, List.getElem_zip, List.getElem_ofFn]
    rfl

/-- The timestamp is a signed number of 64 bits. -/
def IsTimed (r : Record) : Prop :=
  -0x8000000000000000 ≤ r.timestamp ∧ r.timestamp < 0x8000000000000000

instance (r : Record) : Decidable r.IsTimed :=
  inferInstanceAs (Decidable
    (-0x8000000000000000 ≤ r.timestamp ∧ r.timestamp < 0x8000000000000000))

theorem parse_json (schema : Schema) {r : Record} (h : r.IsTimed) :
    Json.parse (r.json schema).write = .ok (.obj (r.entries schema)) := by
  rw [json_eq_entries]
  refine Json.parse_write_obj fun e he => ?_
  rcases List.mem_cons.1 he with rfl | he
  · refine .int ⟨h.1, ?_⟩
    have := h.2
    unfold Text.maxWord
    omega
  · obtain ⟨i, rfl⟩ := List.mem_ofFn.1 he
    exact .str _

end Record

theorem append_standard (schema : Schema) (rules : List Rule) (rs : List Record)
    (out : ByteArray) :
    (Stages.standard schema rules).append rs out
      = some (out ++ joined (rs.map (Record.lineBytes schema))) := by
  induction rs generalizing out with
  | nil => simp [Stages.append]
  | cons r rs ih =>
    have hwrite : (Stages.standard schema rules).write r = some (r.lineBytes schema) := rfl
    simp [Stages.append, hwrite, ih, ByteArray.append_assoc]

theorem linesOf_joined {lines : List ByteArray} (h : ∀ line ∈ lines, IsLine line) :
    linesOf (joined lines) = lines := by
  induction lines with
  | nil => rfl
  | cons line lines ih =>
    have hl := h line List.mem_cons_self
    have hw : IsWhole line := by
      obtain ⟨m, hm, -⟩ := hl
      exact .inr ⟨m, hm⟩
    rw [joined_cons, linesOf_append hw, linesOf_line hl,
      ih fun l hm => h l (List.mem_cons_of_mem _ hm)]
    rfl

theorem count_joined {lines : List ByteArray} (h : ∀ line ∈ lines, IsLine line) :
    (joined lines).data.toList.count 10 = lines.length := by
  induction lines with
  | nil => rfl
  | cons line lines ih =>
    obtain ⟨m, hm, hbreak⟩ := h line List.mem_cons_self
    have hone : line.data.toList.count 10 = 1 := by
      rw [hm, List.count_append, List.count_eq_zero.2 hbreak]
      rfl
    rw [joined_cons, ByteArray.toList_data_append, List.count_append, hone,
      ih fun l hm => h l (List.mem_cons_of_mem _ hm), List.length_cons, Nat.add_comm]

/-- Records are always written, and leave what was there as it is. What they add has one line break
for each of them, at the end of its line, and the line reads as the timestamp of the record and then
its fields, in order, each under its name in the schema, as far as there are both. -/
theorem append_lines (schema : Schema) (rules : List Rule) (rs : List Record)
    (h : ∀ r ∈ rs, r.IsTimed) (out : ByteArray) :
    ∃ added, (Stages.standard schema rules).append rs out = some (out ++ added)
      ∧ added.data.toList.count 10 = rs.length
      ∧ List.Forall₂ (fun r line => ∃ s, line = (s ++ "\n").toUTF8 ∧ Unbroken s
          ∧ Json.parse s = .ok (.obj (r.entries schema)))
        rs (linesOf added) := by
  have hlines : ∀ line ∈ rs.map (Record.lineBytes schema), IsLine line := by
    intro line hline
    obtain ⟨r, -, rfl⟩ := List.mem_map.1 hline
    exact r.isLine_lineBytes schema
  refine ⟨_, append_standard schema rules rs out, ?_, ?_⟩
  · rw [count_joined hlines, List.length_map]
  · rw [linesOf_joined hlines, List.forall₂_map_right_iff, List.forall₂_same]
    exact fun r hr => ⟨_, rfl, r.unbroken_json schema, r.parse_json schema (h r hr)⟩

/-- A record of more fields than the schema has names, with quotation marks, breaks and control
characters in them, and one without fields, at the ends of time. -/
theorem append_lines_unruly :
    let schema : Schema := ⟨["level", "msg \"raw\""]⟩
    let rs : List Record :=
      [⟨-0x8000000000000000,
          [.ofString "\"\\\n", .ofString "\x01é\x1f\\u0041", .ofString "x"], 9⟩,
        ⟨0x7FFFFFFFFFFFFFFF, [], 0⟩]
    (∀ r ∈ rs, r.IsTimed)
      ∧ ∃ added, (Stages.standard schema []).append rs "x".toUTF8 = some ("x".toUTF8 ++ added)
        ∧ added.data.toList.count 10 = 2
        ∧ List.Forall₂ (fun r line => ∃ s, line = (s ++ "\n").toUTF8 ∧ Unbroken s
            ∧ Json.parse s = .ok (.obj (r.entries schema)))
          rs (linesOf added) := by
  intro schema rs
  have h : ∀ r ∈ rs, r.IsTimed := by decide
  exact ⟨h, append_lines schema [] rs h "x".toUTF8⟩

end LogPipeline
