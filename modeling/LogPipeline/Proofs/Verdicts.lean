import LogPipeline.Rule

/-!
# What a chain of rules does

What a chain of rules does to a record depends on the rules only through how patterns are matched
and what a text becomes when its matches are replaced, so it is shown for whatever does that, as
long as a text without matches stays as it is (`Matching`). Each field is masked on its own, by the
mask rules that are bound to it, in order (`Matching.masking`). A record is dropped by the first
rule that rejects the text of its field as the mask rules before it have left it, and it keeps what
these have written (`Matching.applyAll_cases`).
-/

namespace LogPipeline

namespace Record

theorem field_eq_getD (r : Record) (i : Nat) : r.field i = r.texts.getD i "" := by
  simp [field, texts, List.getD_eq_getElem?_getD]

theorem getElem?_setField_of_ne {i k : Nat} (h : i ≠ k) (r : Record) (s : String) :
    (r.setField i s).fields[k]? = r.fields[k]? := by
  simp [setField, h]

theorem field_of_texts {r : Record} {i : Nat} {s : String} (h : r.texts[i]? = some s) :
    r.field i = s := by
  rw [field_eq_getD, List.getD_eq_getElem?_getD, h, Option.getD_some]

theorem getElem?_texts_setField (r : Record) (i : Nat) (s : String) (k : Nat) :
    (r.setField i s).texts[k]? = r.texts[k]?.map fun t => if i = k then s else t := by
  simp only [texts, setField, List.getElem?_map, List.getElem?_modify]
  cases r.fields[k]? with
  | none => rfl
  | some f => by_cases hk : i = k <;> simp [hk]

end Record

/-- A text without matches has none to be replaced. -/
theorem Pattern.Regex.replaceAll?_eq_none {regex : Pattern.Regex} {s : String}
    (h : regex.isMatch s = false) (placeholder : String) :
    regex.replaceAll? placeholder s = none := by
  have hfind : regex.find? s.toList.toArray 0 = none := by simpa [isMatch] using h
  simp [replaceAll?, matchesFrom, hfind]

namespace Rule

/-- A rule masks a field. -/
def Masks (rule : Rule) (k : Nat) : Prop := rule.kind = .mask ∧ rule.field = k

instance (rule : Rule) (k : Nat) : Decidable (rule.Masks k) :=
  inferInstanceAs (Decidable (_ ∧ _))

end Rule

/-- How patterns are matched, and what a text becomes when its matches are replaced, if anything is
replaced at all. A text without matches stays as it is. -/
structure Matching where
  isMatch : Pattern.Regex → String → Bool
  replaceAll? : Pattern.Regex → String → String → Option String
  unmatched : ∀ regex placeholder s t, isMatch regex s = false →
    replaceAll? regex placeholder s = some t → t = s

namespace Matching

/-! ## Chains of rules -/

section

variable (m : Matching)

def drops (rule : Rule) (r : Record) : Bool :=
  match rule.kind with
  | .exclude => m.isMatch rule.regex (r.field rule.field)
  | .keep => !m.isMatch rule.regex (r.field rule.field)
  | .mask => false

def masked (rule : Rule) (r : Record) : Record :=
  match rule.kind with
  | .mask =>
    match m.replaceAll? rule.regex rule.placeholder (r.field rule.field) with
    | some s => r.setField rule.field s
    | none => r
  | _ => r

/-- Applies a chain of rules. -/
def applyAll : List Rule → Record → Verdict × Record
  | [], r => (.pass, r)
  | rule :: rest, r => if m.drops rule r then (.drop, r) else applyAll rest (m.masked rule r)

/-- A rule that drops records drops one with this text in its field. -/
def Rejects (rule : Rule) (s : String) : Prop :=
  rule.kind = .exclude ∧ m.isMatch rule.regex s = true
    ∨ rule.kind = .keep ∧ m.isMatch rule.regex s = false

instance (rule : Rule) (s : String) : Decidable (m.Rejects rule s) :=
  inferInstanceAs (Decidable (_ ∧ _ ∨ _ ∧ _))

/-- A text with every match replaced. -/
def replaced (s : String) (rule : Rule) : String :=
  (m.replaceAll? rule.regex rule.placeholder s).getD s

/-- The texts of fields after mask rules, each bound to one field, were applied in order. -/
def masking (rules : List Rule) (texts : List String) : List String :=
  texts.mapIdx fun k s => (rules.filter (·.Masks k)).foldl m.replaced s

/-- A rule of a chain rejects the text of its field as the mask rules before it leave it. A field
that is missing counts as empty. -/
def RejectsAt (rules : List Rule) (r : Record) (i : Nat) : Prop :=
  ∃ rule, rules[i]? = some rule
    ∧ m.Rejects rule ((m.masking (rules.take i) r.texts).getD rule.field "")

instance (rules : List Rule) (r : Record) (i : Nat) : Decidable (m.RejectsAt rules r i) :=
  match h : rules[i]? with
  | none => isFalse fun ⟨_, hrule, _⟩ => nomatch h.symm.trans hrule
  | some rule =>
    decidable_of_iff (m.Rejects rule ((m.masking (rules.take i) r.texts).getD rule.field ""))
      ⟨fun hrejects => ⟨rule, h, hrejects⟩, fun ⟨_, hrule, hrejects⟩ =>
        Option.some.inj (h.symm.trans hrule) ▸ hrejects⟩

/-- What is left of a record after mask rules were applied: nothing but texts of fields that they
are bound to has changed, and these only if they match. -/
structure Leaves (rules : List Rule) (r r' : Record) : Prop where
  texts : r'.texts = m.masking rules r.texts
  timestamp : r'.timestamp = r.timestamp
  size : r'.size = r.size
  length : r'.fields.length = r.fields.length
  unbound : ∀ k, (∀ rule ∈ rules, ¬ rule.Masks k) → r'.fields[k]? = r.fields[k]?
  unmatched : ∀ k, (∀ rule ∈ rules, rule.Masks k → m.isMatch rule.regex (r.field k) = false) →
    r'.field k = r.field k

end

/-- The search that rules are applied with. -/
def search : Matching where
  isMatch := Pattern.Regex.isMatch
  replaceAll? := Pattern.Regex.replaceAll?
  unmatched regex placeholder s t hs ht := by
    rw [Pattern.Regex.replaceAll?_eq_none hs] at ht
    cases ht

theorem applyAll_search (rules : List Rule) (r : Record) :
    Rule.applyAll rules r = search.applyAll rules r := by
  induction rules generalizing r with
  | nil => rfl
  | cons rule rest ih =>
    rw [Rule.applyAll, applyAll, ih]
    rfl

variable {m : Matching} {rule : Rule} {rules : List Rule} {r r' r'' : Record}

/-! ## Masking -/

theorem masking_append (a b : List Rule) (texts : List String) :
    m.masking (a ++ b) texts = m.masking b (m.masking a texts) := by
  simp [masking, List.mapIdx_mapIdx, List.foldl_append, Function.comp_def]

theorem getElem?_masking_singleton (rule : Rule) (texts : List String) (k : Nat) :
    (m.masking [rule] texts)[k]?
      = texts[k]?.map fun s => if rule.Masks k then m.replaced s rule else s := by
  rw [masking, List.getElem?_mapIdx]
  by_cases hk : rule.Masks k <;> simp [hk]

theorem masked_of_mask (h : rule.kind = .mask) (r : Record) :
    m.masked rule r = r.setField rule.field (m.replaced (r.field rule.field) rule)
      ∨ m.masked rule r = r ∧ m.replaced (r.field rule.field) rule = r.field rule.field := by
  simp only [masked, h, replaced]
  cases m.replaceAll? rule.regex rule.placeholder (r.field rule.field) with
  | none => exact .inr ⟨rfl, rfl⟩
  | some s => exact .inl rfl

theorem masked_of_ne_mask (h : rule.kind ≠ .mask) (r : Record) : m.masked rule r = r := by
  unfold masked
  split
  · exact absurd ‹_› h
  · rfl

theorem masked_cases (rule : Rule) (r : Record) :
    m.masked rule r = r ∨ ∃ s, m.masked rule r = r.setField rule.field s := by
  by_cases hkind : rule.kind = .mask
  · rcases masked_of_mask hkind r with h | ⟨h, -⟩
    · exact .inr ⟨_, h⟩
    · exact .inl h
  · exact .inl (masked_of_ne_mask hkind r)

theorem texts_masked (rule : Rule) (r : Record) :
    (m.masked rule r).texts = m.masking [rule] r.texts := by
  refine List.ext_getElem? fun k => ?_
  rw [getElem?_masking_singleton]
  by_cases hkind : rule.kind = .mask
  · have hbound : rule.Masks k ↔ rule.field = k := and_iff_right hkind
    rcases masked_of_mask hkind r with h | ⟨h, hsame⟩
    · rw [h, Record.getElem?_texts_setField]
      refine Option.map_congr fun t ht => ?_
      by_cases hk : rule.field = k
      · rw [if_pos hk, if_pos (hbound.2 hk), hk, Record.field_of_texts ht]
      · rw [if_neg hk, if_neg (mt hbound.1 hk)]
    · rw [h]
      cases ht : r.texts[k]? with
      | none => rfl
      | some t =>
        by_cases hk : rule.field = k
        · rw [hk, Record.field_of_texts ht] at hsame
          simp [hbound.2 hk, hsame]
        · simp [mt hbound.1 hk]
  · rw [masked_of_ne_mask hkind]
    simp [Rule.Masks, hkind]

theorem replaced_of_unmatched {s : String} (h : m.isMatch rule.regex s = false) :
    m.replaced s rule = s := by
  rw [replaced]
  cases ht : m.replaceAll? rule.regex rule.placeholder s with
  | none => rfl
  | some t => exact m.unmatched _ _ _ _ h ht

theorem leaves_nil (r : Record) : m.Leaves [] r r where
  texts := List.ext_getElem? fun k => by simp [masking]
  timestamp := rfl
  size := rfl
  length := rfl
  unbound _ _ := rfl
  unmatched _ _ := rfl

theorem leaves_masked (rule : Rule) (r : Record) : m.Leaves [rule] r (m.masked rule r) where
  texts := texts_masked rule r
  timestamp := by
    rcases masked_cases rule r with h | ⟨s, h⟩ <;> rw [h]
    rfl
  size := by
    rcases masked_cases rule r with h | ⟨s, h⟩ <;> rw [h]
    rfl
  length := by
    rcases masked_cases rule r with h | ⟨s, h⟩ <;> rw [h]
    exact r.length_setField _ s
  unbound k hk := by
    have hk := hk rule List.mem_cons_self
    by_cases hkind : rule.kind = .mask
    · have hfield : rule.field ≠ k := fun h => hk ⟨hkind, h⟩
      rcases masked_of_mask hkind r with h | ⟨h, -⟩
      · rw [h, Record.getElem?_setField_of_ne hfield]
      · rw [h]
    · rw [masked_of_ne_mask hkind]
  unmatched k hk := by
    have hk := hk rule List.mem_cons_self
    have hat := getElem?_masking_singleton (m := m) rule r.texts k
    rw [← texts_masked] at hat
    rw [Record.field_eq_getD, Record.field_eq_getD, List.getD_eq_getElem?_getD,
      List.getD_eq_getElem?_getD, hat]
    cases ht : r.texts[k]? with
    | none => rfl
    | some t =>
      rw [Record.field_of_texts ht] at hk
      by_cases hmasks : rule.Masks k
      · simp [hmasks, replaced_of_unmatched (hk hmasks)]
      · simp [hmasks]

theorem Leaves.append {a b : List Rule} (h : m.Leaves a r r') (h' : m.Leaves b r' r'') :
    m.Leaves (a ++ b) r r'' where
  texts := by rw [h'.texts, h.texts, masking_append]
  timestamp := h'.timestamp.trans h.timestamp
  size := h'.size.trans h.size
  length := h'.length.trans h.length
  unbound k hk := by
    obtain ⟨ha, hb⟩ := List.forall_mem_append.1 hk
    exact (h'.unbound k hb).trans (h.unbound k ha)
  unmatched k hk := by
    obtain ⟨ha, hb⟩ := List.forall_mem_append.1 hk
    have hfield := h.unmatched k ha
    rw [← hfield] at hb
    exact (h'.unmatched k hb).trans hfield

/-! ## Verdicts -/

theorem drops_iff (rule : Rule) (r : Record) :
    m.drops rule r = true ↔ m.Rejects rule (r.field rule.field) := by
  unfold drops Rejects
  cases rule.kind <;> simp

theorem rejectsAt_zero : m.RejectsAt (rule :: rules) r 0 ↔ m.drops rule r = true := by
  have htexts : m.masking [] r.texts = r.texts := (leaves_nil r).texts.symm
  rw [drops_iff, Record.field_eq_getD]
  simp [RejectsAt, htexts]

theorem rejectsAt_succ {i : Nat} :
    m.RejectsAt (rule :: rules) r (i + 1) ↔ m.RejectsAt rules (m.masked rule r) i := by
  rw [RejectsAt, RejectsAt, texts_masked, ← masking_append, List.take_succ_cons]
  rfl

/-- Either some rule is the first to reject its text, and the record is dropped as the rules before
it leave it, or none does, and the record passes as all of them leave it. -/
theorem applyAll_cases (rules : List Rule) (r : Record) :
    (∃ i, m.RejectsAt rules r i ∧ (∀ j < i, ¬ m.RejectsAt rules r j)
        ∧ (m.applyAll rules r).1 = .drop ∧ m.Leaves (rules.take i) r (m.applyAll rules r).2)
      ∨ (∀ i, ¬ m.RejectsAt rules r i) ∧ (m.applyAll rules r).1 = .pass
        ∧ m.Leaves rules r (m.applyAll rules r).2 := by
  induction rules generalizing r with
  | nil =>
    refine .inr ⟨?_, rfl, leaves_nil r⟩
    rintro i ⟨rule, hrule, -⟩
    cases hrule
  | cons rule rules ih =>
    rw [applyAll]
    by_cases hdrop : m.drops rule r = true
    · rw [if_pos hdrop]
      exact .inl ⟨0, rejectsAt_zero.2 hdrop, fun j hj => absurd hj (Nat.not_lt_zero j), rfl,
        leaves_nil r⟩
    · rw [if_neg hdrop]
      have hmasked := m.leaves_masked rule r
      rcases ih (m.masked rule r) with
        ⟨i, hi, hfirst, hverdict, hleaves⟩ | ⟨hnone, hverdict, hleaves⟩
      · refine .inl ⟨i + 1, rejectsAt_succ.2 hi, fun j hj => ?_, hverdict, ?_⟩
        · cases j with
          | zero => exact mt rejectsAt_zero.1 hdrop
          | succ j => exact mt rejectsAt_succ.1 (hfirst j (Nat.lt_of_succ_lt_succ hj))
        · rw [List.take_succ_cons]
          exact hmasked.append hleaves
      · refine .inr ⟨fun i => ?_, hverdict, hmasked.append hleaves⟩
        cases i with
        | zero => exact mt rejectsAt_zero.1 hdrop
        | succ i => exact mt rejectsAt_succ.1 (hnone i)

theorem applyAll_append (a b : List Rule) (r : Record) :
    m.applyAll (a ++ b) r =
      match m.applyAll a r with
      | (.drop, r') => (.drop, r')
      | (.pass, r') => m.applyAll b r' := by
  induction a generalizing r with
  | nil => rfl
  | cons rule a ih =>
    rw [List.cons_append, applyAll, applyAll]
    split
    · rfl
    · exact ih _

end Matching

/-- However patterns are matched, and whatever a text becomes when its matches are replaced, as long
as a text without matches stays as it is: a chain of rules drops a record exactly if one of them
rejects the text of its field as the mask rules before it leave it. What is left of the record are
the masks before the first such rule, or all of them if it passes. Two chains, one after the other,
are one chain. The rules of a worker are applied in this way, with the search for their patterns. -/
theorem leaves_applyAll (m : Matching) (rules : List Rule) (r : Record) :
    ((m.applyAll rules r).1 = .drop ↔ ∃ i, m.RejectsAt rules r i)
      ∧ (∀ i, m.RejectsAt rules r i → (∀ j < i, ¬ m.RejectsAt rules r j) →
        m.Leaves (rules.take i) r (m.applyAll rules r).2)
      ∧ ((m.applyAll rules r).1 = .pass → m.Leaves rules r (m.applyAll rules r).2)
      ∧ (∀ more, m.applyAll (rules ++ more) r =
        match m.applyAll rules r with
        | (.drop, r') => (.drop, r')
        | (.pass, r') => m.applyAll more r')
      ∧ Rule.applyAll rules r = Matching.search.applyAll rules r := by
  have happend := fun more => m.applyAll_append rules more r
  have hsearch := Matching.applyAll_search rules r
  rcases m.applyAll_cases rules r with
    ⟨i, hi, hfirst, hverdict, hleaves⟩ | ⟨hnone, hverdict, hleaves⟩
  · refine ⟨iff_of_true hverdict ⟨i, hi⟩, fun k hk hkfirst => ?_, fun hpass => ?_, happend, hsearch⟩
    · obtain rfl : i = k := Nat.le_antisymm
        (Nat.le_of_not_lt fun h => hfirst k h hk) (Nat.le_of_not_lt fun h => hkfirst i h hi)
      exact hleaves
    · rw [hverdict] at hpass
      cases hpass
  · refine ⟨?_, fun i hi => absurd hi (hnone i), fun _ => hleaves, happend, hsearch⟩
    rw [hverdict]
    exact iff_of_false nofun fun ⟨i, hi⟩ => hnone i hi

/-- A rule that drops debug output, between two that mask, the second of which would mask what the
first has written. -/
theorem leaves_applyAll_debug :
    let schema : Schema := ⟨["level", "msg"]⟩
    let settings : List RuleSettings :=
      [⟨.mask, "secrets", "msg", "secret", some "***"⟩, ⟨.exclude, "noise", "level", "debug", none⟩,
        ⟨.mask, "stars", "msg", "[*]", some "#"⟩]
    let rules := (Rule.compileAll schema settings).toOption.getD []
    let r : Record := ⟨1, [.ofString "debug", .ofString "a secret"], 9⟩
    rules.length = 3 ∧ Matching.search.RejectsAt rules r 1
      ∧ (∀ j < 1, ¬ Matching.search.RejectsAt rules r j)
      ∧ Matching.search.Leaves (rules.take 1) r (Matching.search.applyAll rules r).2
      ∧ (Rule.applyAll rules r).2.texts = ["debug", "a ***"] := by
  intro schema settings rules r
  have hrejects : Matching.search.RejectsAt rules r 1 := by decide +kernel
  have hfirst : ∀ j < 1, ¬ Matching.search.RejectsAt rules r j := by decide +kernel
  have hleaves := (leaves_applyAll Matching.search rules r).2.1 1 hrejects hfirst
  exact ⟨by decide +kernel, hrejects, hfirst, hleaves, by decide +kernel⟩

/-- A record that passes carries all masks, each over what the one before it has written. -/
example :
    let schema : Schema := ⟨["level", "msg"]⟩
    let settings : List RuleSettings :=
      [⟨.mask, "secrets", "msg", "secret", some "***"⟩, ⟨.mask, "stars", "msg", "[*]", some "#"⟩]
    let rules := (Rule.compileAll schema settings).toOption.getD []
    (Rule.applyAll rules ⟨1, [.ofString "info", .ofString "a secret"], 9⟩).2.texts
      = ["info", "a ###"] := by
  decide +kernel

end LogPipeline
