import LogPipeline.Proofs.Lines

/-!
# What becomes of records

Every record that was sent has one fate: it waits, is written, was delivered, was filtered, or was
lost, as a record or in a chunk. What a pipeline holds is the list of its records that wait and its
lines that are not delivered yet, in the order of the records sent (`Ledger`). Whatever a step does
to what is held (`Edit`), the fates can be revised to fit (`Ledger.edit`, `Ledger.deliver`), so what
was delivered is always a part of what should be, in order.
-/

namespace LogPipeline

/-- What has become of a record. The number of a chunk is its place among those dropped. -/
inductive Fate where
  | waiting
  | written
  | delivered
  | filtered
  | lost
  | dropped (chunk : Nat)
deriving DecidableEq

/-- A record and its fate. -/
structure Entry where
  record : Record
  fate : Fate

/-- What a pipeline holds or has delivered. -/
inductive Item where
  | out (line : ByteArray)
  | line (line : ByteArray)
  | record (r : Record)

/-- The line that is made of an item, if it passes the rules. -/
def Item.line? (g : Stages) : Item → Option ByteArray
  | out l | line l => some l
  | record r => g.line? r

/-- The item that an item becomes under a new fate. -/
def Item.turned? (g : Stages) (f : Fate) (i : Item) : Option Item :=
  match f with
  | .written => (i.line? g).map .line
  | .delivered => (i.line? g).map .out
  | _ => none

namespace Entry

variable {g : Stages} {f : Fate} {e : Entry} {i : Item}

/-- The line that the record should be written as. -/
def line? (g : Stages) (e : Entry) : Option ByteArray := g.line? e.record

/-- What there is of the record. -/
def item (g : Stages) (e : Entry) : Option Item :=
  match e.fate with
  | .waiting => some (.record e.record)
  | .written => (e.line? g).map .line
  | .delivered => (e.line? g).map .out
  | _ => none

/-- The fate goes with what the rules say of the record. -/
def Fair (g : Stages) (e : Entry) : Prop :=
  match e.fate with
  | .filtered => e.line? g = none
  | .written | .delivered | .dropped _ => (e.line? g).isSome = true
  | _ => True

/-- The record has a new fate, if there was something of it. -/
def mark (g : Stages) (f : Fate) (e : Entry) : Entry :=
  if (e.item g).isSome then { e with fate := f } else e

@[simp] theorem record_mark : (e.mark g f).record = e.record := by
  unfold mark
  split <;> rfl

@[simp] theorem line_mark : (e.mark g f).line? g = e.line? g := by
  simp [line?]

theorem mark_of_item (hi : e.item g = some i) : e.mark g f = { e with fate := f } := by
  simp [mark, hi]

theorem mark_of_none (hi : e.item g = none) : e.mark g f = e := by
  simp [mark, hi]

theorem line_of_item (hi : e.item g = some i) : e.line? g = i.line? g := by
  unfold item at hi
  split at hi
  · obtain rfl := Option.some.inj hi
    rfl
  · obtain ⟨l, hl, rfl⟩ := Option.map_eq_some_iff.1 hi
    exact hl
  · obtain ⟨l, hl, rfl⟩ := Option.map_eq_some_iff.1 hi
    exact hl
  · simp at hi

theorem item_mark (hf : f ≠ .waiting) (hi : e.item g = some i) :
    (e.mark g f).item g = i.turned? g f := by
  rw [mark_of_item hi]
  have hl := line_of_item hi
  cases f with
  | waiting => exact absurd rfl hf
  | written => simp [item, Item.turned?, ← hl, line?]
  | delivered => simp [item, Item.turned?, ← hl, line?]
  | _ => rfl

theorem fate_of_item (hi : e.item g = some i) :
    e.fate ≠ .filtered ∧ e.fate ≠ .lost ∧ ∀ k, e.fate ≠ .dropped k := by
  unfold item at hi
  cases hf : e.fate <;> simp_all

end Entry

/-! ## Marking a segment -/

section Mark

variable {g : Stages} {f : Fate} {x : List Entry}

theorem filterMap_mark (hf : f ≠ .waiting) :
    (x.map (Entry.mark g f)).filterMap (Entry.item g)
      = (x.filterMap (Entry.item g)).filterMap (Item.turned? g f) := by
  induction x with
  | nil => rfl
  | cons e x ih =>
    rcases hi : e.item g with _ | i
    · rw [List.map_cons, Entry.mark_of_none hi, List.filterMap_cons_none hi,
        List.filterMap_cons_none hi, ih]
    · rw [List.map_cons, List.filterMap_cons_some hi, List.filterMap_cons, List.filterMap_cons,
        Entry.item_mark hf hi, ih]

theorem filter_mark {f' : Fate} (hne : f' ≠ f)
    (hf' : f' = .lost ∨ ∃ k, f' = .dropped k) :
    (x.map (Entry.mark g f)).filter (·.fate = f') = x.filter (·.fate = f') := by
  induction x with
  | nil => rfl
  | cons e x ih =>
    rcases hi : e.item g with _ | i
    · rw [List.map_cons, Entry.mark_of_none hi, List.filter_cons, List.filter_cons, ih]
    · obtain ⟨-, h1, h2⟩ := Entry.fate_of_item hi
      have hold : e.fate ≠ f' := by
        rcases hf' with rfl | ⟨k, rfl⟩
        · exact h1
        · exact h2 k
      rw [List.map_cons, Entry.mark_of_item hi, List.filter_cons_of_neg (by simpa using hne.symm),
        List.filter_cons_of_neg (by simpa using hold), ih]

theorem lines_mark {k : Nat} (hno : ∀ e ∈ x, e.fate ≠ .dropped k) :
    ((x.map (Entry.mark g (.dropped k))).filter (·.fate = .dropped k)).filterMap (Entry.line? g)
      = (x.filterMap (Entry.item g)).filterMap (Item.line? g) := by
  induction x with
  | nil => rfl
  | cons e x ih =>
    have ih := ih fun e he => hno e (List.mem_cons_of_mem _ he)
    rcases hi : e.item g with _ | i
    · have hold := hno e List.mem_cons_self
      rw [List.map_cons, Entry.mark_of_none hi, List.filter_cons_of_neg (by simpa using hold),
        List.filterMap_cons_none hi, ih]
    · rw [List.map_cons, Entry.mark_of_item hi, List.filter_cons_of_pos (by simp),
        List.filterMap_cons_some hi, List.filterMap_cons, List.filterMap_cons, ih,
        ← Entry.line_of_item hi]
      rfl

theorem lost_mark {rs : List Record} (hx : x.filterMap (Entry.item g) = rs.map .record) :
    (((x.map (Entry.mark g .lost)).filter (·.fate = .lost)).map Entry.record).Perm
      ((x.filter (·.fate = .lost)).map Entry.record ++ rs) := by
  induction x generalizing rs with
  | nil =>
    obtain rfl := List.map_eq_nil_iff.1 hx.symm
    exact .refl _
  | cons e x ih =>
    rcases hi : e.item g with _ | i
    · rw [List.filterMap_cons_none hi] at hx
      rw [List.map_cons, Entry.mark_of_none hi, List.filter_cons, List.filter_cons]
      split
      · exact (ih hx).cons _
      · exact ih hx
    · rw [List.filterMap_cons_some hi] at hx
      obtain ⟨r, rs, rfl, rfl, hrs⟩ := List.map_eq_cons_iff.1 hx.symm
      have hr : e.record = r ∧ e.fate = .waiting := by
        unfold Entry.item at hi
        cases hf : e.fate <;> simp_all
      rw [List.map_cons, Entry.mark_of_item hi, List.filter_cons_of_pos (by simp),
        List.filter_cons_of_neg (by simp [hr.2]), List.map_cons]
      exact ((ih hrs.symm).cons _).trans (hr.1 ▸ List.perm_middle.symm)

end Mark

/-! ## Ledgers -/

/-- An account of all records sent: what was delivered and what is still held, in order, with the
chunks and the records that were lost on the way. -/
structure Ledger (g : Stages) (sent : List Record) (outs : List ByteArray) (flow : List Item)
    (chunks : List Chunk) (lost : List Record) (es : List Entry) : Prop where
  records : es.map Entry.record = sent
  items : es.filterMap (Entry.item g) = outs.map .out ++ flow
  fair : ∀ e ∈ es, e.Fair g
  known : ∀ e ∈ es, ∀ k, e.fate = .dropped k → k < chunks.length
  dropped : ∀ k c, chunks[k]? = some c →
    (es.filter (·.fate = .dropped k)).filterMap (Entry.line? g) = c.lines
  lost : ((es.filter (·.fate = .lost)).map Entry.record).Perm lost

/-- How a step changes what is held, with the chunks and records that it loses. -/
inductive Edit (g : Stages) : List Chunk → List Record → List Item → List Item → Prop where
  | keep {l : List Item} : Edit g [] [] l l
  | filter {a b : List Item} {r : Record} (hl : g.line? r = none) :
    Edit g [] [] (a ++ .record r :: b) (a ++ b)
  | write {a b : List Item} {r : Record} {line : ByteArray} (hl : g.line? r = some line) :
    Edit g [] [] (a ++ .record r :: b) (a ++ .line line :: b)
  | lose {a b : List Item} (rs : List Record) : Edit g [] rs (a ++ rs.map .record ++ b) (a ++ b)
  | drop {a b : List Item} (c : Chunk) : Edit g [c] [] (a ++ c.lines.map .line ++ b) (a ++ b)

/-- An edit of a part is an edit of the whole. -/
theorem Edit.frame {g : Stages} {cs : List Chunk} {rs : List Record} {l l' : List Item}
    (h : Edit g cs rs l l') (a b : List Item) : Edit g cs rs (a ++ l ++ b) (a ++ l' ++ b) := by
  cases h with
  | keep => exact .keep
  | @filter a' b' r hl => simpa using Edit.filter (a := a ++ a') (b := b' ++ b) hl
  | @write a' b' r line hl => simpa using Edit.write (a := a ++ a') (b := b' ++ b) hl
  | @lose a' b' rs => simpa using Edit.lose (g := g) (a := a ++ a') (b := b' ++ b) rs
  | @drop a' b' c => simpa using Edit.drop (g := g) (a := a ++ a') (b := b' ++ b) c

namespace Ledger

variable {g : Stages} {sent : List Record} {outs outs' : List ByteArray} {flow flow' : List Item}
  {chunks : List Chunk} {lost : List Record} {es : List Entry}

/-- A segment of what there is, cut out of the entries. -/
theorem exists_segment {φ : Entry → Option Item} {a x b : List Item}
    (h : es.filterMap φ = a ++ x ++ b) :
    ∃ ea ex eb, es = ea ++ ex ++ eb ∧ ea.filterMap φ = a ∧ ex.filterMap φ = x
      ∧ eb.filterMap φ = b := by
  obtain ⟨eax, eb, rfl, hax, hb⟩ := List.filterMap_eq_append_iff.1 h
  obtain ⟨ea, ex, rfl, ha, hx⟩ := List.filterMap_eq_append_iff.1 hax
  exact ⟨ea, ex, eb, rfl, ha, hx, hb⟩

/-- A segment has a new fate. What goes with the fate is left to be shown. -/
theorem revise (h : Ledger g sent outs flow chunks lost es) {f : Fate} (hf : f ≠ .waiting)
    {a x b : List Item} (hold : outs.map .out ++ flow = a ++ x ++ b)
    (hfair : ∀ i ∈ x, ∀ e : Entry, e.line? g = i.line? g → e.fate = f → e.Fair g)
    (hnew : outs'.map .out ++ flow' = a ++ x.filterMap (Item.turned? g f) ++ b) :
    ∃ ea ex eb, es = ea ++ ex ++ eb ∧ ex.filterMap (Entry.item g) = x
      ∧ (ea ++ ex.map (Entry.mark g f) ++ eb).map Entry.record = sent
      ∧ (ea ++ ex.map (Entry.mark g f) ++ eb).filterMap (Entry.item g) = outs'.map .out ++ flow'
      ∧ ∀ e ∈ ea ++ ex.map (Entry.mark g f) ++ eb, e.Fair g ∧ (e.fate = f ∨ e ∈ es) := by
  obtain ⟨ea, ex, eb, rfl, ha, hx, hb⟩ := exists_segment (h.items.trans hold)
  refine ⟨ea, ex, eb, rfl, hx, ?_, ?_, fun e he => ?_⟩
  · rw [← h.records]
    simp
  · rw [hnew, List.filterMap_append, List.filterMap_append, filterMap_mark hf, ha, hx, hb]
  · rw [List.mem_append, List.mem_append] at he
    rcases he with (he | he) | he
    · have hmem : e ∈ ea ++ ex ++ eb := by simp [he]
      exact ⟨h.fair e hmem, .inr hmem⟩
    · obtain ⟨e, hex, rfl⟩ := List.mem_map.1 he
      have hmem : e ∈ ea ++ ex ++ eb := by simp [hex]
      rcases hi : e.item g with _ | i
      · rw [Entry.mark_of_none hi]
        exact ⟨h.fair e hmem, .inr hmem⟩
      · have hix : i ∈ x := hx ▸ List.mem_filterMap.2 ⟨e, hex, hi⟩
        have hl := Entry.line_of_item hi
        rw [Entry.mark_of_item hi]
        exact ⟨hfair i hix _ hl rfl, .inl rfl⟩
    · have hmem : e ∈ ea ++ ex ++ eb := by simp [he]
      exact ⟨h.fair e hmem, .inr hmem⟩

theorem advance (h : Ledger g sent outs flow chunks lost es) {f : Fate} (hf : f ≠ .waiting)
    (hf' : f ≠ .lost ∧ ∀ k, f ≠ .dropped k)
    {a x b : List Item} (hold : outs.map .out ++ flow = a ++ x ++ b)
    (hfair : ∀ i ∈ x, ∀ e : Entry, e.line? g = i.line? g → e.fate = f → e.Fair g)
    (hnew : outs'.map .out ++ flow' = a ++ x.filterMap (Item.turned? g f) ++ b) :
    ∃ es', Ledger g sent outs' flow' chunks lost es' := by
  obtain ⟨ea, ex, eb, rfl, -, h1, h2, h3⟩ := h.revise hf hold hfair hnew
  refine ⟨_, h1, h2, fun e he => (h3 e he).1, fun e he k hk => ?_, fun k c hc => ?_, ?_⟩
  · rcases (h3 e he).2 with hef | he
    · exact absurd (hef.symm.trans hk) (hf'.2 k)
    · exact h.known e he k hk
  · rw [← h.dropped k c hc]
    simp only [List.filter_append, filter_mark (hf'.2 k).symm (.inr ⟨k, rfl⟩)]
  · have := h.lost
    simp only [List.filter_append] at this
    simpa only [List.filter_append, filter_mark hf'.1.symm (.inl rfl)] using this

theorem deliver {ls : List ByteArray}
    (h : Ledger g sent outs (ls.map .line ++ flow) chunks lost es) :
    ∃ es', Ledger g sent (outs ++ ls) flow chunks lost es' := by
  have hturn : (ls.map Item.line).filterMap (Item.turned? g .delivered) = ls.map .out := by
    rw [List.filterMap_map]
    exact congrFun List.filterMap_eq_map ls
  refine h.advance (f := .delivered) (a := outs.map .out) (x := ls.map .line) (b := flow)
    (by simp) (by simp) (by simp) ?_ ?_
  · intro i hi e hl hf
    obtain ⟨l, -, rfl⟩ := List.mem_map.1 hi
    simp [Entry.Fair, hf, hl, Item.line?]
  · rw [hturn, List.map_append]

theorem lose {rs : List Record} {a b : List Item}
    (h : Ledger g sent outs (a ++ rs.map .record ++ b) chunks lost es) :
    ∃ es', Ledger g sent outs (a ++ b) chunks (lost ++ rs) es' := by
  have hturn : (rs.map Item.record).filterMap (Item.turned? g .lost) = [] :=
    List.filterMap_eq_nil_iff.2 fun _ _ => rfl
  have hnew : outs.map .out ++ (a ++ b) = outs.map .out ++ a
      ++ (rs.map Item.record).filterMap (Item.turned? g .lost) ++ b := by simp [hturn]
  obtain ⟨ea, ex, eb, rfl, hx, h1, h2, h3⟩ := h.revise (by simp) (by simp)
    (fun _ _ e _ hf => by simp [Entry.Fair, hf]) hnew
  refine ⟨_, h1, h2, fun e he => (h3 e he).1, fun e he k hk => ?_, fun k c hc => ?_, ?_⟩
  · rcases (h3 e he).2 with hef | he
    · simp [hef] at hk
    · exact h.known e he k hk
  · rw [← h.dropped k c hc]
    simp only [List.filter_append, filter_mark (show Fate.dropped k ≠ .lost by simp)
      (.inr ⟨k, rfl⟩)]
  · have hlost := h.lost
    simp only [List.filter_append, List.map_append] at hlost ⊢
    refine (((lost_mark hx).append_left _).append_right _).trans ?_
    refine .trans ?_ (hlost.append_right rs)
    simp only [List.append_assoc]
    exact (List.perm_append_comm.append_left _).append_left _

theorem drop {c : Chunk} {a b : List Item}
    (h : Ledger g sent outs (a ++ c.lines.map .line ++ b) chunks lost es) :
    ∃ es', Ledger g sent outs (a ++ b) (chunks ++ [c]) lost es' := by
  have hturn : (c.lines.map Item.line).filterMap (Item.turned? g (.dropped chunks.length)) = [] :=
    List.filterMap_eq_nil_iff.2 fun _ _ => rfl
  have hnew : outs.map .out ++ (a ++ b) = outs.map .out ++ a
      ++ (c.lines.map Item.line).filterMap (Item.turned? g (.dropped chunks.length)) ++ b := by
    simp [hturn]
  obtain ⟨ea, ex, eb, rfl, hx, h1, h2, h3⟩ := h.revise (by simp) (by simp)
    (fun i hi e hl hf => by
      obtain ⟨l, -, rfl⟩ := List.mem_map.1 hi
      simp [Entry.Fair, hf, hl, Item.line?]) hnew
  -- the new number is not in use yet
  have hnew : ∀ e ∈ ea ++ ex ++ eb, e.fate ≠ .dropped chunks.length := fun e he hf =>
    Nat.lt_irrefl _ (h.known e he _ hf)
  refine ⟨_, h1, h2, fun e he => (h3 e he).1, fun e he k hk => ?_, fun k d hd => ?_, ?_⟩
  · rw [List.length_append]
    rcases (h3 e he).2 with hef | he
    · obtain rfl : chunks.length = k := by simpa [hef] using hk
      simp
    · have := h.known e he k hk
      omega
  · rw [List.getElem?_append] at hd
    split at hd
    · rename_i hk
      rw [← h.dropped k d hd]
      have hne : Fate.dropped k ≠ .dropped chunks.length := by simpa using Nat.ne_of_lt hk
      simp only [List.filter_append, filter_mark hne (.inr ⟨k, rfl⟩)]
    · obtain ⟨hk, rfl⟩ := List.getElem?_eq_some_iff.1 hd
      obtain rfl : k = chunks.length := by
        simp at hk
        omega
      have ha : ea.filter (·.fate = .dropped chunks.length) = [] :=
        List.filter_eq_nil_iff.2 fun e he => by simpa using hnew e (by simp [he])
      have hb : eb.filter (·.fate = .dropped chunks.length) = [] :=
        List.filter_eq_nil_iff.2 fun e he => by simpa using hnew e (by simp [he])
      rw [List.filter_append, List.filter_append, ha, hb, List.nil_append, List.append_nil,
        lines_mark fun e he => hnew e (by simp [he]), hx, List.filterMap_map]
      simp [Function.comp_def, Item.line?]
  · have := h.lost
    simp only [List.filter_append] at this
    have hne : Fate.lost ≠ .dropped chunks.length := by simp
    simpa only [List.filter_append, filter_mark hne (.inl rfl)] using this

/-- Whatever a step does to what is held, the fates can be revised to fit. -/
theorem edit {cs : List Chunk} {rs : List Record} (h : Ledger g sent outs flow chunks lost es)
    (he : Edit g cs rs flow flow') :
    ∃ es', Ledger g sent outs flow' (chunks ++ cs) (lost ++ rs) es' := by
  cases he with
  | keep => exact ⟨es, by simpa using h⟩
  | @filter a b r hl =>
    simp only [List.append_nil]
    refine h.advance (f := .filtered) (a := outs.map .out ++ a) (x := [.record r]) (b := b)
      (by simp) (by simp) (by simp) (fun i hi e hel hf => ?_) (by simp [Item.turned?])
    rw [List.mem_singleton.1 hi] at hel
    simp [Entry.Fair, hf, hel, Item.line?, hl]
  | @write a b r line hl =>
    simp only [List.append_nil]
    refine h.advance (f := .written) (a := outs.map .out ++ a) (x := [.record r]) (b := b)
      (by simp) (by simp) (by simp) (fun i hi e hel hf => ?_)
      (by simp [Item.turned?, Item.line?, hl])
    rw [List.mem_singleton.1 hi] at hel
    simp [Entry.Fair, hf, hel, Item.line?, hl]
  | lose rs => simpa using h.lose
  | drop c => simpa using h.drop

theorem send (h : Ledger g sent outs flow chunks lost es) (rs : List Record) :
    ∃ es', Ledger g (sent ++ rs) outs (flow ++ rs.map .record) chunks lost es' := by
  refine ⟨es ++ rs.map (⟨·, .waiting⟩), ?_, ?_, fun e he => ?_, fun e he k hk => ?_,
    fun k c hc => ?_, ?_⟩
  · rw [List.map_append, h.records, List.map_map]
    simp [Function.comp_def]
  · rw [List.filterMap_append, h.items, List.filterMap_map, List.append_assoc]
    congr 2
    exact congrFun List.filterMap_eq_map rs
  · rcases List.mem_append.1 he with he | he
    · exact h.fair e he
    · obtain ⟨r, -, rfl⟩ := List.mem_map.1 he
      trivial
  · rcases List.mem_append.1 he with he | he
    · exact h.known e he k hk
    · obtain ⟨r, -, rfl⟩ := List.mem_map.1 he
      simp at hk
  · rw [List.filter_append, List.filterMap_append, h.dropped k c hc, List.filter_map]
    simp
  · have hnone : (rs.map fun r => Entry.mk r .waiting).filter (·.fate = .lost) = [] := by
      refine List.filter_eq_nil_iff.2 fun e he => ?_
      obtain ⟨r, -, rfl⟩ := List.mem_map.1 he
      simp
    rw [List.filter_append, hnone, List.append_nil]
    exact h.lost

/-! ## What was delivered -/

/-- What there is of the records says no more than what should be written of them. -/
theorem sublist_lines (es : List Entry) :
    ((es.filterMap (Entry.item g)).filterMap (Item.line? g)).Sublist
      (es.filterMap (Entry.line? g)) := by
  induction es with
  | nil => exact .slnil
  | cons e es ih =>
    rcases hi : e.item g with _ | i
    · rw [List.filterMap_cons_none hi, List.filterMap_cons]
      split
      · exact ih
      · exact ih.cons _
    · rw [List.filterMap_cons_some hi, List.filterMap_cons, List.filterMap_cons,
        Entry.line_of_item hi]
      split
      · exact ih
      · exact ih.cons_cons _

theorem lines_records (h : Ledger g sent outs flow chunks lost es) :
    es.filterMap (Entry.line? g) = sent.filterMap g.line? := by
  rw [← h.records, List.filterMap_map]
  rfl

theorem outs_sublist (h : Ledger g sent outs flow chunks lost es) :
    outs.Sublist (sent.filterMap g.line?) := by
  have hsub := sublist_lines (g := g) es
  rw [h.items, h.lines_records, List.filterMap_append, List.filterMap_map] at hsub
  have hout : outs.filterMap (Item.line? g ∘ Item.out) = outs := List.filterMap_some
  rw [hout] at hsub
  exact (List.sublist_append_left _ _).trans hsub

/-- Once nothing is held any more, there is something of a record only if it was delivered. -/
theorem settled (h : Ledger g sent outs [] chunks lost es) :
    ∀ e ∈ es, e.fate ≠ .waiting ∧ e.fate ≠ .written := by
  intro e he
  have hitem : ∀ i, e.item g = some i → ∃ l, i = .out l := by
    intro i hi
    have hmem : i ∈ es.filterMap (Entry.item g) := List.mem_filterMap.2 ⟨e, he, hi⟩
    rw [h.items, List.append_nil] at hmem
    obtain ⟨l, -, rfl⟩ := List.mem_map.1 hmem
    exact ⟨l, rfl⟩
  constructor
  · intro hf
    obtain ⟨l, hl⟩ := hitem (.record e.record) (by simp [Entry.item, hf])
    cases hl
  · intro hf
    have hfair := h.fair e he
    simp only [Entry.Fair, hf] at hfair
    obtain ⟨line, hline⟩ := Option.isSome_iff_exists.1 hfair
    obtain ⟨l, hl⟩ := hitem (.line line) (by simp [Entry.item, hf, hline])
    cases hl

theorem delivered_lines (h : Ledger g sent outs [] chunks lost es) :
    (es.filter (·.fate = .delivered)).filterMap (Entry.line? g) = outs := by
  have hout : outs.filterMap (Item.line? g ∘ Item.out) = outs := List.filterMap_some
  have hitems := congrArg (List.filterMap (Item.line? g)) h.items
  rw [List.append_nil, List.filterMap_map, hout] at hitems
  have hset := h.settled
  rw [← hitems]
  clear hitems h
  induction es with
  | nil => rfl
  | cons e es ih =>
    have ih := ih fun e' he' => hset e' (List.mem_cons_of_mem _ he')
    obtain ⟨h1, h2⟩ := hset e List.mem_cons_self
    by_cases hf : e.fate = .delivered
    · have hi : (e.item g).bind (Item.line? g) = e.line? g := by
        rcases hl : e.line? g with _ | l <;> simp [Entry.item, hf, hl, Item.line?]
      rw [List.filter_cons_of_pos (by simpa using hf), List.filterMap_cons, ih, ← hi]
      rcases hitem : e.item g with _ | i
      · rw [List.filterMap_cons_none hitem]
        rfl
      · rw [List.filterMap_cons_some hitem, List.filterMap_cons]
        rfl
    · have hitem : e.item g = none := by
        unfold Entry.item
        cases hfe : e.fate <;> simp_all
      rw [List.filter_cons_of_neg (by simpa using hf), List.filterMap_cons_none hitem, ih]

/-- With nothing held and nothing lost, everything that should be was delivered. -/
theorem outs_eq (h : Ledger g sent outs [] [] [] es) : outs = sent.filterMap g.line? := by
  have hlost : ∀ e ∈ es, e.fate ≠ .lost := by
    intro e he hf
    have hmem : e ∈ es.filter (·.fate = .lost) := List.mem_filter.2 ⟨he, by simpa using hf⟩
    have hnil := List.map_eq_nil_iff.1 (List.perm_nil.1 h.lost)
    simp [hnil] at hmem
  have hline : ∀ e ∈ es, e.fate ≠ .delivered → e.line? g = none := by
    intro e he hf
    obtain ⟨h1, h2⟩ := h.settled e he
    have h3 := hlost e he
    have h4 : ∀ k, e.fate ≠ .dropped k := fun k hk => Nat.not_lt_zero _ (h.known e he k hk)
    have hfair := h.fair e he
    unfold Entry.Fair at hfair
    cases hfe : e.fate <;> simp_all
  rw [← h.delivered_lines, ← h.lines_records]
  clear h hlost
  induction es with
  | nil => rfl
  | cons e es ih =>
    have ih := ih fun e' he' => hline e' (List.mem_cons_of_mem _ he')
    by_cases hf : e.fate = .delivered
    · rw [List.filter_cons_of_pos (by simpa using hf), List.filterMap_cons, List.filterMap_cons, ih]
    · rw [List.filter_cons_of_neg (by simpa using hf), ih,
        List.filterMap_cons_none (hline e List.mem_cons_self hf)]

end Ledger

end LogPipeline
