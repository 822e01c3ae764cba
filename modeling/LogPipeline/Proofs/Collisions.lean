import LogPipeline.Proofs.Seats
import LogPipeline.Proofs.Transcripts
import Mathlib.Data.Nat.Find

/-!
# Values under one name

A line that is read as a map has one value under each name, that of the last entry with it
(`Json.get?_of_last`). The timestamp is written first and the fields follow in order, each under the
name that the schema has for it. So a field is read back unless a later one has its name, and the
timestamp unless a field is named like it (`get?_of_line`).
-/

namespace LogPipeline

namespace Json

variable {es : List (String × Json)} {key : String}

theorem get?_append (a b : List (String × Json)) (key : String) :
    (obj (a ++ b)).get? key = ((obj b).get? key).or ((obj a).get? key) := by
  simp only [get?, List.reverse_append, List.find?_append]
  cases b.reverse.find? (·.1 == key) <;> rfl

theorem get?_eq_none (h : ∀ e ∈ es, e.1 ≠ key) : (obj es).get? key = none := by
  simpa [get?] using h

/-- Of several entries with one key the last one counts. -/
theorem get?_of_last {i : Nat} {v : Json} (hi : es[i]? = some (key, v))
    (hlast : ∀ j > i, ∀ e, es[j]? = some e → e.1 ≠ key) : (obj es).get? key = some v := by
  obtain ⟨before, behind, rfl, hseat⟩ := exists_seat hi
  have hbehind : (obj behind).get? key = none := by
    refine get?_eq_none fun e he => ?_
    obtain ⟨j, hj⟩ := List.mem_iff_getElem?.1 he
    refine hlast (i + (j + 1)) (by omega) e ?_
    rwa [← hseat, List.getElem?_append_right (Nat.le_add_right ..), Nat.add_sub_cancel_left,
      List.getElem?_cons_succ]
  have hhere : (obj [(key, v)]).get? key = some v := by simp [get?]
  rw [get?_append, ← List.singleton_append, get?_append, hbehind, hhere]
  rfl

end Json

namespace Record

/-- Field `i` is written under a name, the one that the schema has for it. -/
def Written (schema : Schema) (r : Record) (i : Nat) (name : String) : Prop :=
  schema.name i = some name ∧ i < r.fields.length

instance (schema : Schema) (r : Record) (i : Nat) (name : String) :
    Decidable (r.Written schema i name) := inferInstanceAs (Decidable (_ ∧ _))

/-- A map has every value of a record under its name. -/
structure Legible (schema : Schema) (r : Record) (v : Json) : Prop where
  timestamp : v.get? "timestamp" = some (.int r.timestamp)
  field : ∀ i name, r.Written schema i name → v.get? name = some (.str (r.field i))

variable {schema : Schema} {r : Record} {i : Nat} {name : String}

theorem entries_succ_eq_some {e : String × Json} :
    (r.entries schema)[i + 1]? = some e ↔
      r.Written schema i e.1 ∧ e.2 = .str (r.field i) := by
  obtain ⟨key, v⟩ := e
  rw [entries, List.getElem?_cons_succ, List.getElem?_ofFn]
  simp only [Written, Schema.name]
  by_cases hname : i < schema.names.length
  · by_cases hfield : i < r.fields.length
    · have hmin : i < min schema.arity r.fields.length := Nat.lt_min.2 ⟨hname, hfield⟩
      have hkey : schema.names[i]? = some schema.names[i] := List.getElem?_eq_getElem hname
      have htext : r.field i = r.fields[i].text := by simp [field, hfield]
      rw [dif_pos hmin, hkey, htext, Option.some.injEq, Prod.mk.injEq, Option.some.injEq]
      constructor
      · rintro ⟨hk, hv⟩
        exact ⟨⟨hk, hfield⟩, hv.symm⟩
      · rintro ⟨⟨hk, -⟩, hv⟩
        exact ⟨hk, hv.symm⟩
    · have hmin : ¬ i < min schema.arity r.fields.length := fun h => hfield (Nat.lt_min.1 h).2
      simp [hmin, hfield]
  · have hmin : ¬ i < min schema.arity r.fields.length := fun h => hname (Nat.lt_min.1 h).1
    simp [hmin, hname]

/-- A name that is written is written last for one of the fields. -/
theorem exists_last (h : r.Written schema i name) :
    ∃ k, r.Written schema k name ∧ ∀ j > k, ¬ r.Written schema j name := by
  let P := fun k => r.Written schema k name
  have hbound : ∀ k, P k → k ≤ r.fields.length := fun k hk => Nat.le_of_lt hk.2
  refine ⟨Nat.findGreatest P r.fields.length,
    Nat.findGreatest_spec (P := P) (hbound i h) h, ?_⟩
  exact fun j hj hwritten => Nat.findGreatest_is_greatest hj (hbound j hwritten) hwritten

theorem get?_entries_field (h : r.Written schema i name)
    (hlast : ∀ j > i, ¬ r.Written schema j name) :
    (Json.obj (r.entries schema)).get? name = some (.str (r.field i)) := by
  refine Json.get?_of_last (i := i + 1) (entries_succ_eq_some.2 ⟨h, rfl⟩) fun j hj e he => ?_
  obtain ⟨j, rfl⟩ : ∃ k, j = k + 1 := ⟨j - 1, by omega⟩
  rintro rfl
  exact hlast j (by omega) (entries_succ_eq_some.1 he).1

theorem get?_entries_timestamp (h : ∀ i, ¬ r.Written schema i "timestamp") :
    (Json.obj (r.entries schema)).get? "timestamp" = some (.int r.timestamp) := by
  refine Json.get?_of_last (i := 0) rfl fun j hj e he => ?_
  obtain ⟨j, rfl⟩ : ∃ k, j = k + 1 := ⟨j - 1, by omega⟩
  exact fun hname => h j (hname ▸ (entries_succ_eq_some.1 he).1)

/-- Nothing is lost exactly if no field is named like the timestamp, and fields of one name have one
text. -/
theorem legible_entries_iff :
    r.Legible schema (.obj (r.entries schema)) ↔
      (∀ i, ¬ r.Written schema i "timestamp")
        ∧ ∀ i j name, r.Written schema i name → r.Written schema j name →
          r.field i = r.field j := by
  constructor
  · intro h
    refine ⟨fun i hi => ?_, fun i j name hi hj => ?_⟩
    · have := (h.field i _ hi).symm.trans h.timestamp
      simp at this
    · have := (h.field i _ hi).symm.trans (h.field j _ hj)
      simpa using this
  · rintro ⟨htimestamp, hfield⟩
    refine ⟨get?_entries_timestamp htimestamp, fun i name hi => ?_⟩
    obtain ⟨k, hk, hlast⟩ := exists_last hi
    rw [get?_entries_field hk hlast, hfield i k name hi hk]

end Record

/-- A record is written as a line that, read as a map, has each of its fields under the name of the
field, but for a field that a later one of the same name hides, and the timestamp, but for a field
named like it. So nothing is lost exactly if no field is named like the timestamp, and fields of one
name have one text. -/
theorem get?_of_line (schema : Schema) (rules : List Rule) (r : Record) (h : r.IsTimed) :
    ∃ s v, (Stages.standard schema rules).write r = some (s ++ "\n").toUTF8
      ∧ Json.parse s = .ok v
      ∧ (∀ i name, r.Written schema i name → (∀ j > i, ¬ r.Written schema j name) →
        v.get? name = some (.str (r.field i)))
      ∧ ((∀ i, ¬ r.Written schema i "timestamp") →
        v.get? "timestamp" = some (.int r.timestamp))
      ∧ (r.Legible schema v ↔
        (∀ i, ¬ r.Written schema i "timestamp")
          ∧ ∀ i j name, r.Written schema i name → r.Written schema j name →
            r.field i = r.field j) :=
  ⟨(r.json schema).write, .obj (r.entries schema), rfl, r.parse_json schema h,
    fun _ _ => Record.get?_entries_field, Record.get?_entries_timestamp,
    Record.legible_entries_iff⟩

/-- Two fields of one name, and one of its own. -/
theorem get?_of_line_repeated :
    let schema : Schema := ⟨["msg", "level", "msg"]⟩
    let r : Record := ⟨-1, [.ofString "a", .ofString "error", .ofString "b"], 9⟩
    r.IsTimed ∧ ∃ s v, (Stages.standard schema []).write r = some (s ++ "\n").toUTF8
      ∧ Json.parse s = .ok v ∧ v.get? "msg" = some (.str "b")
      ∧ v.get? "level" = some (.str "error") ∧ v.get? "timestamp" = some (.int (-1))
      ∧ ¬ r.Legible schema v := by
  intro schema r
  have hr : r.IsTimed := by decide
  have hbound : ∀ j name, r.Written schema j name → j < 3 := fun _ _ hj => hj.2
  have hlevel : ∀ j < 3, j > 1 → ¬ r.Written schema j "level" := by decide
  have htime : ∀ j < 3, ¬ r.Written schema j "timestamp" := by decide
  obtain ⟨s, v, hwrite, hparse, hfield, htimestamp, hlegible⟩ := get?_of_line schema [] r hr
  refine ⟨hr, s, v, hwrite, hparse, ?_, ?_, ?_, ?_⟩
  · exact hfield 2 "msg" (by decide) fun j hj hw => absurd (hbound j _ hw) (by omega)
  · exact hfield 1 "level" (by decide) fun j hj hw => hlevel j (hbound j _ hw) hj hw
  · exact htimestamp fun j hw => htime j (hbound j _ hw) hw
  · rw [hlegible]
    intro h
    have := h.2 0 2 "msg" (by decide) (by decide)
    exact absurd this (by decide)

/-- A field that is named like the timestamp hides it, and a field hides one of the same name before
it. -/
theorem shadowed_values :
    let line := "\x7b\"timestamp\":7,\"timestamp\":\"x\"\x7d"
    let schema : Schema := ⟨["timestamp"]⟩
    let r : Record := ⟨7, [.ofString "x"], 1⟩
    r.IsTimed ∧ (Stages.standard schema []).write r = some (line ++ "\n").toUTF8
      ∧ ∃ v, Json.parse line = .ok v ∧ v.get? "timestamp" = some (.str "x")
        ∧ ¬ r.Legible schema v := by
  intro line schema r
  have hline : (r.json schema).write = line := by decide +kernel
  have hr : r.IsTimed := by decide
  have hparse := r.parse_json schema hr
  rw [hline] at hparse
  refine ⟨hr, ?_, _, hparse, rfl, fun h => ?_⟩
  · show some _ = _
    rw [Record.lineBytes, Record.line, hline]
  · have := h.timestamp
    cases this

end LogPipeline
