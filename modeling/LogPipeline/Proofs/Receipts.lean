import LogPipeline.Proofs.Packing

/-!
# Records in the books

Every record that is processed is entered into the books and given back once, whatever becomes of it
(`Stages.Booked`), and a task processes at most the first record of its agenda (`Processor.reads`).
The lines of the records that a processor has processed are, in that order, in the chunks that it
has completed and then in the chunk being built (`Stored`).
-/

namespace LogPipeline

/-! ## Records -/

/-- What becomes of the books when a record is processed. -/
def Stages.book (g : Stages) (b : Books) (r : Record) : Books :=
  match Rule.applyAll g.rules r with
  | (.drop, r) => { b with pool := b.pool.release r, counters := b.counters.filtered }
  | (.pass, r) =>
    { pool := b.pool.release r
      counters := if (g.write r).isSome then b.counters.serialized else b.counters.lost 1 }

/-- The record as it is after the rules, when it is given back. -/
def Stages.spent (g : Stages) (r : Record) : Record := (Rule.applyAll g.rules r).2

/-- The rules have dropped the record. -/
def Stages.drops (g : Stages) (r : Record) : Bool := (Rule.applyAll g.rules r).1 = .drop

/-- The books after all these records, from those before. -/
structure Stages.Booked (g : Stages) (b : Books) (rs : List Record) (b' : Books) : Prop where
  pool : b'.pool = b.pool.releaseAll (rs.map g.spent)
  filtered : b'.counters.recordsFiltered = b.counters.recordsFiltered + rs.countP g.drops
  serialized : b'.counters.recordsSerialized
    = b.counters.recordsSerialized + (rs.filterMap g.line?).length
  accounted : b'.counters.recordsAccounted = b.counters.recordsAccounted + rs.length

theorem Stages.booked_nil (g : Stages) (b : Books) : g.Booked b [] b := ⟨rfl, rfl, rfl, rfl⟩

/-- One more record. -/
theorem Stages.Booked.book {g : Stages} {b b' : Books} {rs : List Record} (h : g.Booked b rs b')
    (r : Record) : g.Booked b (rs ++ [r]) (g.book b' r) := by
  obtain ⟨h1, h2, h3, h4⟩ := h
  unfold Counters.recordsAccounted at h4
  unfold Stages.book
  rcases hv : Rule.applyAll g.rules r with ⟨v, r'⟩
  rcases v with _ | _
  · rcases hw : g.write r' with _ | line
    · constructor <;>
        simp [Stages.spent, Stages.drops, Stages.line?, hv, hw, RecordPool.releaseAll_append,
          Counters.lost, Counters.recordsAccounted, h1, h2, h3]
      omega
    · constructor <;>
        simp [Stages.spent, Stages.drops, Stages.line?, hv, hw, RecordPool.releaseAll_append,
          Counters.serialized, Counters.recordsAccounted, h1, h2, h3]
      · omega
      · omega
  · constructor <;>
      simp [Stages.spent, Stages.drops, Stages.line?, hv, RecordPool.releaseAll_append,
        Counters.filtered, Counters.recordsAccounted, h1, h2, h3]
    · omega
    · omega

namespace Processor

variable {now : Instant} {p p' : Processor} {s s' : Sequencer} {b b' : Books}

/-- The record that the first task processes, if it does. -/
def reading? (p : Processor) : Option Record := p.agenda.head?.bind Task.record?

theorem agenda_of_reading {r : Record} (hr : p.reading? = some r) :
    ∃ l, p.agenda = .process r :: l := by
  rcases ha : p.agenda with _ | ⟨t, l⟩
  · simp [reading?, ha] at hr
  · cases t <;> simp [reading?, ha, Task.record?] at hr
    exact ⟨l, by rw [hr]⟩

theorem todo_step (hs : Step now p s b p' s' b') (hr : p.reading? = none) : p'.todo = p.todo := by
  cases hs with
  | filtered ha hv => simp [reading?, ha, Task.record?] at hr
  | unwritten ha hv hw => simp [reading?, ha, Task.record?] at hr
  | written ha hv hw => simp [reading?, ha, Task.record?] at hr
  | hold ha ht htasks => rcases htasks with rfl | rfl <;> simp only [todo, ha] <;> rfl
  | finish ha => simp only [todo, ha, todo_emits]; rfl
  | stale ha => simp only [todo, ha, todo_emits]; rfl
  | rest hl => rfl
  | joinFirst ha | joinSame ha | joinOther ha | adopt ha | hand ha | await ha | forwarded ha
  | forward ha | allow ha | refrain ha | cleared ha | clear ha | complete ha | fresh ha =>
    simp only [todo, ha]; rfl

theorem books_step (hs : Step now p s b p' s' b') (hr : p.reading? = none) : b' = b := by
  cases hs with
  | filtered ha hv => simp [reading?, ha, Task.record?] at hr
  | unwritten ha hv hw => simp [reading?, ha, Task.record?] at hr
  | written ha hv hw => simp [reading?, ha, Task.record?] at hr
  | _ => rfl

/-- The record that a task processes is no longer to be processed, and is entered into the books. -/
theorem reads (now : Instant) (p : Processor) (s : Sequencer) (b : Books) :
    p.todo = p.reading?.toList ++ (p.act now s b).1.todo
      ∧ (p.act now s b).2.2 = p.reading?.elim b (p.stages.book b) := by
  rcases hr : p.reading? with _ | r
  · refine ⟨(todo_step (step_act now p s b) hr).symm, ?_⟩
    exact books_step (step_act now p s b) hr
  · obtain ⟨l, ha⟩ := agenda_of_reading hr
    simp only [act, ha, processRecord, Option.elim_some, Stages.book]
    rcases hv : Rule.applyAll p.stages.rules r with ⟨v, r'⟩
    rcases v with _ | _
    · rcases hw : p.stages.write r' with _ | line
      · exact ⟨by simp [todo, next, ha, hw, Task.record?], by simp [Books.count, hw]⟩
      · refine ⟨?_, by simp [Books.count, hw]⟩
        simp only [writeLine, next, todo, ha, hw, List.drop_one, List.tail_cons, todo_emits]
        rfl
    · exact ⟨by simp [todo, next, ha, Task.record?], rfl⟩

end Processor

/-! ## Lines -/

/-- A record that processor `desk` processed, with the ticket of its batch, if any, and the run that
the processor had in hand. -/
structure Receipt where
  desk : Nat
  ticket : Option Nat
  run : Option Nat
  record : Record

/-- The line that is written for the record. -/
def Receipt.line? (g : Stages) (e : Receipt) : Option ByteArray := g.line? e.record

/-- The records are cut in two: the lines of the first ones have left the chunk being built, which
says the lines of the others. Outside a run it says no line that was written in one. -/
structure Stored (g : Stages) (es : List Receipt) (out buffer : ByteArray) (run : Option Nat)
    (sent kept : List Receipt) : Prop where
  receipts : es = sent ++ kept
  out : joined (sent.filterMap (·.line? g)) = out
  buffer : joined (kept.filterMap (·.line? g)) = buffer
  loose : run = none → ∀ e ∈ kept, e.run = none

namespace Stored

variable {g : Stages} {es sent kept : List Receipt} {out buffer : ByteArray} {run run' : Option Nat}
  {m : ChunkMaker} {e : Receipt}

/-- A chunk in between, or none. -/
def added (out : ByteArray) (c : Option Chunk) : ByteArray :=
  out ++ joined (c.toList.map Chunk.data)

theorem data (h : Stored g es out buffer run sent kept) :
    joined (es.filterMap (·.line? g)) = out ++ buffer := by
  rw [h.receipts, List.filterMap_append, joined_append, h.out, h.buffer]

/-- All lines have left. -/
theorem clear (h : Stored g es out buffer run sent kept) (run' : Option Nat) :
    Stored g es (out ++ buffer) .empty run' es [] :=
  ⟨by simp, h.data, rfl, by simp⟩

/-- The run may be let go of when no line is left. -/
theorem settle (h : Stored g es out buffer run sent kept)
    (hr : run' = none → run = none ∨ buffer.size = 0) :
    ∃ sent kept, Stored g es out buffer run' sent kept := by
  rcases run' with _ | n
  · rcases hr rfl with hr | hr
    · exact ⟨sent, kept, h.receipts, h.out, h.buffer, fun _ => h.loose hr⟩
    · rw [ByteArray.size_eq_zero_iff] at hr
      subst hr
      exact ⟨es, [], by simpa using h.clear none⟩
  · exact ⟨sent, kept, h.receipts, h.out, h.buffer, by simp⟩

theorem skip (h : Stored g es out buffer run sent kept) (he : e.run = run)
    (hl : e.line? g = none) : Stored g (es ++ [e]) out buffer run sent (kept ++ [e]) := by
  refine ⟨by simp [h.receipts], h.out, by simp [hl, h.buffer], fun hr k hk => ?_⟩
  rcases List.mem_append.1 hk with hk | hk
  · exact h.loose hr k hk
  · rw [List.mem_singleton.1 hk, he, hr]

theorem flush (h : Stored g es out m.buffer run sent kept) :
    ∃ sent kept, Stored g es (added out m.flush.1) m.flush.2.buffer run sent kept := by
  unfold ChunkMaker.flush
  split
  · exact ⟨es, [], by simpa [added, ChunkMaker.chunk, ChunkMaker.emptied] using h.clear run⟩
  · exact ⟨sent, kept, by simpa [added] using h⟩

theorem write (h : Stored g es out m.buffer run sent kept) {line : ByteArray} (he : e.run = run)
    (hl : e.line? g = some line) :
    ∃ sent kept, Stored g (es ++ [e]) (added out (m.write line).1) (m.write line).2.buffer run
      sent kept := by
  unfold ChunkMaker.write
  split
  · refine ⟨es, [e], rfl, ?_, ?_, by simp [he]⟩
    · simp [added, ChunkMaker.chunk, h.data]
    · simp [hl, ChunkMaker.added, ChunkMaker.emptied]
  · refine ⟨sent, kept ++ [e], by simp [h.receipts], by simp [added, h.out], ?_, fun hr k hk => ?_⟩
    · simp [hl, h.buffer, ChunkMaker.added]
    · rcases List.mem_append.1 hk with hk | hk
      · exact h.loose hr k hk
      · rw [List.mem_singleton.1 hk, he, hr]

end Stored

namespace Processor

variable {ticketed ending : Bool} {now : Instant} {p p' : Processor} {s s' : Sequencer}
  {b b' : Books}

/-- A run is let go of once no chunk is being built. -/
theorem Sound.run_none_step (h : p.Sound ticketed ending s) (hs : Step now p s b p' s' b')
    (hr : p'.run = none) : p.run = none ∨ p'.maker.buffer.size = 0 := by
  cases hs with
  | adopt ha => simp at hr
  | complete ha =>
    have hf := h.fits
    rw [ha] at hf
    exact .inr (by simpa [stance, ChunkMaker.hasPending] using hf.1)
  | _ => exact .inl hr

/-- What a task leaves behind of the lines written. -/
theorem Turnover.stored {g : Stages} {es sent kept : List Receipt} {handed : List Chunk}
    (ht : p.Turnover b p' b') (hg : p.stages = g)
    (h : Stored g es (joined ((handed ++ p.chunks).map Chunk.data)) p.maker.buffer p.run sent kept)
    (htodo : p.todo = p.reading?.toList ++ p'.todo) (i : Nat) (ticket : Option Nat) :
    ∃ sent kept, Stored g (es ++ p.reading?.toList.map fun r => ⟨i, ticket, p.run, r⟩)
      (joined ((handed ++ p'.chunks).map Chunk.data)) p'.maker.buffer p.run sent kept := by
  -- the record that leaves the agenda is the one that is read
  have hread : ∀ r, p.todo = r :: p'.todo → p.reading?.toList = [r] := fun r hr =>
    (List.append_cancel_right (htodo.symm.trans hr : _ = [r] ++ p'.todo))
  have hnone : p'.todo = p.todo → p.reading?.toList = [] := fun hr => by
    rwa [hr, List.self_eq_append_left] at htodo
  have hadd : ∀ c : Option Chunk, p'.chunks = p.chunks ++ c.toList →
      joined ((handed ++ p'.chunks).map Chunk.data)
        = Stored.added (joined ((handed ++ p.chunks).map Chunk.data)) c := fun c hc => by
    rw [hc, ← List.append_assoc, List.map_append, joined_append, Stored.added]
  subst hg
  cases ht with
  | kept hc hm ht =>
    rw [hnone ht, hc, hm]
    exact ⟨sent, kept, by simpa using h⟩
  | @filtered r r' hc hm ht hv =>
    rw [hread r ht, hc, hm]
    exact ⟨sent, _, h.skip rfl (by simp [Receipt.line?, Stages.line?, hv])⟩
  | @unwritten r r' hc hm ht hv hw =>
    rw [hread r ht, hc, hm]
    exact ⟨sent, _, h.skip rfl (by simp [Receipt.line?, Stages.line?, hv, hw])⟩
  | @written r r' line l ha hc hm ht hr hv hw =>
    rw [hread r ht, hadd _ hc, hm]
    exact h.write rfl (by simp [Receipt.line?, Stages.line?, hv, hw])
  | flushed hc hm ht =>
    rw [hnone ht, hadd _ hc, hm, List.map_nil, List.append_nil]
    exact h.flush

end Processor

end LogPipeline
