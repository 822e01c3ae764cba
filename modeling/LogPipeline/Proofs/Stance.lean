import LogPipeline.Proofs.Tasks
import LogPipeline.Proofs.Tickets

/-!
# What a processor's tasks rely on

A task is put on the agenda long before it is done, and relies on what the tasks before it leave
behind: a run is completed only when nothing is held back and no chunk is being built, a chunk is
offered only when the run's turn has been noted. `Fits` checks an agenda against what is known of
the processor at its start, task by task, and `Neat` says where chunks may stand in it. Both are
part of `Processor.Sound`, which every task leaves behind it (`Sound.step`), so what a task relies
on is there when its time comes.

A processor is ticketed if every batch that it is given belongs to a run.
-/

namespace LogPipeline

/-- What is known of a processor: whether it has a run in hand and has noted its turn, and whether
nothing is held back (`drained`) and no chunk is being built (`clean`). -/
structure Stance where
  held : Bool
  turn : Bool
  drained : Bool
  clean : Bool

namespace Stance

/-- With the same run in hand, and chunks held back or being built as may be. Nothing is held back
without a run. -/
def loosened (x : Stance) : Stance := ⟨x.held, false, !x.held, false⟩

/-- The second tells at least as much as the first, about the same run. -/
structure Le (x y : Stance) : Prop where
  held : x.held = y.held
  turn : x.turn = true → y.turn = true
  drained : x.drained = true → y.drained = true
  clean : x.clean = true → y.clean = true

/-- Outside a run nothing is held back, and a ticketed processor builds no chunk. -/
def Proper (ticketed : Bool) (x : Stance) : Prop :=
  x.held = false → x.drained = true ∧ (ticketed = true → x.clean = true)

theorem Le.refl (x : Stance) : x.Le x := ⟨rfl, id, id, id⟩

/-- A proper stance tells more than one with no turn noted and, in a run, chunks held back. -/
theorem Proper.held_back_le {ticketed : Bool} {x : Stance} (h : x.Proper ticketed) :
    Stance.Le { x with turn := false, drained := !x.held } x :=
  ⟨rfl, by simp, fun hx => (h (by simpa using hx)).1, id⟩

theorem Proper.loosened_le {ticketed : Bool} {x : Stance} (h : x.Proper ticketed) :
    x.loosened.Le x :=
  ⟨rfl, by simp [loosened], h.held_back_le.drained, by simp [loosened]⟩

end Stance

namespace Task

/-- The chunk that a task is about. -/
def chunk? : Task → Option Chunk
  | emit c | offer c | sending c => some c
  | _ => none

/-- The record that a task is about. -/
def record? : Task → Option Record
  | process r => some r
  | _ => none

/-- The ticket that goes with a task. -/
def ticket? : Task → Option Nat
  | join n | adopt n => some n
  | _ => none

end Task

/-- The tasks find what they rely on, if the processor is in this stance before the first. With
`ending`, nothing is left behind after the last. -/
def Fits (ticketed ending : Bool) : Stance → List Task → Prop
  | x, [] => ending = true → x.held = false ∧ x.drained = true ∧ x.clean = true
  | _, .join _ :: l => Fits ticketed ending ⟨true, false, false, false⟩ l
  | x, .adopt _ :: l =>
    x.held = false ∧ x.drained = true ∧ (ticketed = true → x.clean = true)
      ∧ Fits ticketed ending ⟨true, false, true, x.clean⟩ l
  | x, .process _ :: l =>
    (ticketed = true → x.held = true) ∧ l.filterMap Task.ticket? = []
      ∧ Fits ticketed ending x.loosened l
  | x, .emit _ :: l =>
    (ticketed = true → x.held = true)
      ∧ Fits ticketed ending { x with turn := false, drained := !x.held } l
  | x, .awaitTurn :: l => x.held = true ∧ Fits ticketed ending { x with turn := true } l
  | x, .forward :: l =>
    (x.held = true → x.turn = true) ∧ Fits ticketed ending { x with drained := true } l
  | x, .forwardInTurn :: l => Fits ticketed ending x l
  | x, .offer _ :: l | x, .sending _ :: l =>
    (ticketed = true → x.held = true) ∧ (x.held = true → x.turn = true) ∧ Fits ticketed ending x l
  | x, .finish :: l =>
    (ticketed = true → x.held = true) ∧ Fits ticketed ending ⟨false, false, true, true⟩ l
  | x, .clear :: l => x.clean = true ∧ Fits ticketed ending { x with drained := true } l
  | x, .complete :: l =>
    x.clean = true ∧ x.drained = true ∧ Fits ticketed ending ⟨false, false, true, true⟩ l
  | x, .flushStale _ :: l => Fits ticketed ending { x with turn := false, drained := !x.held } l
  | _, .crash :: _ => ticketed = false

theorem Fits.mono {ticketed ending : Bool} {l : List Task} :
    ∀ {x y : Stance}, Fits ticketed ending x l → x.Le y → Fits ticketed ending y l := by
  induction l with
  | nil =>
    intro x y hl h he
    obtain ⟨h1, h2, h3⟩ := hl he
    exact ⟨h.held ▸ h1, h.drained h2, h.clean h3⟩
  | cons t l ih =>
    rintro ⟨xh, xt, xd, xc⟩ ⟨yh, yt, yd, yc⟩ hl h
    obtain ⟨rfl, ht, hd, hc⟩ := h
    simp only at ht hd hc
    cases t with
    | join n => exact hl
    | adopt n =>
      obtain ⟨h1, h2, h3, h4⟩ := hl
      exact ⟨h1, hd h2, fun e => hc (h3 e), ih h4 ⟨rfl, id, id, hc⟩⟩
    | process r => exact hl
    | emit c => exact ⟨hl.1, ih hl.2 ⟨rfl, id, id, hc⟩⟩
    | awaitTurn => exact ⟨hl.1, ih hl.2 ⟨rfl, id, hd, hc⟩⟩
    | forward => exact ⟨fun e => ht (hl.1 e), ih hl.2 ⟨rfl, ht, id, hc⟩⟩
    | forwardInTurn => exact ih hl ⟨rfl, ht, hd, hc⟩
    | offer c => exact ⟨hl.1, fun e => ht (hl.2.1 e), ih hl.2.2 ⟨rfl, ht, hd, hc⟩⟩
    | sending c => exact ⟨hl.1, fun e => ht (hl.2.1 e), ih hl.2.2 ⟨rfl, ht, hd, hc⟩⟩
    | finish => exact hl
    | clear => exact ⟨hc hl.1, ih hl.2 ⟨rfl, ht, id, hc⟩⟩
    | complete => exact ⟨hc hl.1, hd hl.2.1, hl.2.2⟩
    | flushStale t => exact ih (x := ⟨_, _, _, _⟩) hl ⟨rfl, id, id, hc⟩
    | crash => exact hl

/-- Behind a chunk that is being handed over stand at most one more chunk, which comes after those
held back, and then tasks that are about no chunk. -/
def Trailing : List Task → Prop
  | .forward :: .offer _ :: l | .emit _ :: l => l.filterMap Task.chunk? = []
  | l => l.filterMap Task.chunk? = []

/-- Where chunks may stand in an agenda. -/
def Neat : List Task → Prop
  | .offer _ :: l | .sending _ :: l => Trailing l
  | l => Trailing l

theorem Trailing.of_calm {l : List Task} (h : l.filterMap Task.chunk? = []) : Trailing l := by
  unfold Trailing
  split
  · simp [Task.chunk?] at h
  · simp [Task.chunk?] at h
  · exact h

theorem Neat.of_trailing {l : List Task} (h : Trailing l) : Neat l := by
  unfold Neat
  split
  · simp [Trailing, Task.chunk?] at h
  · simp [Trailing, Task.chunk?] at h
  · exact h

theorem Neat.of_calm {l : List Task} (h : l.filterMap Task.chunk? = []) : Neat l :=
  .of_trailing (.of_calm h)

theorem Neat.calm {t : Task} {l : List Task} (h : Neat (t :: l)) (ht : t.chunk? = none)
    (hf : t ≠ .forward) : l.filterMap Task.chunk? = [] := by
  cases t <;> simp_all [Neat, Trailing, Task.chunk?]

theorem Neat.behind_forward {l : List Task} (h : Neat (.forward :: l)) : Neat l := by
  rcases l with _ | ⟨t, l⟩
  · exact h
  · cases t
    case offer c => exact Trailing.of_calm h
    all_goals exact .of_calm h

namespace Processor

variable {ticketed ending : Bool} {now : Instant} {p p' : Processor} {s s' : Sequencer}
  {b b' : Books}

/-- What is to be known of the processor as it is. -/
def stance (p : Processor) : Stance :=
  ⟨p.run.isSome, p.turnHeld, p.pending.isEmpty, !p.maker.hasPending⟩

/-- The tasks of the processor find what they rely on, and a turn that was noted has come. -/
structure Sound (ticketed ending : Bool) (s : Sequencer) (p : Processor) : Prop where
  fits : Fits ticketed ending p.stance p.agenda
  neat : Neat p.agenda
  proper : p.stance.Proper ticketed
  noted : p.turnHeld = true → ∃ n, p.run = some n ∧ s.isTurn n = true

theorem sound_new (name : String) (stages : Stages) (settings : ProcessingSettings)
    (sendTimeout : Nat) :
    (new name stages settings sendTimeout).Sound ticketed false s :=
  ⟨by simp [new, Fits], .of_calm rfl, by simp [Stance.Proper, stance, new, ChunkMaker.hasPending],
    by simp [new]⟩

theorem Sound.mono (h : p.Sound ticketed ending s) (hs : s.next ≤ s'.next) :
    p.Sound ticketed ending s' := by
  refine ⟨h.fits, h.neat, h.proper, fun ht => ?_⟩
  obtain ⟨n, hn, hturn⟩ := h.noted ht
  rw [Sequencer.isTurn_iff] at hturn
  exact ⟨n, hn, Sequencer.isTurn_iff.2 (by omega)⟩

/-- Outside a run it is always the processor's turn. -/
theorem isSome_of_not_inTurn (ht : p.inTurn s = false) : p.run.isSome = true := by
  by_contra hr
  simp [inTurn, Option.not_isSome_iff_eq_none.1 hr] at ht

/-- Only chunks of a run are held back. -/
theorem isSome_of_pending (h : p.stance.Proper ticketed) (hp : p.pending ≠ []) :
    p.run.isSome = true := by
  by_contra hr
  exact hp (by simpa [stance] using (h (by simpa [stance] using hr)).1)

theorem turnHeld_noteTurn (hr : p.run.isSome = true) (ht : p.inTurn s = true) :
    (p.noteTurn s).turnHeld = true := by
  obtain ⟨n, hn⟩ := Option.isSome_iff_exists.1 hr
  simp only [inTurn, hn] at ht
  simp [noteTurn, hn, ht]

theorem noted_noteTurn (h : p.turnHeld = true → ∃ n, p.run = some n ∧ s.isTurn n = true)
    (ht : (p.noteTurn s).turnHeld = true) : ∃ n, p.run = some n ∧ s.isTurn n = true := by
  simp only [noteTurn, Bool.or_eq_true] at ht
  rcases ht with ht | ht
  · exact h ht
  · rcases hr : p.run with _ | n <;> rw [hr] at ht
    · simp at ht
    · exact ⟨n, rfl, by simpa using ht⟩

theorem fits_emits {x : Stance} {c : Option Chunk} {l : List Task}
    (hx : ticketed = true → x.held = true) (hl : Fits ticketed ending x.loosened l) :
    Fits ticketed ending { x with turn := false, drained := !x.held, clean := false }
      (c.toList.map Task.emit ++ l) := by
  rcases c with _ | c
  · exact hl
  · exact ⟨hx, hl⟩

theorem neat_emits {c : Option Chunk} {l : List Task} (h : l.filterMap Task.chunk? = []) :
    Neat (c.toList.map Task.emit ++ l) := by
  rcases c with _ | c
  · exact .of_calm h
  · exact h

theorem fits_flush {x : Stance} {c : Option Chunk} {l : List Task}
    (hx : c.isSome = true → ticketed = true → x.held = true)
    (hl : Fits ticketed ending { x with turn := false, drained := !x.held, clean := true } l) :
    Fits ticketed ending { x with turn := false, drained := !x.held, clean := true }
      (c.toList.map Task.emit ++ l) := by
  rcases c with _ | c
  · exact hl
  · exact ⟨hx rfl, hl⟩

/-- Doing a task leaves the rest of the agenda with what it relies on. -/
theorem Sound.step (h : p.Sound ticketed ending s) (hd : s.parked.Nodup)
    (hs : Step now p s b p' s' b') : p'.Sound ticketed ending s' := by
  obtain ⟨hf, hn, hp, ht⟩ := h
  cases hs with
  | @joinFirst l n ha hr =>
    rw [ha] at hf hn
    have hx : p.stance.held = false := by simp [stance, hr]
    have hc := hn.calm rfl (by simp)
    have hf : Fits ticketed ending ⟨true, false, false, false⟩ l := hf
    refine ⟨⟨hx, (hp hx).1, (hp hx).2, hf.mono ⟨rfl, ?_, ?_, ?_⟩⟩, .of_calm ?_, hp, ht⟩
    · exact id
    · simp
    · simp
    · rw [List.filterMap_cons_none rfl, hc]
  | @joinSame l n ha hr =>
    rw [ha] at hf hn
    have hc := hn.calm rfl (by simp)
    have hf : Fits ticketed ending ⟨true, false, false, false⟩ l := hf
    refine Sound.mono (s := s) ⟨hf.mono ⟨?_, ?_, ?_, ?_⟩, .of_calm hc, hp, ht⟩
      (s.next_le_release hd)
    · simp [stance, hr]
    all_goals simp
  | @joinOther l m n ha hr hne =>
    rw [ha] at hf hn
    have hc := hn.calm rfl (by simp)
    have hf : Fits ticketed ending ⟨true, false, false, false⟩ l := hf
    -- finishing the run in hand leaves the stance in which a new ticket may be taken
    refine ⟨⟨fun _ => ?_, rfl, rfl, fun _ => rfl, hf.mono ⟨rfl, ?_, ?_, ?_⟩⟩, .of_calm ?_, hp, ht⟩
    · simp [stance, hr]
    · exact id
    · simp
    · simp
    · rw [List.filterMap_cons_none rfl, List.filterMap_cons_none rfl, hc]
  | adopt ha =>
    rw [ha] at hf hn
    obtain ⟨h1, h2, h3, h4⟩ := hf
    refine ⟨h4.mono ⟨rfl, ?_, fun _ => h2, id⟩, .of_calm (hn.calm rfl (by simp)), ?_, ?_⟩
    all_goals simp [Stance.Proper, stance]
  | filtered ha hv =>
    rw [ha] at hf hn
    exact ⟨hf.2.2.mono hp.loosened_le, .of_calm (hn.calm rfl (by simp)), hp, ht⟩
  | unwritten ha hv hw =>
    rw [ha] at hf hn
    exact ⟨hf.2.2.mono hp.loosened_le, .of_calm (hn.calm rfl (by simp)), hp, ht⟩
  | @written l r r' line since ha hv hw =>
    rw [ha] at hf hn
    have hc := hn.calm rfl (by simp)
    refine ⟨(fits_emits hf.1 hf.2.2).mono ⟨rfl, by simp, hp.held_back_le.drained, by simp⟩,
      neat_emits hc, fun hx => ⟨(hp hx).1, fun e => ?_⟩, ht⟩
    · have := hf.1 e
      simp only [stance] at hx this
      simp [hx] at this
  | hand ha hturn =>
    rw [ha] at hf hn
    refine ⟨⟨fun hx => turnHeld_noteTurn hx hturn, hf.1, fun hx => turnHeld_noteTurn hx hturn,
      hf.2.mono ⟨rfl, ?_, ?_, id⟩⟩, hn, hp, noted_noteTurn ht⟩
    · simp
    · exact fun _ => rfl
  | @hold l c tasks ha hturn htasks =>
    rw [ha] at hf hn
    -- outside a run it is always the turn, so there is a run to hold the chunk for
    have hx : p.run.isSome = true := isSome_of_not_inTurn hturn
    have hfit : Fits ticketed ending ⟨true, false, false, p.stance.clean⟩ l :=
      hf.2.mono ⟨hx, id, by simp [stance, hx], id⟩
    refine ⟨?_, ?_, fun hy => absurd hx (by simpa [stance] using hy), ht⟩
    · rcases htasks with rfl | rfl
      · exact hfit.mono ⟨hx.symm, by simp, by simp, id⟩
      · exact ⟨hx, fun _ => rfl, hfit.mono ⟨hx.symm, by simp, by simp, id⟩⟩
    · rcases htasks with rfl | rfl
      · exact .of_calm hn
      · exact .of_calm (by rw [List.cons_append, List.cons_append, List.filterMap_cons_none rfl,
          List.filterMap_cons_none rfl, List.nil_append, hn])
  | await ha hturn =>
    rw [ha] at hf hn
    refine ⟨hf.2, .of_calm (hn.calm rfl (by simp)), hp, fun _ => ?_⟩
    obtain ⟨n, hr⟩ := Option.isSome_iff_exists.1 hf.1
    refine ⟨n, hr, ?_⟩
    simp only [inTurn, hr, Bool.or_eq_true] at hturn
    rcases hturn with h | h
    · obtain ⟨m, hm, hmt⟩ := ht h
      rwa [Option.some.inj (hr.symm.trans hm)]
    · exact h
  | @forwarded l ha hpd =>
    rw [ha] at hf hn
    exact ⟨hf.2.mono ⟨rfl, id, fun _ => by simp [stance, hpd], id⟩, hn.behind_forward, hp, ht⟩
  | @forward l c rest ha hpd =>
    rw [ha] at hf hn
    have hx : p.run.isSome = true := isSome_of_pending hp (by simp [hpd])
    exact ⟨⟨fun _ => hx, hf.1, hf.1, hf.2.mono ⟨rfl, id, id, id⟩⟩, hn,
      fun hy => absurd hx (by simpa [stance] using hy), ht⟩
  | @allow l ha hturn =>
    rw [ha] at hf hn
    have hc := hn.calm rfl (by simp)
    refine ⟨⟨fun hx => turnHeld_noteTurn hx hturn, hf.mono ⟨rfl, fun hx => ?_, fun _ => rfl, id⟩⟩,
      .of_calm ?_, hp, noted_noteTurn ht⟩
    · simp only [noteTurn, stance, Bool.or_eq_true] at hx ⊢
      exact .inl hx
    · rw [List.filterMap_cons_none rfl, hc]
  | refrain ha =>
    rw [ha] at hf hn
    exact ⟨hf, .of_calm (hn.calm rfl (by simp)), hp, ht⟩
  | @finish l since ha =>
    rw [ha] at hf hn
    have hc := hn.calm rfl (by simp)
    have hl : Fits ticketed ending ⟨p.run.isSome, false, !p.run.isSome, true⟩
        (.clear :: .complete :: l) := ⟨rfl, rfl, rfl, hf.2⟩
    refine ⟨fits_flush (fun _ => hf.1) hl |>.mono
        ⟨rfl, by simp, hp.held_back_le.drained, by simp [stance]⟩,
      neat_emits ?_, fun hx => ⟨(hp hx).1, by simp [stance]⟩, ht⟩
    rw [List.filterMap_cons_none rfl, List.filterMap_cons_none rfl, hc]
  | cleared ha hpd =>
    rw [ha] at hf hn
    exact ⟨hf.2.mono ⟨rfl, id, fun _ => by simp [stance, hpd], id⟩,
      .of_calm (hn.calm rfl (by simp)), hp, ht⟩
  | @clear l ha hpd =>
    rw [ha] at hf hn
    have hx : p.run.isSome = true := isSome_of_pending hp hpd
    refine ⟨⟨hx, fun _ => rfl, hf.2.mono ⟨rfl, fun _ => rfl, id, id⟩⟩, .of_calm ?_, hp, ht⟩
    rw [List.filterMap_cons_none rfl, List.filterMap_cons_none rfl, hn.calm rfl (by simp)]
  | @complete l ha =>
    rw [ha] at hf hn
    obtain ⟨h1, h2, h3⟩ := hf
    refine Sound.mono (s := s) ⟨h3.mono ⟨rfl, by simp, fun _ => h2, fun _ => h1⟩,
      .of_calm (hn.calm rfl (by simp)), fun _ => ⟨h2, fun _ => h1⟩, by simp⟩ ?_
    rcases p.run with _ | n
    · exact Nat.le_refl _
    · exact s.next_le_release hd
  | fresh ha =>
    rw [ha] at hf hn
    exact ⟨Fits.mono (x := ⟨_, _, _, _⟩) hf hp.held_back_le, .of_calm (hn.calm rfl (by simp)), hp,
      ht⟩
  | @stale l t ha =>
    rw [ha] at hf hn
    have hl : Fits ticketed ending ⟨p.run.isSome, false, !p.run.isSome, true⟩ l :=
      Fits.mono (x := ⟨_, _, _, _⟩) hf ⟨rfl, id, id, by simp⟩
    refine ⟨fits_flush (x := p.stance) (fun hc e => ?_) hl |>.mono
        ⟨rfl, by simp, hp.held_back_le.drained, by simp [stance]⟩,
      neat_emits (hn.calm rfl (by simp)), fun hx => ⟨(hp hx).1, by simp [stance]⟩, ht⟩
    -- a ticketed processor outside its runs has nothing to flush
    by_contra hx
    have := (hp (by simpa [stance] using hx)).2 e
    rw [ChunkMaker.isSome_flush] at hc
    simp [stance, hc] at this
  | rest hl => exact ⟨hf, hn, hp, ht⟩

/-! ## Handing over -/

/-- A chunk is handed over only in a run whose turn has come. -/
theorem Sound.turn_of_offer (h : p.Sound true ending s) {c : Chunk} {l : List Task}
    (ha : p.agenda = .offer c :: l ∨ p.agenda = .sending c :: l) :
    ∃ n, p.run = some n ∧ s.isTurn n = true := by
  have hf := h.fits
  rcases ha with ha | ha <;> rw [ha] at hf
  · exact h.noted (hf.2.1 (hf.1 rfl))
  · exact h.noted (hf.2.1 (hf.1 rfl))

theorem Sound.asking (h : p.Sound ticketed ending s) {c : Chunk} {l : List Task}
    (ha : p.agenda = .offer c :: l) : (p.asking c).Sound ticketed ending s := by
  obtain ⟨hf, hn, hp, ht⟩ := h
  rw [ha] at hf hn
  have hl : (p.asking c).agenda = .sending c :: l := by simp [Processor.asking, next, ha]
  exact ⟨hl ▸ hf, hl ▸ hn, hp, ht⟩

theorem Sound.handedOver (h : p.Sound ticketed ending s) {c : Chunk} {l : List Task}
    (ha : p.agenda = .offer c :: l ∨ p.agenda = .sending c :: l) :
    p.handedOver.Sound ticketed ending s := by
  obtain ⟨hf, hn, hp, ht⟩ := h
  have hl : p.handedOver.agenda = l := by
    rcases ha with ha | ha <;> simp [Processor.handedOver, next, ha]
  rcases ha with ha | ha <;> rw [ha] at hf hn
  · exact ⟨hl ▸ hf.2.2, hl ▸ .of_trailing hn, hp, ht⟩
  · exact ⟨hl ▸ hf.2.2, hl ▸ .of_trailing hn, hp, ht⟩

/-- A processor that is only given batches of runs does not fail. -/
theorem Sound.no_crash (h : p.Sound true ending s) (l : List Task) : p.agenda ≠ .crash :: l := by
  intro ha
  have hf := h.fits
  rw [ha] at hf
  exact absurd hf (by simp [Fits])

/-! ## Callbacks -/

theorem fits_records (rs : Batch) {l : List Task} {x : Stance}
    (hx : ticketed = true → x.held = true) (hr : l.filterMap Task.ticket? = [])
    (hl : Fits ticketed ending x.loosened l) (hle : x.loosened.Le x) :
    Fits ticketed ending x (rs.map Task.process ++ l) := by
  induction rs generalizing x with
  | nil => exact hl.mono hle
  | cons r rs ih =>
    refine ⟨hx, ?_, ih hx hl (.refl _)⟩
    change (rs.map Task.process ++ l).filterMap Task.ticket? = []
    rw [List.filterMap_append, hr, List.append_nil, List.filterMap_map]
    exact List.filterMap_eq_nil_iff.2 fun _ _ => rfl

theorem neat_records (rs : Batch) {l : List Task} (hl : l.filterMap Task.chunk? = []) :
    (rs.map Task.process ++ l).filterMap Task.chunk? = [] := by
  rw [List.filterMap_append, hl, List.append_nil, List.filterMap_map]
  exact List.filterMap_eq_nil_iff.2 fun _ _ => rfl

/-- A batch may come at any time, with a ticket if the processor relies on tickets. -/
theorem Sound.receive (h : p.Sound ticketed ending s) {batch : OrderedBatch} {deadline : Instant}
    (hb : ticketed = true → batch.run.isSome = true) :
    (p.receive batch deadline).Sound ticketed false s := by
  obtain ⟨rs, run, isLast⟩ := batch
  have hlast : ∀ x : Stance, (ticketed = true → x.held = true) →
      Fits ticketed false x (if isLast then [.finish] else []) := by
    intro x hx
    split
    · exact ⟨hx, by simp [Fits]⟩
    · simp [Fits]
  have htickets : (if isLast then [Task.finish] else []).filterMap Task.ticket? = [] := by
    split <;> rfl
  have hchunks : (if isLast then [Task.finish] else []).filterMap Task.chunk? = [] := by
    split <;> rfl
  rcases run with _ | n
  · have hx : ticketed = true → p.stance.held = true := fun e => by simpa using hb e
    refine ⟨fits_records rs hx htickets (hlast _ hx) ⟨rfl, by simp [Stance.loosened], ?_, by
      simp [Stance.loosened]⟩, .of_calm (neat_records rs hchunks), h.proper, h.noted⟩
    intro hy
    change (!p.stance.held) = true at hy
    exact (h.proper (by simpa using hy)).1
  · refine ⟨?_, .of_calm ?_, h.proper, h.noted⟩
    · change Fits ticketed false ⟨true, false, false, false⟩ (rs.map Task.process ++ _)
      exact fits_records rs (fun _ => rfl) htickets (hlast _ fun _ => rfl) (.refl _)
    · change (Task.join n :: (rs.map Task.process ++ _)).filterMap Task.chunk? = []
      rw [List.filterMap_cons_none rfl]
      exact neat_records rs hchunks

theorem Sound.tick (h : p.Sound ticketed ending s) : (p.tick now).Sound ticketed false s :=
  ⟨by simp [Processor.tick, Fits], .of_calm rfl, h.proper, h.noted⟩

/-- After its last task a processor that was stopped is left with nothing. -/
theorem Sound.stop (h : p.Sound ticketed ending s) : (p.stop now).Sound ticketed true s := by
  unfold Processor.stop
  dsimp only
  split
  · rename_i hr
    exact ⟨⟨fun _ => hr, by simp [Fits]⟩, .of_calm rfl, h.proper, h.noted⟩
  · rename_i hr
    have hx : p.stance.held = false := by simpa [stance] using hr
    obtain ⟨h1, h2⟩ := h.proper hx
    split
    · rename_i hm
      exact ⟨fun _ => ⟨hx, h1, hm⟩, .of_calm rfl, h.proper, h.noted⟩
    · rename_i hm
      have hu : ticketed = false := by
        by_contra hc
        exact hm (h2 (by simpa using hc))
      split
      · exact ⟨hu, .of_calm rfl, h.proper, h.noted⟩
      · have hflush : Fits ticketed true ⟨p.run.isSome, p.turnHeld, p.pending.isEmpty, true⟩
            (p.maker.flush.1.toList.map Task.offer) := by
          rcases p.maker.flush.1 with _ | c
          · exact fun _ => ⟨hx, h1, rfl⟩
          · exact ⟨by simp [hu], fun e => absurd e (by simpa [stance] using hx),
              fun _ => ⟨hx, h1, rfl⟩⟩
        refine ⟨hflush.mono ⟨rfl, id, id, by simp [stance]⟩, ?_, fun _ => ⟨h1, by simp [stance]⟩,
          h.noted⟩
        rcases p.maker.flush.1 with _ | c
        · exact .of_calm rfl
        · exact (rfl : Trailing [])

/-- Nothing is left of a processor that has ended. -/
theorem Sound.of_ended (h : p.Sound ticketed true s) (ha : p.agenda = []) :
    p.run = none ∧ p.pending = [] ∧ p.maker.hasPending = false := by
  have hf := h.fits
  rw [ha] at hf
  obtain ⟨h1, h2, h3⟩ := hf rfl
  exact ⟨by simpa [stance] using h1, by simpa [stance] using h2, by simpa [stance] using h3⟩

end Processor

end LogPipeline
