import LogPipeline.Proofs.Logbooks

/-!
# What a processor holds back

Chunks of a run whose turn has not come are held back. The one that reaches the limit makes the
processor wait for the turn and hand over all of them, and so does the end of the run; once the turn
was noted, nothing is held back any more. `Bounded` says what this leaves at any moment: either
there is room for another chunk and no turn is noted over one held back, or the next tasks are to
hand over everything. Between two jobs only the first is possible (`withholds_of_reaches`).
-/

namespace LogPipeline

/-- The tasks begin by handing over all that is held back, perhaps once the turn has come, and wait
for no other turn. -/
inductive Clearing : List Task → Prop where
  | wait {l : List Task} (hl : .awaitTurn ∉ l) : Clearing (.awaitTurn :: .forward :: l)
  | forward {l : List Task} (hl : .awaitTurn ∉ l) : Clearing (.forward :: l)
  | offer {c : Chunk} {l : List Task} (hl : .awaitTurn ∉ l) : Clearing (.offer c :: .forward :: l)
  | sending {c : Chunk} {l : List Task} (hl : .awaitTurn ∉ l) :
    Clearing (.sending c :: .forward :: l)

/-- The task may be the first of a clearing. -/
def Task.clears : Task → Bool
  | awaitTurn | forward | offer _ | sending _ => true
  | _ => false

theorem Clearing.clears {t : Task} {l : List Task} (h : Clearing (t :: l)) : t.clears = true := by
  cases h <;> rfl

theorem not_clearing_nil : ¬Clearing [] := nofun

namespace Processor

/-- There is room for another chunk, and no turn is noted while chunks are held back. -/
structure Slack (p : Processor) : Prop where
  lt : p.pending.length < p.maxPending
  unnoted : p.pending ≠ [] → p.turnHeld = false

/-- What is held back, and what becomes of it. Where there is room nothing waits for a turn: to note
one is left to a clearing, which leaves nothing behind. -/
structure Bounded (limit : Nat) (p : Processor) : Prop where
  max_eq : p.maxPending = limit
  le : p.pending.length ≤ limit
  slack : p.Slack ∧ .awaitTurn ∉ p.agenda ∨ Clearing p.agenda

variable {now : Instant} {limit : Nat} {p p' : Processor} {s s' : Sequencer} {b b' : Books}

/-- A task that does not belong to a clearing finds room. -/
theorem Bounded.slack_of (h : p.Bounded limit) {t : Task} {l : List Task}
    (ha : p.agenda = t :: l) (ht : t.clears = false) : p.Slack ∧ .awaitTurn ∉ l := by
  have hor := h.slack
  rw [ha] at hor
  rcases hor with ⟨hs, hn⟩ | hc
  · exact ⟨hs, fun hm => hn (List.mem_cons_of_mem _ hm)⟩
  · simp [hc.clears] at ht

theorem Bounded.slack_of_nil (h : p.Bounded limit) (ha : p.agenda = []) : p.Slack :=
  (h.slack.resolve_right fun hc => not_clearing_nil (ha ▸ hc)).1

theorem Bounded.not_mem_of_forward (h : p.Bounded limit) {l : List Task}
    (ha : p.agenda = .forward :: l) : .awaitTurn ∉ l := by
  have hor := h.slack
  rw [ha] at hor
  rcases hor with ⟨-, hn⟩ | hc
  · simpa using hn
  · cases hc with
    | forward hl => exact hl

/-- Room is left by tasks that hold nothing back. -/
theorem Slack.bounded (h : p.Slack) (hmax : p.maxPending = limit)
    (hp : p'.pending = p.pending) (hm : p'.maxPending = p.maxPending)
    (ht : p'.turnHeld = true → p.turnHeld = true) (hn : .awaitTurn ∉ p'.agenda) :
    p'.Bounded limit := by
  refine ⟨hm.trans hmax, ?_, .inl ⟨⟨?_, fun hne => ?_⟩, hn⟩⟩
  · rw [hp, ← hmax]
    exact Nat.le_of_lt h.lt
  · rw [hp, hm]
    exact h.lt
  · rw [Bool.eq_false_iff]
    exact fun e => by simpa [h.unnoted (hp ▸ hne)] using ht e

theorem not_mem_emits {c : Option Chunk} {l : List Task} (hl : .awaitTurn ∉ l) :
    .awaitTurn ∉ c.toList.map Task.emit ++ l := by simpa using hl

/-- Every task leaves room or begins to hand over everything. -/
theorem Bounded.step (h : p.Bounded limit) (hlimit : 0 < limit)
    (hs : Step now p s b p' s' b') : p'.Bounded limit := by
  cases hs with
  | rest hl => exact h
  | joinFirst ha | joinOther ha | complete ha | adopt ha | refrain ha | cleared ha | fresh ha
  | joinSame ha | filtered ha | unwritten ha =>
    obtain ⟨hs, hn⟩ := h.slack_of ha rfl
    exact hs.bounded h.max_eq rfl rfl (by simp) (by simpa using hn)
  | written ha | finish ha | stale ha =>
    obtain ⟨hs, hn⟩ := h.slack_of ha rfl
    exact hs.bounded h.max_eq rfl rfl id (not_mem_emits (by simpa using hn))
  | hand ha ht => exact ⟨h.max_eq, h.le, .inr (.forward (by simpa using (h.slack_of ha rfl).2))⟩
  | allow ha ht => exact ⟨h.max_eq, h.le, .inr (.forward (h.slack_of ha rfl).2)⟩
  | clear ha hp => exact ⟨h.max_eq, h.le, .inr (.wait (h.slack_of ha rfl).2)⟩
  | @hold l c tasks ha ht htasks hfits =>
    obtain ⟨hs, hn⟩ := h.slack_of ha rfl
    have hlt : p.pending.length < limit := h.max_eq ▸ hs.lt
    refine ⟨h.max_eq, by simpa [Nat.succ_le_iff] using hlt, ?_⟩
    rcases htasks with rfl | rfl
    · refine .inl ⟨⟨by simpa using hfits rfl, fun _ => ?_⟩, hn⟩
      -- a noted turn would have let the chunk pass
      obtain ⟨n, hr⟩ := Option.isSome_iff_exists.1 (isSome_of_not_inTurn ht)
      simp only [inTurn, hr, Bool.or_eq_false_iff] at ht
      exact ht.1
    · exact .inr (.wait hn)
  | await ha ht =>
    have hor := h.slack
    rw [ha] at hor
    obtain ⟨-, hn⟩ | hc := hor
    · simp at hn
    · cases hc with
      | wait hl => exact ⟨h.max_eq, h.le, .inr (.forward hl)⟩
  | forwarded ha hp =>
    exact ⟨h.max_eq, h.le, .inl ⟨⟨by simp [hp, h.max_eq, hlimit], fun hne => absurd hp hne⟩,
      h.not_mem_of_forward ha⟩⟩
  | forward ha hp =>
    have hle := h.le
    rw [hp, List.length_cons] at hle
    exact ⟨h.max_eq, Nat.le_of_succ_le hle, .inr (.offer (h.not_mem_of_forward ha))⟩

theorem Bounded.handedOver (h : p.Bounded limit) {c : Chunk} {l : List Task}
    (ha : p.agenda = .offer c :: l ∨ p.agenda = .sending c :: l) : p.handedOver.Bounded limit := by
  have hrest : p.handedOver.agenda = l := by
    rcases ha with ha | ha <;> simp [Processor.handedOver, next, ha]
  rcases h.slack with ⟨hs, hn⟩ | hc
  · refine hs.bounded h.max_eq rfl rfl id (hrest ▸ ?_)
    rcases ha with ha | ha <;> simpa [ha] using hn
  · refine ⟨h.max_eq, h.le, .inr (hrest ▸ ?_)⟩
    rcases ha with ha | ha <;> rw [ha] at hc
    · cases hc with
      | offer hl => exact .forward hl
    · cases hc with
      | sending hl => exact .forward hl

theorem Bounded.asking (h : p.Bounded limit) {c : Chunk} {l : List Task}
    (ha : p.agenda = .offer c :: l) : (p.asking c).Bounded limit := by
  have hrest : (p.asking c).agenda = .sending c :: l := by simp [Processor.asking, next, ha]
  rcases h.slack with ⟨hs, hn⟩ | hc
  · exact hs.bounded h.max_eq rfl rfl id (hrest ▸ by simpa [ha] using hn)
  · refine ⟨h.max_eq, h.le, .inr (hrest ▸ ?_)⟩
    rw [ha] at hc
    cases hc with
    | offer hl => exact .sending hl

theorem bounded_new (name : String) (stages : Stages) (settings : ProcessingSettings)
    (sendTimeout : Nat) :
    (new name stages settings sendTimeout).Bounded (max 1 settings.maxPendingChunks) := by
  have hpos : 0 < max settings.maxPendingChunks 1 := by omega
  exact ⟨Nat.max_comm .., Nat.zero_le _, .inl ⟨⟨hpos, fun hne => absurd rfl hne⟩, by simp [new]⟩⟩

end Processor

/-- A processor takes up a job with the room that it has. -/
theorem Desk.begin_bounded {limit : Nat} {d : Desk} (h : d.processor.Bounded limit)
    (ha : d.processor.agenda = []) (now : Instant) (job : Job) :
    (d.begin now job).processor.Bounded limit := by
  have hs := h.slack_of_nil ha
  cases job with
  | batch b timeout =>
    refine hs.bounded h.max_eq rfl rfl id ?_
    simp only [begin, Processor.receive]
    split <;> simp
  | tick => exact hs.bounded h.max_eq rfl rfl id (by simp [begin, Processor.tick])
  | stop =>
    simp only [begin, Processor.stop]
    split
    · exact hs.bounded h.max_eq rfl rfl id (by simp)
    · split
      · exact hs.bounded h.max_eq rfl rfl id (by simp)
      · split
        · exact hs.bounded h.max_eq rfl rfl id (by simp)
        · exact hs.bounded h.max_eq rfl rfl id (by simp)

namespace Log

theorem Change.bounded {limit i : Nat} {now : Instant} {g : Stages} {s s' : Sequencer}
    {log log' : Log} {d d' : Desk} (hc : Change now i s log d s' log' d') (hlimit : 0 < limit)
    (ha : log.Agrees g s d) (h : d.processor.Bounded limit) : d'.processor.Bounded limit := by
  cases hc with
  | others | given | ended => exact h
  | begun hb hj => exact Desk.begin_bounded h (ha.idle hb) now _
  | failed hb hcrash =>
    exact (h.slack_of hcrash rfl).1.bounded h.max_eq rfl rfl id (by simp)
  | asked hb hoffer hp =>
    rcases hp with rfl | rfl
    · exact h.handedOver (.inl hoffer)
    · exact h.asking hoffer
  | accepted hb hsending => exact h.handedOver (.inr hsending)
  | task hb hns htodo hstep => exact h.step hlimit hstep

end Log

/-- What is so of a processor that does nothing: there is room for another chunk, what is held back
belongs to a run whose turn was not noted, and a turn that was noted has come. -/
structure Withholds (limit : Nat) (s : Sequencer) (p : Processor) : Prop where
  lt : p.pending.length < limit
  unnoted : p.pending ≠ [] → p.run.isSome = true ∧ p.turnHeld = false
  noted : p.turnHeld = true → ∃ n, p.run = some n ∧ ∀ m < n, s.Completed m

theorem Log.Agrees.withholds {limit : Nat} {g : Stages} {s : Sequencer} {log : Log} {d : Desk}
    (h : log.Agrees g s d) (hs : s.Valid) (hd : d.processor.Bounded limit) (hb : d.busy = false) :
    Withholds limit s d.processor := by
  have hslack := hd.slack_of_nil (h.idle hb)
  refine ⟨hd.max_eq ▸ hslack.lt, fun hp => ?_, fun ht => ?_⟩
  · exact ⟨Processor.isSome_of_pending h.plain.proper hp, hslack.unnoted hp⟩
  · obtain ⟨n, hn, hturn⟩ := h.plain.noted ht
    rw [Sequencer.isTurn_iff] at hturn
    exact ⟨n, hn, fun m hm => hs.completed_of_lt (by omega)⟩

namespace Logbook

/-- However batches, ticks and stops come and tickets are let go of, a processor never holds back
more chunks than it may; between two jobs it holds back fewer, only of a run whose turn was not
noted, and a turn is noted only when every earlier run has completed. -/
theorem withholds_of_reaches {names : List String} {stages : Stages}
    {settings : ProcessingSettings} {sendTimeout acceptTime : Nat} {books : Books} {x : Logbook}
    (h : Relation.ReflTransGen Move (start names stages settings sendTimeout acceptTime books) x)
    (i : Nat) (d : Desk) (hd : x.desks.desks[i]? = some d) :
    d.processor.pending.length ≤ max 1 settings.maxPendingChunks
      ∧ (d.busy = false →
        Withholds (max 1 settings.maxPendingChunks) x.desks.sequencer d.processor) := by
  have hinv := inv_of_reaches h
  have hbounded := desk_of_reaches
    (P := fun _ _ _ d => d.processor.Bounded (max 1 settings.maxPendingChunks))
    (fun _ _ => Processor.bounded_new ..)
    (fun _ _ _ _ _ _ _ _ _ ha hp hc => hc.bounded (by omega) ha hp) h i d hd
  exact ⟨hbounded.le, (hinv.agrees i d hd).withholds hinv.kept.valid hbounded⟩

/-- A second run may hold back one chunk, and builds another. -/
theorem withholds_of_two_records :
    ∃ x, Relation.ReflTransGen Move
        (start ["a"] (.standard ⟨["name"]⟩ []) { chunkMaxBytes := 1, maxPendingChunks := 2 } 10 0
          {}) x
      ∧ x.desks.desks.map Desk.busy = [false]
      ∧ x.desks.desks.map (·.processor.pending.length) = [1]
      ∧ ∀ d, x.desks.desks[0]? = some d → d.processor.pending.length ≤ 2
        ∧ (d.busy = false → Withholds 2 x.desks.sequencer d.processor) := by
  let x₀ := start ["a"] (.standard ⟨["name"]⟩ [])
    { chunkMaxBytes := 1, maxPendingChunks := 2 } 10 0 {}
  have h₁ : Relation.ReflTransGen Move x₀ _ := .tail (.tail .refl (.issue "t")) (.issue "u")
  have h₂ := h₁.tail (.batch 0 (some "u") [{}, {}] false 10 (by decide))
  have h₃ := h₂.trans (reaches_acts (.replicate 7 0) _)
  exact ⟨_, h₃, by decide, by decide, withholds_of_reaches h₃ 0⟩

end Logbook

end LogPipeline
