import LogPipeline.Proofs.Crews
import LogPipeline.Rig.Script

/-!
# What a worker is called for

A shift is a worker with its queue while others send, close, let time pass or wait for the end, and
while its callbacks return or fail when they like. Every move keeps the books on what was called
for (`Shift.Sound`) and on who waits (`Shift.Attended`). So callbacks come one at a time, for the
items in the order of the queue and for ticks between them; a last tick and the stop come once the
queue is closed and has been worked off; and the stop releases everyone (`orderly_of_reaches`). What
a scripted worker does is part of such a shift (`Script.Follows.act`).
-/

namespace LogPipeline

open Relation

variable {α : Type}

/-- The item that a callback is for. -/
def Callback.item? : Callback α → Option α
  | .input a _ => some a
  | _ => none

/-- What is noted of a callback. -/
inductive Mark (α : Type) where
  | began (cb : Callback α) (time : Instant)
  | returned (time : Instant)
  | failed (time : Instant)

/-- The callback that begins. -/
def Mark.callback? : Mark α → Option (Callback α)
  | .began cb _ => some cb
  | _ => none

/-- What the worker is in: no callback, a callback, or none ever again since one failed. -/
inductive Stage (α : Type) where
  | idle
  | within (cb : Callback α)
  | broken

/-- Each callback returns or fails before the next begins, and none begins after a failure. -/
inductive Turns : List (Mark α) → Stage α → Prop where
  | nil : Turns [] .idle
  | began {l : List (Mark α)} (h : Turns l .idle) (cb : Callback α) (t : Instant) :
    Turns (l ++ [.began cb t]) (.within cb)
  | returned {l : List (Mark α)} {cb : Callback α} (h : Turns l (.within cb)) (t : Instant) :
    Turns (l ++ [.returned t]) .idle
  | failed {l : List (Mark α)} {cb : Callback α} (h : Turns l (.within cb)) (t : Instant) :
    Turns (l ++ [.failed t]) .broken

theorem Turns.eq_of_within {l : List (Mark α)} {cb : Callback α} (h : Turns l (.within cb)) :
    ∃ l' t, l = l' ++ [.began cb t] := by
  cases h with
  | began _ cb t => exact ⟨_, t, rfl⟩

theorem Turns.eq_of_broken {l : List (Mark α)} (h : Turns l .broken) :
    ∃ l' t, l = l' ++ [.failed t] := by
  cases h with
  | failed _ t => exact ⟨_, t, rfl⟩

/-- A worker with its queue, under a handler whose callbacks take as long as they like and may
fail. `sent` is everything that came into the queue, and `comers` is everyone who ever came to wait
for the end. -/
structure Shift (α : Type) where
  worker : Worker
  queue : Queue α
  now : Instant
  marks : List (Mark α) := []
  sent : List α := []
  comers : List Nat := []
  waiting : List Nat := []
  released : List Nat := []

/-- Only a worker that has not stopped begins a callback, and it has not stopped then. -/
theorem Worker.Calls.running {now : Instant} {ended : Bool} {q q' : Queue α} {w w' : Worker}
    {cb : Callback α} (h : w.Calls now ended q cb w' q') :
    w.isStopped = false ∧ w'.isStopped = false := by
  cases h <;> simp [Worker.isStopped, *]

namespace Shift

/-- A new worker with an empty queue. -/
def start (settings : WorkerSettings) (capacity : Nat) (now : Instant) : Shift α :=
  { worker := .spawn settings now, queue := { capacity }, now }

/-- The callbacks that have begun, in order. -/
def callbacks (s : Shift α) : List (Callback α) := s.marks.filterMap Mark.callback?

/-- The items that callbacks have begun for, in order. -/
def inputs (s : Shift α) : List α := s.callbacks.filterMap Callback.item?

/-- Those who wait are released if the worker has stopped. -/
def wake (s : Shift α) : Shift α :=
  if s.worker.isStopped then { s with waiting := [], released := s.released ++ s.waiting } else s

/-- A callback begins. -/
def begin (cb : Callback α) (w : Worker) (q : Queue α) (s : Shift α) : Shift α :=
  { s with worker := w, queue := q, marks := s.marks ++ [.began cb s.now] }

/-- The callback under way has returned. -/
def finish (s : Shift α) : Shift α :=
  wake { s with
    worker := s.worker.finish
    queue := s.worker.finish.leave s.queue
    marks := s.marks ++ [.returned s.now] }

/-- The callback under way has failed. -/
def fail (message : String) (s : Shift α) : Shift α :=
  wake { s with
    worker := s.worker.fail message
    queue := (s.worker.fail message).leave s.queue
    marks := s.marks ++ [.failed s.now] }

/-- One thing that happens. Callbacks return and fail when they like. -/
inductive Move : Shift α → Shift α → Prop where
  | send {s : Shift α} {a : α} {deadline : Instant} {q : Queue α} (ho : s.queue.isOpen = true)
      (hd : s.queue.trySend s.now deadline a = .done q) :
    Move s { s with queue := q, sent := s.sent ++ [a] }
  | close (s : Shift α) : Move s { s with queue := s.queue.close }
  | clock {s : Shift α} {t : Instant} (ht : s.now ≤ t) : Move s { s with now := t }
  | wait (s : Shift α) (id : Nat) :
    Move s (wake { s with comers := s.comers ++ [id], waiting := s.waiting ++ [id] })
  | begin {s : Shift α} {cb : Callback α} {w : Worker} {q : Queue α} (hb : s.worker.busy = false)
      (hn : s.worker.next? s.now (!s.queue.isOpen) s.queue = some (cb, w, q)) :
    Move s (s.begin cb w q)
  | tickEarly {s : Shift α} {w : Worker} (hn : s.worker.tickEarly? s.now = some w) :
    Move s (s.begin .tick w s.queue)
  | finish {s : Shift α} (hb : s.worker.busy = true) : Move s s.finish
  | fail {s : Shift α} (hb : s.worker.busy = true) (message : String) : Move s (s.fail message)

/-- What may happen to a shift in the end. -/
abbrev Reaches : Shift α → Shift α → Prop := ReflTransGen Move

/-- The callbacks at the end of a worker that has come so far. -/
def Ends : WorkerPhase → List (Callback α) → Prop
  | .serving, last => last = []
  | .lastTick, last => last = [.tick]
  | .stopping, last | .stopped, last => last = [.tick, .stop]
  | .failed _, last => last = [] ∨ last = [.tick] ∨ last = [.tick, .stop]

/-- The worker is at a stage. -/
def At (w : Worker) : Stage α → Prop
  | .idle => w.busy = false ∧ w.phase ≠ .stopping ∧ ∀ message, w.phase ≠ .failed message
  | .within cb => w.busy = true ∧ w.isStopped = false ∧ (w.phase = .stopping → cb = .stop)
  | .broken => w.busy = false ∧ ∃ message, w.phase = .failed message

/-- What was called for so far, and how it stands with the items. -/
structure Sound (settings : WorkerSettings) (s : Shift α) : Prop where
  same : s.worker.settings = settings
  turns : ∃ stage, Turns s.marks stage ∧ At s.worker stage
  course : ∃ before last, s.callbacks = before ++ last ∧ (∀ cb ∈ before, cb ≠ .stop)
    ∧ Ends s.worker.phase last
    ∧ (last ≠ [] → s.queue.isOpen = false ∧ before.filterMap Callback.item? = s.sent)
  kept : s.worker.isStopped = false → s.inputs ++ s.queue.items = s.sent
  begun : s.inputs <+: s.sent
  deadline : ∀ a d t, .began (.input a d) t ∈ s.marks → d = t + settings.sendTimeout
  stopped : s.worker.phase = .stopped → ∃ l t t', s.marks = l ++ [.began .stop t, .returned t']

/-- Who waits and who has been released. -/
structure Attended (s : Shift α) : Prop where
  comers : s.comers = s.released ++ s.waiting
  released : s.worker.isStopped = false → s.released = []
  waiting : s.worker.isStopped = true → s.waiting = []

variable {settings : WorkerSettings} {s s' : Shift α}

@[simp] theorem worker_wake (s : Shift α) : s.wake.worker = s.worker := by
  unfold wake
  split <;> rfl

@[simp] theorem queue_wake (s : Shift α) : s.wake.queue = s.queue := by
  unfold wake
  split <;> rfl

@[simp] theorem marks_wake (s : Shift α) : s.wake.marks = s.marks := by
  unfold wake
  split <;> rfl

@[simp] theorem sent_wake (s : Shift α) : s.wake.sent = s.sent := by
  unfold wake
  split <;> rfl

@[simp] theorem callbacks_wake (s : Shift α) : s.wake.callbacks = s.callbacks := by
  simp [callbacks]

@[simp] theorem inputs_wake (s : Shift α) : s.wake.inputs = s.inputs := by
  simp [inputs]

@[simp] theorem callbacks_begin (cb : Callback α) (w : Worker) (q : Queue α) (s : Shift α) :
    (s.begin cb w q).callbacks = s.callbacks ++ [cb] := by
  simp [callbacks, begin, Mark.callback?]

theorem wake_of_stopped (h : s.worker.isStopped = true) :
    s.wake = { s with waiting := [], released := s.released ++ s.waiting } := if_pos h

theorem wake_of_running (h : s.worker.isStopped = false) : s.wake = s :=
  if_neg (by simp [h])

theorem Sound.wake (h : s.Sound settings) : s.wake.Sound settings := by
  refine ⟨?_, ?_, ?_, ?_, ?_, ?_, ?_⟩
  all_goals
    simp only [worker_wake, queue_wake, marks_wake, sent_wake, callbacks_wake, inputs_wake]
  exacts [h.same, h.turns, h.course, h.kept, h.begun, h.deadline, h.stopped]

theorem attended_wake (hc : s.comers = s.released ++ s.waiting)
    (hr : s.worker.isStopped = false → s.released = []) : s.wake.Attended := by
  cases hs : s.worker.isStopped with
  | true =>
    rw [wake_of_stopped hs]
    exact ⟨by simpa using hc, fun hs' => by simp [hs] at hs', fun _ => rfl⟩
  | false =>
    rw [wake_of_running hs]
    exact ⟨hc, hr, fun hs' => by simp [hs] at hs'⟩

theorem sound_start (ht : settings.tickInterval ≠ 0) (capacity : Nat) (now : Instant) :
    (start settings capacity now : Shift α).Sound settings := by
  have hw : Worker.spawn settings now = { settings, nextTick := now + settings.tickInterval } :=
    if_neg ht
  refine ⟨?_, ⟨_, .nil, ?_⟩, ⟨[], [], rfl, ?_, ?_, ?_⟩, ?_, ?_, ?_, ?_⟩
  all_goals simp [start, hw, At, Ends, inputs, callbacks]

theorem attended_start (capacity : Nat) (now : Instant) :
    (start settings capacity now : Shift α).Attended :=
  ⟨rfl, fun _ => rfl, fun _ => rfl⟩

/-! ## What comes from outside -/

theorem Sound.send (h : s.Sound settings) (ho : s.queue.isOpen = true) {a : α} {q : Queue α}
    (hitems : q.items = s.queue.items ++ [a]) :
    Sound settings { s with queue := q, sent := s.sent ++ [a] } := by
  obtain ⟨before, last, hcb, hb, he, hl⟩ := h.course
  refine ⟨h.same, h.turns, ⟨before, last, hcb, hb, he, fun hne => ?_⟩, fun hs => ?_, ?_,
    h.deadline, h.stopped⟩
  · simp [(hl hne).1] at ho
  · show s.inputs ++ q.items = _
    rw [hitems, ← List.append_assoc, h.kept hs]
  · exact h.begun.trans (List.prefix_append ..)

theorem Sound.close (h : s.Sound settings) : Sound settings { s with queue := s.queue.close } := by
  obtain ⟨before, last, hcb, hb, he, hl⟩ := h.course
  exact ⟨h.same, h.turns, ⟨before, last, hcb, hb, he, fun hne => ⟨rfl, (hl hne).2⟩⟩, h.kept,
    h.begun, h.deadline, h.stopped⟩

/-! ## Callbacks -/

/-- A worker that begins a callback is in none. -/
theorem Sound.idle (h : s.Sound settings) (hb : s.worker.busy = false)
    (hs : s.worker.isStopped = false) : Turns s.marks .idle := by
  obtain ⟨stage, hturns, hat⟩ := h.turns
  cases stage with
  | idle => exact hturns
  | within cb => simp [hat.1] at hb
  | broken =>
    obtain ⟨message, hp⟩ := hat.2
    simp [Worker.isStopped, hp] at hs

/-- A callback begins, with the item that it takes. -/
theorem Sound.began (h : s.Sound settings) {cb : Callback α} {w : Worker} {q : Queue α}
    (hturns : Turns s.marks .idle) (hsame : w.settings = s.worker.settings)
    (hat : At w (.within cb)) (before last : List (Callback α))
    (hcb : s.callbacks ++ [cb] = before ++ last) (hbefore : ∀ cb ∈ before, cb ≠ .stop)
    (hends : Ends w.phase last)
    (hlast : last ≠ [] → q.isOpen = false ∧ before.filterMap Callback.item? = s.sent)
    (hkept : s.inputs ++ cb.item?.toList ++ q.items = s.sent)
    (hd : ∀ a d, cb = .input a d → d = s.now + settings.sendTimeout) :
    (s.begin cb w q).Sound settings := by
  have hin : (s.begin cb w q).inputs = s.inputs ++ cb.item?.toList := by
    simp only [inputs, callbacks_begin, List.filterMap_append, List.filterMap_cons,
      List.filterMap_nil]
    cases cb.item? <;> rfl
  refine ⟨hsame.trans h.same, ⟨_, hturns.began cb s.now, hat⟩, ⟨before, last, ?_, hbefore, hends,
    hlast⟩, fun _ => ?_, ?_, fun a d t hm => ?_, fun hp => ?_⟩
  · rw [callbacks_begin, hcb]
  · rw [hin]
    exact hkept
  · rw [hin]
    exact ⟨q.items, hkept⟩
  · rcases List.mem_append.1 hm with hm | hm
    · exact h.deadline a d t hm
    · obtain ⟨hcb, rfl⟩ := by simpa using hm
      exact hd a d hcb.symm
  · have hrunning := hat.2.1
    have hp : w.phase = .stopped := hp
    simp [Worker.isStopped, hp] at hrunning

theorem Sound.begin (h : s.Sound settings) (hb : s.worker.busy = false) {cb : Callback α}
    {w : Worker} {q : Queue α} (hc : s.worker.Calls s.now (!s.queue.isOpen) s.queue cb w q) :
    (s.begin cb w q).Sound settings := by
  have hrunning := hc.running.1
  have hturns := h.idle hb hrunning
  have hkept := h.kept hrunning
  obtain ⟨before, last, hcb, hbefore, hends, hlast⟩ := h.course
  -- no callback at the end has begun while the worker serves
  have hserving (hp : s.worker.phase = .serving) : last = [] := by simpa [hp, Ends] using hends
  have hinputs (hp : s.worker.phase = .serving) : s.inputs = before.filterMap Callback.item? := by
    rw [inputs, hcb, hserving hp, List.append_nil]
  cases hc with
  | @input a rest hp hq =>
    refine h.began hturns rfl ⟨rfl, hrunning, by simp [hp]⟩
      (before ++ [.input a (s.now + s.worker.settings.sendTimeout)]) [] (by simp [hcb, hserving hp])
      ?_ (by simp [Ends, hp]) (by simp) ?_ ?_
    · simpa [or_imp, forall_and] using hbefore
    · simpa [Callback.item?, hq] using hkept
    · rintro _ _ ⟨⟩
      rw [h.same]
  | tick hp =>
    refine h.began hturns rfl ⟨rfl, hrunning, by simp [hp]⟩ (before ++ [.tick]) []
      (by simp [hcb, hserving hp]) ?_ (by simp [Ends, hp]) (by simp) ?_ (by simp)
    · simpa [or_imp, forall_and] using hbefore
    · simpa [Callback.item?] using hkept
  | lastTick hp hq he =>
    refine h.began hturns rfl ⟨rfl, rfl, by simp⟩ before [.tick]
      (by simp [hcb, hserving hp]) hbefore rfl (fun _ => ⟨by simpa using he, ?_⟩) ?_ (by simp)
    · simpa [hq, hinputs hp] using hkept
    · simpa [Callback.item?] using hkept
  | stop hp =>
    obtain rfl : last = [.tick] := by simpa [hp, Ends] using hends
    refine h.began hturns rfl ⟨rfl, rfl, fun _ => rfl⟩ before [.tick, .stop]
      (by simp [hcb]) hbefore rfl (fun _ => hlast (by simp)) ?_ (by simp)
    simpa [Callback.item?] using hkept

/-- A worker in a callback is at the stage of it. -/
theorem Sound.within (h : s.Sound settings) (hb : s.worker.busy = true) :
    ∃ cb, Turns s.marks (.within cb) ∧ At s.worker (.within cb) := by
  obtain ⟨stage, hturns, hat⟩ := h.turns
  cases stage with
  | within cb => exact ⟨cb, hturns, hat⟩
  | idle => simp [hat.1] at hb
  | broken => simp [hat.1] at hb

theorem Ends.failed {phase : WorkerPhase} {last : List (Callback α)} (h : Ends phase last)
    (message : String) : Ends (.failed message) last := by
  cases phase <;> simp_all [Ends]

/-- A callback ends, one way or the other. -/
theorem Sound.past (h : s.Sound settings) (hrunning : s.worker.isStopped = false) {m : Mark α}
    (hm : m.callback? = none) {stage : Stage α} (hturns : Turns (s.marks ++ [m]) stage) {w : Worker}
    (hsame : w.settings = s.worker.settings) (hat : At w stage)
    (hends : ∀ last : List (Callback α), Ends s.worker.phase last → Ends w.phase last)
    (hstopped : w.phase = .stopped →
      ∃ l t t', s.marks ++ [m] = l ++ [.began .stop t, .returned t']) :
    Sound settings { s with worker := w, queue := w.leave s.queue, marks := s.marks ++ [m] } := by
  obtain ⟨before, last, hcb, hbefore, hlast⟩ := h.course
  have hcallbacks : (s.marks ++ [m]).filterMap Mark.callback? = s.callbacks := by
    simp [callbacks, hm]
  refine ⟨hsame.trans h.same, ⟨stage, hturns, hat⟩, ⟨before, last, hcallbacks.trans hcb, hbefore,
    hends last hlast.1, fun hne => ?_⟩, fun hs => ?_, ?_, fun a d t hmem => ?_, hstopped⟩
  · rw [Worker.isOpen_leave]
    exact hlast.2 hne
  · have hleave : w.leave s.queue = s.queue := if_neg (by simp [hs])
    rw [inputs, callbacks, hcallbacks, hleave]
    exact h.kept hrunning
  · rw [inputs, callbacks, hcallbacks]
    exact h.begun
  · rcases List.mem_append.1 hmem with hmem | hmem
    · exact h.deadline a d t hmem
    · obtain rfl := List.mem_singleton.1 hmem
      simp [Mark.callback?] at hm

theorem Sound.finish (h : s.Sound settings) (hb : s.worker.busy = true) :
    s.finish.Sound settings := by
  obtain ⟨cb, hturns, -, hrunning, hstop⟩ := h.within hb
  obtain ⟨l, t, hl⟩ := hturns.eq_of_within
  refine Sound.wake (h.past hrunning rfl (hturns.returned s.now) rfl ⟨rfl, ?_, ?_⟩ ?_ fun hp => ?_)
  all_goals simp only [Worker.finish] at *
  · split <;> simp_all
  · intro message hp
    split at hp
    · simp at hp
    · simp [Worker.isStopped, hp] at hrunning
  · intro last hends
    split <;> simp_all [Ends]
  · split at hp
    · rename_i hstopping
      obtain rfl := hstop hstopping
      exact ⟨l, t, s.now, by simp [hl]⟩
    · simp [Worker.isStopped, hp] at hrunning

theorem Sound.fail (h : s.Sound settings) (hb : s.worker.busy = true) (message : String) :
    (s.fail message).Sound settings := by
  obtain ⟨cb, hturns, -, hrunning, -⟩ := h.within hb
  exact Sound.wake (h.past hrunning rfl (hturns.failed s.now) rfl ⟨rfl, message, rfl⟩
    (fun last hends => hends.failed message) (by simp [Worker.fail]))

theorem calls_of_tickEarly {w : Worker} (hn : s.worker.tickEarly? s.now = some w) :
    s.worker.busy = false ∧ s.worker.Calls s.now (!s.queue.isOpen) s.queue .tick w s.queue :=
  Worker.calls_of_tickEarly? hn

theorem Sound.move (h : s.Sound settings) (hm : Move s s') : s'.Sound settings := by
  cases hm with
  | send ho hd => exact h.send ho (Queue.items_of_trySend hd)
  | close => exact h.close
  | clock ht => exact ⟨h.same, h.turns, h.course, h.kept, h.begun, h.deadline, h.stopped⟩
  | wait id =>
    exact Sound.wake ⟨h.same, h.turns, h.course, h.kept, h.begun, h.deadline, h.stopped⟩
  | begin hb hn => exact h.begin hb (Worker.calls_of_next? hn)
  | tickEarly hn =>
    obtain ⟨hb, hc⟩ := calls_of_tickEarly hn
    exact h.begin hb hc
  | finish hb => exact h.finish hb
  | fail hb message => exact h.fail hb message

theorem Attended.begin (ha : s.Attended) {cb : Callback α} {w : Worker} {q : Queue α}
    (hc : s.worker.Calls s.now (!s.queue.isOpen) s.queue cb w q) : (s.begin cb w q).Attended := by
  obtain ⟨hrunning, hw⟩ := hc.running
  refine ⟨ha.comers, fun _ => ha.released hrunning, fun hs => ?_⟩
  have hs : w.isStopped = true := hs
  simp [hw] at hs

theorem Attended.move (ha : s.Attended) (h : s.Sound settings) (hm : Move s s') : s'.Attended := by
  cases hm with
  | send | close | clock => exact ⟨ha.comers, ha.released, ha.waiting⟩
  | wait id => exact attended_wake (by simp [ha.comers]) ha.released
  | begin hb hn => exact ha.begin (Worker.calls_of_next? hn)
  | tickEarly hn => exact ha.begin (calls_of_tickEarly hn).2
  | finish hb =>
    obtain ⟨-, -, -, hrunning, -⟩ := h.within hb
    exact attended_wake ha.comers fun _ => ha.released hrunning
  | fail hb message =>
    obtain ⟨-, -, -, hrunning, -⟩ := h.within hb
    exact attended_wake ha.comers fun _ => ha.released hrunning

theorem Sound.reaches (h : s.Sound settings) (hr : Reaches s s') : s'.Sound settings := by
  induction hr with
  | refl => exact h
  | tail _ hm ih => exact ih.move hm

theorem Attended.reaches (ha : s.Attended) (h : s.Sound settings) (hr : Reaches s s') :
    s'.Attended := by
  induction hr with
  | refl => exact ha
  | tail hr hm ih => exact ih.move (h.reaches hr) hm

/-! ## The end -/

theorem Sound.stays (h : s.Sound settings) (hs : s.worker.isStopped = true) (hm : Move s s') :
    s'.worker.isStopped = true ∧ s'.marks = s.marks := by
  cases hm with
  | send | close | clock => exact ⟨hs, rfl⟩
  | wait id => simpa using hs
  | begin hb hn => simp [(Worker.calls_of_next? hn).running.1] at hs
  | tickEarly hn =>
    simp [(calls_of_tickEarly hn).2.running.1] at hs
  | finish hb =>
    obtain ⟨-, -, -, hrunning, -⟩ := h.within hb
    simp [hrunning] at hs
  | fail hb message =>
    obtain ⟨-, -, -, hrunning, -⟩ := h.within hb
    simp [hrunning] at hs

theorem Sound.stays_reaches (h : s.Sound settings) (hs : s.worker.isStopped = true)
    (hr : Reaches s s') : s'.worker.isStopped = true ∧ s'.marks = s.marks := by
  induction hr with
  | refl => exact ⟨hs, rfl⟩
  | tail hr hm ih =>
    obtain ⟨hs', hmarks⟩ := (h.reaches hr).stays ih.1 hm
    exact ⟨hs', hmarks.trans ih.2⟩

theorem Turns.of_returned {l : List (Mark α)} {t : Instant} {stage : Stage α}
    (h : Turns (l ++ [.returned t]) stage) : stage = .idle := by
  generalize hl : l ++ [.returned t] = l' at h
  cases h <;> simp at hl ⊢

theorem Turns.of_failed {l : List (Mark α)} {t : Instant} {stage : Stage α}
    (h : Turns (l ++ [.failed t]) stage) : stage = .broken := by
  generalize hl : l ++ [.failed t] = l' at h
  cases h <;> simp at hl ⊢

/-- The worker has stopped exactly if its stop has returned or a callback has failed. -/
theorem Sound.isStopped_iff (h : s.Sound settings) :
    s.worker.isStopped = true ↔ (∃ l t t', s.marks = l ++ [.began .stop t, .returned t'])
      ∨ ∃ l t, s.marks = l ++ [.failed t] := by
  obtain ⟨stage, hturns, hat⟩ := h.turns
  constructor
  · intro hs
    cases hp : s.worker.phase with
    | stopped => exact .inl (h.stopped hp)
    | failed message =>
      cases stage with
      | idle => exact absurd hp (hat.2.2 message)
      | within cb => simp [hat.2.1] at hs
      | broken => exact .inr hturns.eq_of_broken
    | serving | lastTick | stopping => simp [Worker.isStopped, hp] at hs
  · rintro (⟨l, t, t', hl⟩ | ⟨l, t, hl⟩)
    · -- the stop is no callback of a worker that serves or has only had its last tick
      have hidle : stage = .idle :=
        Turns.of_returned (l := l ++ [.began .stop t]) (t := t') (by simpa [hl] using hturns)
      subst hidle
      obtain ⟨before, last, hcb, hbefore, hends, -⟩ := h.course
      have hlast : before ++ last = l.filterMap Mark.callback? ++ [.stop] := by
        simp [← hcb, callbacks, hl, Mark.callback?]
      cases hp : s.worker.phase with
      | serving =>
        obtain rfl : last = [] := by simpa [hp, Ends] using hends
        rw [List.append_nil] at hlast
        exact absurd rfl (hbefore .stop (by simp [hlast]))
      | lastTick =>
        obtain rfl : last = [.tick] := by simpa [hp, Ends] using hends
        simp at hlast
      | stopping => exact absurd hp hat.2.1
      | stopped => simp [Worker.isStopped, hp]
      | failed message => simp [Worker.isStopped, hp]
    · have hbroken : stage = .broken := Turns.of_failed (l := l) (t := t) (hl ▸ hturns)
      subst hbroken
      obtain ⟨message, hp⟩ := hat.2
      simp [Worker.isStopped, hp]

/-! ## Coming to the end -/

/-- How many callbacks and returns are left at most of a worker whose queue is closed and that takes
no tick before it has to. -/
def left (s : Shift α) : Nat :=
  2 * s.queue.items.length + (if s.worker.busy then 1 else 0) +
    match s.worker.phase with
    | .serving => 4
    | .lastTick => 2
    | _ => 0

theorem Sound.not_stopping (h : s.Sound settings) (hb : s.worker.busy = false) :
    s.worker.phase ≠ .stopping := by
  obtain ⟨stage, -, hat⟩ := h.turns
  cases stage with
  | idle => exact hat.2.1
  | within cb => simp [hat.1] at hb
  | broken =>
    obtain ⟨message, hp⟩ := hat.2
    simp [hp]

theorem left_finish_lt (hb : s.worker.busy = true) : s.finish.left < s.left := by
  have hitems : (s.worker.finish.leave s.queue).items.length ≤ s.queue.items.length := by
    unfold Worker.leave
    split <;> simp [Queue.abandon]
  have hbusy : s.worker.finish.busy = false := rfl
  simp only [left, Shift.finish, queue_wake, worker_wake, hb, hbusy, ↓reduceIte, Bool.false_eq_true]
  by_cases hp : s.worker.phase = .stopping
  · simp only [Worker.finish, hp, ↓reduceIte] at hitems ⊢
    omega
  · simp only [Worker.finish, hp, ↓reduceIte] at hitems ⊢
    omega

/-- A worker whose queue is closed and that has not stopped is in a callback or has another one. -/
theorem Sound.progress (h : s.Sound settings) (ho : s.queue.isOpen = false)
    (hs : s.worker.isStopped = false) :
    ∃ s', Move s s' ∧ s'.left < s.left ∧ s'.queue.isOpen = false := by
  cases hb : s.worker.busy with
  | true =>
    exact ⟨s.finish, .finish hb, left_finish_lt hb, by simpa [Shift.finish, Worker.isOpen_leave]⟩
  | false =>
    cases hp : s.worker.phase with
    | serving =>
      rcases hq : s.queue.items with _ | ⟨a, rest⟩
      · have hn : s.worker.next? s.now (!s.queue.isOpen) s.queue
            = some (.tick, { s.worker with busy := true, phase := .lastTick }, s.queue) := by
          simp [Worker.next?, hp, ho, Queue.pop?, hq]
        exact ⟨_, .begin hb hn, by simp [left, Shift.begin, hq, hp], ho⟩
      · have hn : s.worker.next? s.now (!s.queue.isOpen) s.queue
            = some (.input a (s.now + s.worker.settings.sendTimeout),
              { s.worker with busy := true }, { s.queue with items := rest }) := by
          simp [Worker.next?, hp, Queue.pop?, hq]
        refine ⟨_, .begin hb hn, ?_, ho⟩
        simp only [left, Shift.begin, hq, hp, hb, List.length_cons, ↓reduceIte, Bool.false_eq_true]
        omega
    | lastTick =>
      have hn : s.worker.next? s.now (!s.queue.isOpen) s.queue
          = some (.stop, { s.worker with busy := true, phase := .stopping }, s.queue) := by
        simp [Worker.next?, hp]
      exact ⟨_, .begin hb hn, by simp [left, Shift.begin, hp, hb], ho⟩
    | stopping => exact absurd hp (h.not_stopping hb)
    | stopped => simp [Worker.isStopped, hp] at hs
    | failed message => simp [Worker.isStopped, hp] at hs

theorem Sound.stops (h : s.Sound settings) (ho : s.queue.isOpen = false) :
    ∃ s', Reaches s s' ∧ s'.worker.isStopped = true := by
  induction hn : s.left using Nat.strongRecOn generalizing s with
  | ind n ih =>
    cases hs : s.worker.isStopped with
    | true => exact ⟨s, .refl, hs⟩
    | false =>
      obtain ⟨s₁, hm, hlt, ho₁⟩ := h.progress ho hs
      obtain ⟨s', hr, hs'⟩ := ih s₁.left (hn ▸ hlt) (h.move hm) ho₁ rfl
      exact ⟨s', .head hm hr, hs'⟩

/-- Once the queue is closed, a worker with nothing to do has stopped. -/
theorem Sound.rests (h : s.Sound settings) (hb : s.worker.busy = false)
    (hn : s.worker.hasNext s.now true s.queue = false) : s.worker.isStopped = true := by
  have hstopping := h.not_stopping hb
  cases hp : s.worker.phase <;> simp_all [Worker.isStopped, Worker.hasNext]

/-- What is true of a shift at any time. -/
structure Orderly (settings : WorkerSettings) (s : Shift α) : Prop where
  /-- One callback at a time. -/
  turns : ∃ stage, Turns s.marks stage
  /-- Items and ticks, then a last tick and the stop. These two come only when the queue is closed
  and each item that was sent has been handled, in the order of the queue. -/
  course : ∃ before last, s.callbacks = before ++ last ∧ (∀ cb ∈ before, cb ≠ .stop)
    ∧ (last = [] ∨ last = [.tick] ∨ last = [.tick, .stop])
    ∧ (last ≠ [] → s.queue.isOpen = false ∧ before.filterMap Callback.item? = s.sent)
  /-- What has not been handled is queued, in order, unless a callback failed. -/
  kept : s.worker.isStopped = false → s.inputs ++ s.queue.items = s.sent
  begun : s.inputs <+: s.sent
  deadline : ∀ a d t, .began (.input a d) t ∈ s.marks → d = t + settings.sendTimeout
  /-- The worker has stopped once its stop has returned or a callback has failed. -/
  stopped : s.worker.isStopped = true ↔
    (∃ l t t', s.marks = l ++ [.began .stop t, .returned t']) ∨ ∃ l t, s.marks = l ++ [.failed t]
  /-- From then on no callback runs. -/
  forever : s.worker.isStopped = true →
    ∀ s', Reaches s s' → s'.worker.isStopped = true ∧ s'.marks = s.marks
  /-- Whoever waits for the end is released then, and not before. -/
  waiting : s.comers = s.released ++ s.waiting
    ∧ (s.worker.isStopped = false → s.released = [])
    ∧ (s.worker.isStopped = true → s.waiting = [])
  /-- Once the queue is closed the worker can come to its end, and rests nowhere else. -/
  ends : s.queue.isOpen = false → (∃ s', Reaches s s' ∧ s'.worker.isStopped = true)
    ∧ (s.worker.busy = false → s.worker.hasNext s.now true s.queue = false →
      s.worker.isStopped = true)

/-- Whatever is sent, and however long the callbacks take, a worker with ticks is called for one
thing at a time, in order, and stops in order. -/
theorem orderly_of_reaches (ht : settings.tickInterval ≠ 0) {capacity : Nat} {now : Instant}
    (hr : Reaches (start settings capacity now) s) : s.Orderly settings := by
  have h₀ := sound_start (α := α) ht capacity now
  have h := h₀.reaches hr
  have ha := (attended_start capacity now).reaches h₀ hr
  obtain ⟨stage, hturns, -⟩ := h.turns
  obtain ⟨before, last, hcb, hbefore, hends, hlast⟩ := h.course
  have hlast' : last = [] ∨ last = [.tick] ∨ last = [.tick, .stop] := by
    cases hp : s.worker.phase <;> simp_all [Ends]
  exact {
    turns := ⟨stage, hturns⟩
    course := ⟨before, last, hcb, hbefore, hlast', hlast⟩
    kept := h.kept
    begun := h.begun
    deadline := h.deadline
    stopped := h.isStopped_iff
    forever := fun hs _ hr' => h.stays_reaches hs hr'
    waiting := ⟨ha.comers, ha.released, ha.waiting⟩
    ends := fun ho => ⟨h.stops ho, h.rests⟩ }

/-- An item, someone who waits, the end of the queue and of the worker. -/
theorem orderly_of_whole_shift :
    let settings : WorkerSettings := ⟨10, 5⟩
    settings.tickInterval ≠ 0 ∧ ∃ s : Shift Nat, Reaches (start settings 2 0) s
      ∧ s.worker.isStopped = true ∧ s.released = [1] ∧ s.sent = [7] ∧ s.Orderly settings := by
  intro settings
  have ht : settings.tickInterval ≠ 0 := by decide
  let q : Queue Nat := { capacity := 2, items := [7] }
  let s₁ : Shift Nat := { start settings 2 0 with queue := q, sent := [7] }
  let s₂ := Shift.wake { s₁ with comers := [1], waiting := [1] }
  let s₃ : Shift Nat := { s₂ with queue := s₂.queue.close }
  let s₄ := s₃.begin (.input 7 5) { s₃.worker with busy := true } { s₃.queue with items := [] }
  let s₅ := s₄.finish
  let s₆ := s₅.begin .tick { s₅.worker with busy := true, phase := .lastTick } s₅.queue
  let s₇ := s₆.finish
  let s₈ := s₇.begin .stop { s₇.worker with busy := true, phase := .stopping } s₇.queue
  have hd : (start settings 2 0).queue.trySend 0 0 7 = .done q := rfl
  have hr : Reaches (start settings 2 0) s₈.finish :=
    .head (.send rfl hd) <| .head (.wait s₁ 1) <| .head (.close s₂) <|
      .head (.begin rfl rfl) <| .head (.finish rfl) <| .head (.begin rfl rfl) <|
      .head (.finish rfl) <| .head (.begin rfl rfl) <| .single (.finish rfl)
  exact ⟨ht, s₈.finish, hr, rfl, rfl, rfl, orderly_of_reaches ht hr⟩

end Shift

/-! ## A scripted worker -/

namespace Script

/-- The scripted worker stands where a shift does. -/
structure Follows (c : Script α) (s : Shift (ScriptItem α)) : Prop where
  worker : s.worker = c.worker
  queue : s.queue = c.queue
  now : s.now = c.now
  waiting : s.waiting = c.waiting
  busy : c.worker.busy = c.sleep.isSome

variable {c : Script α} {s : Shift (ScriptItem α)}

/-- Those who wait are released on both sides. -/
theorem follows_wake (hnow : s.now = c.now) (hwaiting : s.waiting = c.waiting) {w : Worker}
    (hb : w.busy = c.sleep.isSome) (q : Queue (ScriptItem α)) (marks : List (Mark (ScriptItem α))) :
    (Script.wake { c with worker := w, queue := q }).Follows
      (Shift.wake { s with worker := w, queue := q, marks }) := by
  unfold Script.wake Shift.wake
  dsimp only
  split
  · exact ⟨rfl, rfl, hnow, rfl, hb⟩
  · exact ⟨rfl, rfl, hnow, hwaiting, hb⟩

theorem follows_finish (hworker : s.worker = c.worker) (hqueue : s.queue = c.queue)
    (hnow : s.now = c.now) (hwaiting : s.waiting = c.waiting) : c.finish.Follows s.finish := by
  unfold Script.finish Shift.finish
  rw [hworker, hqueue]
  exact follows_wake (c := { c with sleep := none }) hnow hwaiting rfl _ _

/-- What a scripted worker does is what happens in a shift. -/
theorem Follows.act (h : c.Follows s) : ∃ s', Shift.Reaches s s' ∧ c.act.Follows s' := by
  unfold Script.act
  cases hsleep : c.sleep with
  | some d =>
    have hb : s.worker.busy = true := by rw [h.worker, h.busy, hsleep, Option.isSome_some]
    have hfinish : Shift.Reaches s s.finish := .single (.finish hb)
    dsimp only
    split
    · exact ⟨s, .refl, h⟩
    · cases d <;> exact ⟨_, hfinish, follows_finish h.worker h.queue h.now h.waiting⟩
  | none =>
    have hb : s.worker.busy = false := by rw [h.worker, h.busy, hsleep, Option.isSome_none]
    have hbegin {cb : Callback (ScriptItem α)} {w : Worker} {q : Queue (ScriptItem α)}
        (hn : c.worker.next? c.now (!c.queue.isOpen) c.queue = some (cb, w, q)) :
        Shift.Move s (s.begin cb w q) ∧ w.busy = true := by
      refine ⟨.begin hb (by rw [h.worker, h.queue, h.now, hn]), ?_⟩
      cases Worker.calls_of_next? hn <;> rfl
    dsimp only
    split
    · rename_i i deadline w q hn
      obtain ⟨hmove, hbusy⟩ := hbegin hn
      unfold beginItem
      split
      · rename_i message _
        refine ⟨_, .tail (.single hmove) (.fail hbusy message), ?_⟩
        exact follows_wake (c := note _ { c with sleep := none }) h.now h.waiting rfl _ _
      · split
        · exact ⟨_, .single hmove, rfl, rfl, h.now, h.waiting, hbusy⟩
        · exact ⟨_, .tail (.single hmove) (.finish hbusy), follows_finish rfl rfl h.now h.waiting⟩
    · rename_i w q hn
      obtain ⟨hmove, hbusy⟩ := hbegin hn
      exact ⟨_, .single hmove, rfl, rfl, h.now, h.waiting, hbusy⟩
    · rename_i w q hn
      obtain ⟨hmove, hbusy⟩ := hbegin hn
      exact ⟨_, .single hmove, rfl, rfl, h.now, h.waiting, hbusy⟩
    · exact ⟨s, .refl, h⟩

end Script

end LogPipeline
