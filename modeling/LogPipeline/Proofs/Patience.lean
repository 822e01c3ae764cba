import LogPipeline.Proofs.Backpressure
import Mathlib.Logic.Function.Iterate
import Mathlib.Logic.Relation

/-!
# Waits for a turn and the time for sends

The time for the sends of a callback runs from when it begins, and a processor may wait for its turn
in it for as long as earlier runs take. `Berth` is a processor with its queue, its output, and a
destination that always has room; no time passes while the processor or the consumer can go on. Then
nothing in a callback takes time but a wait for the turn (`Berth.Inv.waits`). So a chunk is dropped
exactly if such a wait has lasted until the deadline of the callback and the output has no room when
the chunk is to be sent (`Berth.patient_of_reaches`).
-/

namespace LogPipeline

/-- How the sending of a chunk came out: when the callback had begun, until when the processor had
waited for its turn in it, and whether the queue of the output was full. -/
structure Trial where
  chunk : Chunk
  begun : Instant
  waited : Instant
  full : Bool
  taken : Bool

/-- The processor has waited for its turn until the time for the sends was over. -/
def Trial.Late (timeout : Nat) (e : Trial) : Prop := e.begun + timeout ≤ e.waited

instance (timeout : Nat) : DecidablePred (Trial.Late timeout) := fun e =>
  inferInstanceAs (Decidable (e.begun + timeout ≤ e.waited))

/-- A processor that writes to an output. The callback it is in has begun at `begun`, and until
`waited` it has waited for its turn in it. -/
structure Berth where
  child : Child
  sequencer : Sequencer := {}
  output : Output
  destination : Destination
  books : Books := {}
  now : Instant := 0
  begun : Instant := 0
  waited : Instant := 0
  trials : List Trial := []

/-- The chunk of which the next step decides whether the output takes it, and the decision. -/
def Member.Place.decision? (now : Instant) (x : Place) : Option (Chunk × Bool) :=
  match x.member.processor.agenda with
  | .offer c :: _ => if x.output.isAccepting then none else some (c, false)
  | .sending c :: _ =>
    match x.output.queue.trySend now x.member.processor.deadline c with
    | .done _ => some (c, true)
    | .failed _ => some (c, false)
    | .blocked => none
  | _ => none

namespace Berth

def member (x : Berth) : Member := x.child.member

def processor (x : Berth) : Processor := x.child.member.processor

def isBusy (x : Berth) : Bool := x.child.member.worker.busy

def place (x : Berth) : Member.Place := ⟨x.member, x.sequencer, x.output, x.books⟩

/-- The processor does its next step, and what comes of a send is noted. -/
def act (x : Berth) : Berth :=
  if x.isBusy then
    let y := Member.busyAct x.now x.place
    { x with
      child := ⟨y.member.worker.leave x.child.queue, y.member⟩
      sequencer := y.sequencer
      output := y.output
      books := y.books
      trials := x.trials ++ (x.place.decision? x.now).toList.map fun e =>
        ⟨e.1, x.begun, x.waited, !x.output.queue.hasRoom, e.2⟩ }
  else x

/-- Others get a ticket. -/
def issue (x : Berth) : Berth := { x with sequencer := x.sequencer.issue.2 }

/-- Others let go of a ticket. -/
def release (n : Nat) (x : Berth) : Berth := { x with sequencer := x.sequencer.release n }

/-- A batch comes into the queue, with one more reference to its ticket. -/
def feed (b : OrderedBatch) (x : Berth) : Berth :=
  { x with
    child.queue := x.child.queue.push b
    sequencer := b.run.elim x.sequencer x.sequencer.share }

/-- No more batches come. -/
def close (x : Berth) : Berth := { x with child.queue := x.child.queue.close }

/-- A callback begins. It leaves the worker and its queue like this. -/
def call (cb : Callback OrderedBatch) (w : Worker) (q : Queue OrderedBatch) (x : Berth) : Berth :=
  { x with child := ⟨q, x.member.begin x.now cb w⟩, begun := x.now, waited := x.now }

/-- The consumer does its next step, and `n` chunks are received from the destination. -/
def consume (n : Option Nat) (x : Berth) : Berth :=
  let y := x.output.consume x.now x.processor.isSending x.output.id x.destination x.books
  { x with output := y.1, destination := (y.2.1.take n).2, books := y.2.2 }

/-- The consumer can go on. -/
def consumerAble (x : Berth) : Bool :=
  x.output.consumerAble x.now x.processor.isSending x.output.id x.destination

/-- The processor is in a callback and can go on. -/
def processorAble (x : Berth) : Bool :=
  x.isBusy && x.member.busyAble x.now x.sequencer x.output

/-- It becomes `t`. -/
def pass (t : Instant) (x : Berth) : Berth :=
  { x with now := t, waited := if x.processor.isWaiting x.sequencer then t else x.waited }

/-- One move of anybody. Others hold tickets and let go of them whenever they like. Callbacks come
in any order that a worker has them in, and a tick of the consumer may come at any time. -/
inductive Move (x : Berth) : Berth → Prop where
  | issue : Move x x.issue
  | release (n : Nat) : Move x (x.release n)
  | feed (b : OrderedBatch) : Move x (x.feed b)
  | close : Move x x.close
  | call {cb : Callback OrderedBatch} {w : Worker} {q : Queue OrderedBatch}
      (hb : x.isBusy = false)
      (hc : x.member.worker.Calls x.now (!x.child.queue.isOpen) x.child.queue cb w q) :
    Move x (x.call cb w q)
  | act : Move x x.act
  | consume (n : Option Nat) (hroom : (x.consume n).destination.queue.hasRoom = true) :
    Move x (x.consume n)
  | consumerTick {w : Worker} (hh : x.output.held = none)
      (hw : x.output.consumer.tickEarly? x.now = some w) :
    Move x { x with output := { x.output with consumer := w } }
  | pass (t : Instant) (ht : x.now ≤ t) (hp : x.processorAble = false)
      (hc : x.consumerAble = false) : Move x (x.pass t)

/-- A processor made from a blueprint, to which nothing was given yet. -/
def start (bp : Blueprint) (stages : Stages) (name : String) (o : Output) (d : Destination)
    (books : Books) (now : Instant) : Berth :=
  { child := ⟨{ capacity := bp.settings.queueCapacity }, .start bp stages name now⟩
    output := o
    destination := d
    books
    now }

end Berth

/-- So many chunks more were taken and lost, each of the lost ones by a send that was late. -/
structure Books.Ships (taken lost : Nat) (b b' : Books) : Prop where
  forwarded : b'.counters.chunksForwarded = b.counters.chunksForwarded + taken
  chunksLost : b'.counters.chunksLost = b.counters.chunksLost + lost
  timeouts : b'.counters.sendTimeouts = b.counters.sendTimeouts + lost

namespace Books.Ships

variable {m n m' n' : Nat} {b b' b'' : Books}

theorem refl (b : Books) : Ships 0 0 b b := ⟨rfl, rfl, rfl⟩

theorem trans (h : Ships m n b b') (h' : Ships m' n' b' b'') : Ships (m + m') (n + n') b b'' := by
  obtain ⟨h1, h2, h3⟩ := h
  obtain ⟨h1', h2', h3'⟩ := h'
  exact ⟨by omega, by omega, by omega⟩

/-- No task of a processor sends a chunk. -/
theorem step {now : Instant} {p p' : Processor} {s s' : Sequencer}
    (hs : p.Step now s b p' s' b') : Ships 0 0 b b' := by
  cases hs <;> exact ⟨rfl, rfl, rfl⟩

end Books.Ships

/-! ## The output -/

/-- The output accepts chunks, and its consumer runs. -/
structure Output.Serving (bp : Blueprint) (o : Output) : Prop extends Output.Fitted bp o where
  isOpen : o.queue.isOpen = true
  isRead : o.queue.isRead = true
  phase : o.consumer.phase = .serving
  idle : o.consumer.busy = false → o.held = none

namespace Output

variable {bp : Blueprint} {o : Output} {now : Instant} {sending : Bool} {i : Nat} {d : Destination}

theorem serving_start {tag : String} {id capacity : Nat}
    (ho : start tag id capacity bp.worker now d = .ok o) (ht : bp.settings.tickInterval ≠ 0) :
    o.Serving bp := by
  have hf := fitted_start ho
  unfold start at ho
  split at ho
  · simp at ho
  · obtain rfl := Except.ok.inj ho
    have hw : Worker.spawn bp.worker now
        = { settings := bp.worker, nextTick := now + bp.worker.tickInterval } := if_neg ht
    refine ⟨hf, ?_, ?_, ?_, fun _ => rfl⟩ <;> simp [hw, Worker.leave, Worker.isStopped]

theorem Serving.push (h : o.Serving bp) (c : Chunk) :
    Serving bp { o with queue := o.queue.push c } :=
  ⟨⟨h.consumer, h.capacity⟩, h.isOpen, h.isRead, h.phase, h.idle⟩

theorem Serving.finish (h : o.Serving bp) : o.finish.Serving bp := by
  have hphase : o.consumer.finish.phase = .serving := by simp [Worker.finish, h.phase]
  have hqueue : o.finish.queue = o.queue := by
    simp [Output.finish, Worker.leave, Worker.isStopped, hphase]
  exact ⟨h.toFitted.finish, hqueue ▸ h.isOpen, hqueue ▸ h.isRead, hphase, fun _ => rfl⟩

/-- The consumer of an output that accepts chunks is called for a chunk or a tick. -/
theorem Serving.call (h : o.Serving bp) {cb : Callback Chunk} {w : Worker} {q : Queue Chunk}
    (hc : o.consumer.Calls now (o.isEnded sending) o.queue cb w q)
    {held : Option (Chunk × Instant)} :
    Serving bp { o with consumer := w, queue := q, held } := by
  have hf := hc.fitted
  have hended : o.isEnded sending = false := by simp [isEnded, h.isOpen]
  have hfitted : Output.Fitted bp { o with consumer := w, queue := q, held } :=
    ⟨hf.1.trans h.consumer, hf.2 ▸ h.capacity⟩
  cases hc with
  | input => exact ⟨hfitted, h.isOpen, h.isRead, h.phase, by simp⟩
  | tick => exact ⟨hfitted, h.isOpen, h.isRead, h.phase, by simp⟩
  | lastTick hp hq he => simp [hended] at he
  | stop hp => simp [h.phase] at hp

/-- With room at the destination the consumer loses nothing. -/
theorem Serving.consume (h : o.Serving bp) (hd : d.Ready) (now : Instant) (sending : Bool)
    (i : Nat) (b : Books) :
    (o.consume now sending i d b).1.Serving bp ∧ (o.consume now sending i d b).2.2 = b
      ∧ (o.consume now sending i d b).2.1.queue.isRead = true
      ∧ (o.consume now sending i d b).2.1.claims = [] := by
  unfold Output.consume
  split
  · rename_i c deadline hh
    have hoffer : d.offer now deadline i ⟨o.tag, o.id, c⟩
        = (.taken, { d.withdraw i with queue := d.queue.push ⟨o.tag, o.id, c⟩ }) := by
      simp [Destination.offer, hd.isRead, hd.hasRoomFor i]
    rw [hoffer]
    exact ⟨h.finish, rfl, hd.isRead, by simp [Destination.withdraw, hd.claims]⟩
  · split
    · exact ⟨h.finish, rfl, hd.isRead, hd.claims⟩
    · split
      · exact ⟨h.call (Worker.calls_of_next? ‹_›), rfl, hd.isRead, hd.claims⟩
      · exact ⟨h.call (Worker.calls_of_next? ‹_›), rfl, hd.isRead, hd.claims⟩
      · exact ⟨h, rfl, hd.isRead, hd.claims⟩

/-- While something is queued the consumer can go on. -/
theorem Serving.able (h : o.Serving bp) (hd : d.Ready) (hq : o.queue.hasRoom = false) :
    o.consumerAble now sending i d = true := by
  have hne : o.queue.items ≠ [] := fun hnil => by
    simp [Queue.hasRoom, hnil, h.capacity] at hq
  unfold consumerAble
  split
  · simp [Destination.concerns, Destination.decides, hd.hasRoomFor]
  · simp [Worker.hasNext, h.phase, hne]

end Output

/-! ## The processor -/

namespace Member

variable {bp : Blueprint} {now : Instant} {m : Member}

/-- The deadline of a callback is set when it begins. -/
theorem Fitted.deadline_begin (h : m.Fitted bp) {ended : Bool} {q q' : Queue OrderedBatch}
    {cb : Callback OrderedBatch} {w : Worker} (hc : m.worker.Calls now ended q cb w q') :
    (m.begin now cb w).processor.deadline = now + bp.settings.sendTimeout := by
  have htimeout : now + m.processor.sendTimeout = now + bp.settings.sendTimeout := by
    rw [h.timeout]
  cases cb with
  | input b t =>
    rw [show (m.begin now (.input b t) w).processor.deadline = t from rfl, hc.deadline, h.worker]
    rfl
  | tick => exact htimeout
  | stop =>
    show (m.processor.stop now).deadline = _
    rw [Processor.deadline_stop]
    exact htimeout

/-- A chunk is sent if there is room, dropped if there is none and no time is left, and any other
step sends nothing. -/
theorem busyAct_cases (now : Instant) {x : Place} (ho : x.output.Serving bp) :
    (∃ c, x.decision? now = some (c, true) ∧ x.output.queue.hasRoom = true
        ∧ (busyAct now x).output = { x.output with queue := x.output.queue.push c }
        ∧ Books.Ships 1 0 x.books (busyAct now x).books)
      ∨ (∃ c, x.decision? now = some (c, false) ∧ x.output.queue.hasRoom = false
        ∧ x.member.processor.deadline ≤ now ∧ (busyAct now x).output = x.output
        ∧ Books.Ships 0 1 x.books (busyAct now x).books)
      ∨ x.decision? now = none ∧ (busyAct now x).output = x.output
        ∧ Books.Ships 0 0 x.books (busyAct now x).books := by
  have htask := Books.Ships.step
    (Processor.step_act now x.member.processor x.sequencer x.books)
  rcases ha : x.member.processor.agenda with _ | ⟨t, l⟩
  · simp only [busyAct, Place.decision?, ha]
    exact .inr (.inr ⟨trivial, trivial, .refl _⟩)
  · cases t
    case sending c =>
      simp only [busyAct, Place.decision?, ha, Output.trySend, Queue.trySend, ho.isRead,
        Bool.not_true, Bool.false_eq_true, ↓reduceIte]
      by_cases hroom : x.output.queue.hasRoom = true
      · simp only [hroom, ↓reduceIte]
        exact .inl ⟨c, rfl, trivial, rfl, rfl, rfl, rfl⟩
      · by_cases hd : x.member.processor.deadline ≤ now
        · simp only [hroom, hd, Bool.false_eq_true, ↓reduceIte]
          exact .inr (.inl ⟨c, rfl, trivial, trivial, trivial, rfl, rfl, rfl⟩)
        · simp only [hroom, hd, Bool.false_eq_true, ↓reduceIte]
          exact .inr (.inr ⟨trivial, trivial, .refl _⟩)
    case offer c =>
      simp only [busyAct, Place.decision?, ha, Output.isAccepting, ho.isOpen, ↓reduceIte]
      exact .inr (.inr ⟨trivial, trivial, .refl _⟩)
    case crash =>
      simp only [busyAct, Place.decision?, ha]
      exact .inr (.inr ⟨trivial, trivial, .refl _⟩)
    all_goals
      simp only [busyAct, Place.decision?, ha]
      exact .inr (.inr ⟨trivial, trivial, htask⟩)

theorem serving_busyAct (now : Instant) {x : Place} (ho : x.output.Serving bp) :
    (busyAct now x).output.Serving bp := by
  rcases busyAct_cases now ho with ⟨c, -, -, h, -⟩ | ⟨c, -, -, -, h, -⟩ | ⟨-, h, -⟩ <;> rw [h]
  · exact ho.push c
  · exact ho
  · exact ho

theorem deadline_acts {x x' : Place} (hx : Acts now x x') :
    x'.member.processor.deadline = x.member.processor.deadline := by
  cases hx with
  | task hs => exact Processor.deadline_step hs
  | _ => rfl

end Member

/-! ## Runs -/

namespace Berth

variable {bp : Blueprint} {b : Books} {x y : Berth}

/-- The trials are what the books have counted, and a chunk was dropped exactly if its processor had
waited for too long and there was no room. -/
structure Patient (timeout : Nat) (b : Books) (x : Berth) : Prop where
  decided : ∀ e ∈ x.trials, e.taken = false ↔ e.Late timeout ∧ e.full = true
  counted : b.Ships (x.trials.countP (·.taken)) (x.trials.countP (!·.taken)) x.books

/-- What every move keeps. Time is left in a callback as long as the processor has not waited in it
until its deadline. -/
structure Inv (bp : Blueprint) (b : Books) (x : Berth) : Prop where
  fitted : x.member.Fitted bp
  serving : x.output.Serving bp
  ready : x.destination.Ready
  waited : x.waited ≤ x.now
  deadline : x.isBusy = true → x.processor.deadline = x.begun + bp.settings.sendTimeout
  prompt : x.isBusy = true → x.now < x.processor.deadline ∨ x.processor.deadline ≤ x.waited
  patient : x.Patient bp.settings.sendTimeout b

/-- When nobody can go on, a processor in a callback waits for its turn. -/
theorem Inv.waits (h : x.Inv bp b) (hb : x.isBusy = true) (hp : x.processorAble = false)
    (hc : x.consumerAble = false) : x.processor.isWaiting x.sequencer = true := by
  rw [processorAble, hb, Bool.true_and] at hp
  unfold Member.busyAble at hp
  split at hp
  · -- a chunk that is being sent would find the consumer at work
    have hroom : x.output.queue.hasRoom = false := by
      simp only [Queue.decides, Bool.or_eq_false_iff] at hp
      exact hp.1.2
    have hable : x.consumerAble = true := h.serving.able h.ready hroom
    simp [hable] at hc
  · simpa [processor, member] using hp

/-- The time for the sends is over exactly if the processor has waited for so long. -/
theorem Inv.over_iff (h : x.Inv bp b) (hb : x.isBusy = true) :
    x.processor.deadline ≤ x.now ↔ x.begun + bp.settings.sendTimeout ≤ x.waited := by
  rw [← h.deadline hb]
  exact ⟨fun hle => (h.prompt hb).resolve_left (Nat.not_lt.2 hle), fun hle =>
    Nat.le_trans hle h.waited⟩

theorem Patient.same {timeout : Nat} (h : x.Patient timeout b) (ht : y.trials = x.trials)
    (hb : y.books = x.books) : y.Patient timeout b := by
  refine ⟨ht ▸ h.decided, ?_⟩
  rw [ht, hb]
  exact h.counted

theorem Patient.record {timeout : Nat} (h : x.Patient timeout b) {e : Trial}
    (hy : y.trials = x.trials ++ [e]) (he : e.taken = false ↔ e.Late timeout ∧ e.full = true)
    (hb : x.books.Ships e.taken.toNat (!e.taken).toNat y.books) : y.Patient timeout b := by
  refine ⟨fun e' he' => ?_, ?_⟩
  · rw [hy] at he'
    rcases List.mem_append.1 he' with he' | he'
    · exact h.decided e' he'
    · obtain rfl := List.mem_singleton.1 he'
      exact he
  · have hcounted := h.counted.trans hb
    rw [hy, List.countP_append, List.countP_append]
    cases ht : e.taken <;> simpa [ht] using hcounted

/-- A chunk that is dropped finds no room after a wait that was too long, and no other is. -/
theorem Inv.patient_act (h : x.Inv bp b) : x.act.Patient bp.settings.sendTimeout b := by
  unfold Berth.act
  split
  · rename_i hb
    have hover := h.over_iff hb
    rcases Member.busyAct_cases x.now (x := x.place) h.serving with
      ⟨c, hd, hroom, -, hships⟩ | ⟨c, hd, hroom, hlate, -, hships⟩ | ⟨hd, -, hships⟩
    · have hroom : x.output.queue.hasRoom = true := hroom
      refine h.patient.record (e := ⟨c, x.begun, x.waited, false, true⟩) ?_ (by simp) hships
      simp [hd, hroom]
    · have hroom : x.output.queue.hasRoom = false := hroom
      refine h.patient.record (e := ⟨c, x.begun, x.waited, true, false⟩) ?_ ?_ hships
      · simp [hd, hroom]
      · simpa [Trial.Late] using hover.1 hlate
    · refine ⟨?_, ?_⟩
      · simpa [hd] using h.patient.decided
      · simpa [hd] using h.patient.counted.trans hships
  · exact h.patient

theorem Inv.act (h : x.Inv bp b) : x.act.Inv bp b := by
  have hpatient := h.patient_act
  unfold Berth.act at hpatient ⊢
  split
  · rename_i hb
    have hacts := Member.acts_busyAct x.now x.place
    have hdeadline := Member.deadline_acts hacts
    simp only [hb, ↓reduceIte] at hpatient
    exact ⟨(h.fitted.acts h.serving.toFitted hacts).1,
      Member.serving_busyAct x.now (x := x.place) h.serving, h.ready, h.waited,
      fun _ => hdeadline.trans (h.deadline hb), fun _ => hdeadline.symm ▸ h.prompt hb, hpatient⟩
  · exact h

/-- A callback begins with all its time. -/
theorem Inv.call (h : x.Inv bp b) {cb : Callback OrderedBatch} {w : Worker}
    {q : Queue OrderedBatch}
    (hc : x.member.worker.Calls x.now (!x.child.queue.isOpen) x.child.queue cb w q) :
    (x.call cb w q).Inv bp b := by
  have hdeadline := h.fitted.deadline_begin hc
  refine ⟨h.fitted.begin hc.fitted.1 x.now cb, h.serving, h.ready, Nat.le_refl _,
    fun _ => hdeadline, fun _ => ?_, h.patient.same rfl rfl⟩
  exact Nat.lt_or_ge _ _

/-- Time passes while a processor waits for its turn, and while it is in no callback. -/
theorem Inv.pass (h : x.Inv bp b) {t : Instant} (ht : x.now ≤ t) (hp : x.processorAble = false)
    (hc : x.consumerAble = false) : (x.pass t).Inv bp b := by
  refine ⟨h.fitted, h.serving, h.ready, ?_, h.deadline, fun hb => ?_, h.patient.same rfl rfl⟩
  · simp only [Berth.pass]
    split
    · exact Nat.le_refl _
    · exact Nat.le_trans h.waited ht
  · simp only [Berth.pass, h.waits hb hp hc, ↓reduceIte]
    exact Nat.lt_or_ge _ _

theorem Inv.move (h : x.Inv bp b) (hm : x.Move y) : y.Inv bp b := by
  have hsame : ∀ s q, Inv bp b { x with sequencer := s, child.queue := q } := fun s q =>
    ⟨h.fitted, h.serving, h.ready, h.waited, h.deadline, h.prompt, h.patient.same rfl rfl⟩
  cases hm with
  | issue => exact hsame _ x.child.queue
  | release n => exact hsame _ x.child.queue
  | feed batch => exact hsame _ _
  | close => exact hsame x.sequencer _
  | call hb hc => exact h.call hc
  | act => exact h.act
  | consume n hroom =>
    obtain ⟨hserving, hbooks, hread, hclaims⟩ :=
      h.serving.consume h.ready x.now x.processor.isSending x.output.id x.books
    exact ⟨h.fitted, hserving, ⟨hread, hroom, hclaims⟩, h.waited, h.deadline, h.prompt,
      h.patient.same rfl hbooks⟩
  | @consumerTick w hh hw =>
    have hcall : x.output.consumer.Calls x.now (x.output.isEnded false) x.output.queue .tick w
        x.output.queue := (Worker.calls_of_tickEarly? hw).2
    exact ⟨h.fitted, h.serving.call hcall, h.ready, h.waited, h.deadline, h.prompt,
      h.patient.same rfl rfl⟩
  | pass t ht hp hc => exact h.pass ht hp hc

theorem inv_start {stages : Stages} {name : String} {o : Output} {d : Destination} {now : Instant}
    (ho : o.Serving bp) (hd : d.Ready) : (start bp stages name o d b now).Inv bp b := by
  have hidle : (start bp stages name o d b now).isBusy = false := Worker.busy_spawn ..
  exact ⟨Member.fitted_start .., ho, hd, Nat.zero_le _, by simp [hidle], by simp [hidle],
    ⟨by simp [start], .refl b⟩⟩

/-- A chunk is dropped exactly if the processor has waited for its turn until the deadline of the
callback and the output has no room for the chunk; the books count what was taken and what was
dropped. So waits that end before the deadline cost nothing. No chunk that is being sent waits for
the clock: when nobody can go on, a processor in a callback waits for its turn. -/
theorem patient_of_reaches {stages : Stages} {name tag : String} {id capacity : Nat}
    {o : Output} {d : Destination} {now : Instant}
    (ho : Output.start tag id capacity bp.worker now d = .ok o) (hd : d.Ready)
    (ht : bp.settings.tickInterval ≠ 0)
    (h : Relation.ReflTransGen Move (start bp stages name o d b now) x) :
    x.Patient bp.settings.sendTimeout b
      ∧ ((∀ e ∈ x.trials, ¬ e.Late bp.settings.sendTimeout) →
        x.books.counters.chunksLost = b.counters.chunksLost
          ∧ x.books.counters.sendTimeouts = b.counters.sendTimeouts)
      ∧ (x.isBusy = true → x.processorAble = false → x.consumerAble = false →
        x.processor.isWaiting x.sequencer = true) := by
  have hinv : x.Inv bp b := by
    induction h with
    | refl => exact inv_start (Output.serving_start ho ht) hd
    | tail _ hm ih => exact ih.move hm
  refine ⟨hinv.patient, fun hnone => ?_, hinv.waits⟩
  have htaken : x.trials.countP (!·.taken) = 0 := List.countP_eq_zero.2 fun e he => by
    have hiff := hinv.patient.decided e he
    simp [hnone e he] at hiff
    simp [hiff]
  have hcounted := hinv.patient.counted
  rw [htaken] at hcounted
  exact ⟨hcounted.chunksLost, hcounted.timeouts⟩

/-! ### Two chunks and an output with room for one -/

theorem reaches_acts (n : Nat) (x : Berth) : Relation.ReflTransGen Move x (act^[n] x) := by
  induction n generalizing x with
  | zero => exact .refl
  | succ n ih => exact .head .act (ih x.act)

/-- Sends have ten milliseconds, and every line is a chunk. -/
def brisk : Blueprint := { settings := { sendTimeout := 10, processing := { chunkMaxBytes := 1 } } }

def narrow : Output :=
  { tag := "logs", id := 0, queue := { capacity := 1 }
    consumer := { settings := brisk.worker, nextTick := 100 } }

def moored : Berth :=
  start brisk (.standard ⟨["name"]⟩ []) "a" narrow { queue := { capacity := 8 } } {} 0

/-- Two chunks of a second run are held back, and the processor waits for its turn. -/
def parked : Berth :=
  let batch : OrderedBatch := ⟨[{}, {}], some 1, true⟩
  act^[8] (((moored.issue.issue.feed batch)).call (.input batch 10)
    { settings := brisk.worker, busy := true, nextTick := 100 } { capacity := 256 })

theorem reaches_parked : Relation.ReflTransGen Move moored parked := by
  have hfed := ((Relation.ReflTransGen.single (Move.issue (x := moored))).tail .issue).tail
    (.feed ⟨[{}, {}], some 1, true⟩)
  exact (hfed.tail (.call rfl (.input rfl rfl))).trans (reaches_acts 8 _)

/-- A wait of five milliseconds costs nothing. -/
theorem patient_of_short_wait :
    ∃ x, Relation.ReflTransGen Move moored x ∧ x.trials.length = 2 ∧ x.Patient 10 {}
      ∧ x.books.counters.chunksLost = 0 ∧ x.books.counters.sendTimeouts = 0 := by
  have h₁ := (reaches_parked.tail (.pass 5 (by decide) (by decide) (by decide))).tail (.release 0)
  have h₂ := h₁.trans (reaches_acts 4 _)
  have h₃ := (h₂.tail (.consume none (by decide +kernel))).tail (.consume none (by decide +kernel))
  have h₄ := h₃.trans (reaches_acts 3 _)
  have ho : Output.start "logs" 0 1 brisk.worker 0 { queue := { capacity := 8 } } = .ok narrow :=
    rfl
  obtain ⟨hpatient, hspared, -⟩ := patient_of_reaches ho ⟨rfl, rfl, rfl⟩ (by decide) h₄
  exact ⟨_, h₄, by decide +kernel, hpatient, hspared (by decide +kernel)⟩

/-- A wait of twenty milliseconds costs a chunk: the second of the two finds the queue full. -/
theorem dropped_of_long_wait :
    ∃ x, Relation.ReflTransGen Move moored x
      ∧ x.books.counters.chunksLost = 1 ∧ x.books.counters.sendTimeouts = 1 := by
  have h₁ := (reaches_parked.tail (.pass 20 (by decide) (by decide) (by decide))).tail (.release 0)
  exact ⟨_, h₁.trans (reaches_acts 7 _), by decide +kernel, by decide +kernel⟩

end Berth

end LogPipeline
