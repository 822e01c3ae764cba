import LogPipeline.Proofs.Crews

/-!
# Chunks at the output

A quay is an output with those who ask it to accept chunks, and the destination it forwards to,
which others send to as well. `Output.Consumes` lists what a step of the consumer can do. A chunk
may be refused by the output or be lost by its consumer; either is counted once, and the chunks that
came into the queue stay apart in those that were handed on, the one with the consumer and those
that wait (`Quay.Sound`). So a drained output has delivered every chunk or counted it lost
(`conserved_of_reaches`).
-/

namespace LogPipeline

open Relation

/-- A destination that takes a chunk is read. -/
theorem Destination.isRead_of_taken {now deadline : Instant} {i : Nat} {t : TaggedChunk}
    {d d' : Destination} (h : d.offer now deadline i t = (.taken, d')) : d.queue.isRead = true := by
  by_contra hr
  have hr : d.queue.isRead = false := by simpa using hr
  simp [offer, hr] at h

/-- What a step of the consumer does. The first is the chunk that it hands over, if any. -/
inductive Output.Consumes (now : Instant) (sending : Bool) (i : Nat) (d : Destination) (o : Output)
    (b : Books) : Option TaggedChunk → Output × Destination × Books → Prop where
  | taken {c : Chunk} {deadline : Instant} (hh : o.held = some (c, deadline))
      (hr : d.queue.isRead = true) :
    Consumes now sending i d o b (some ⟨o.tag, o.id, c⟩)
      (o.finish, { d.withdraw i with queue := d.queue.push ⟨o.tag, o.id, c⟩ }, b)
  | refused {c : Chunk} {deadline : Instant} {timedOut : Bool} (hh : o.held = some (c, deadline)) :
    Consumes now sending i d o b none (o.finish, d.withdraw i, b.loseChunk timedOut)
  | claim : Consumes now sending i d o b none (o, d.claim i, b)
  | finish (hh : o.held = none) (hb : o.consumer.busy = true) :
    Consumes now sending i d o b none (o.finish, d, b)
  | input {c : Chunk} {deadline : Instant} {w : Worker} {q : Queue Chunk} (hh : o.held = none)
      (hb : o.consumer.busy = false)
      (hc : o.consumer.Calls now (o.isEnded sending) o.queue (.input c deadline) w q) :
    Consumes now sending i d o b none
      ({ o with consumer := w, queue := q, held := some (c, deadline) }, d, b)
  | call {cb : Callback Chunk} {w : Worker} {q : Queue Chunk} (hh : o.held = none)
      (hb : o.consumer.busy = false) (hcb : ∀ c deadline, cb ≠ .input c deadline)
      (hc : o.consumer.Calls now (o.isEnded sending) o.queue cb w q) :
    Consumes now sending i d o b none ({ o with consumer := w, queue := q }, d, b)
  | rest : Consumes now sending i d o b none (o, d, b)

/-- The chunk that a step of the consumer hands over. -/
def Output.handsOver (now : Instant) (i : Nat) (d : Destination) (o : Output) :
    Option TaggedChunk :=
  match o.held with
  | some (c, deadline) =>
    match (d.offer now deadline i ⟨o.tag, o.id, c⟩).1 with
    | .taken => some ⟨o.tag, o.id, c⟩
    | _ => none
  | none => none

theorem Output.consumes_consume (now : Instant) (sending : Bool) (i : Nat) (d : Destination)
    (o : Output) (b : Books) :
    o.Consumes now sending i d b (o.handsOver now i d) (o.consume now sending i d b) := by
  obtain ⟨tag, id, queue, consumer, held⟩ := o
  simp only [handsOver, consume]
  rcases held with _ | ⟨c, deadline⟩
  · dsimp only
    split
    · exact .finish rfl ‹_›
    · rename_i hb
      have hb := Bool.eq_false_iff.2 hb
      split
      · exact .input rfl hb (Worker.calls_of_next? ‹_›)
      · rename_i cb w q hne hcall
        refine .call rfl hb (fun c deadline hcb => ?_) (Worker.calls_of_next? hcall)
        subst hcb
        exact hne c deadline rfl
      · exact .rest
  · rcases d.offer_cases now deadline i ⟨tag, id, c⟩ with h | ⟨reason, h⟩ | h
    · simp only [h]
      exact .taken rfl (Destination.isRead_of_taken h)
    · simp only [h]
      exact .refused rfl
    · simp only [h]
      exact .claim

/-- An output with those who ask it to accept chunks, the destination and the books of this output.
The rest is what has happened: how many calls have returned and how many of them were refused, the
chunks that came into the queue, those that were handed over, and at the destination everything that
arrived, from this output or others, and what was received of it. -/
structure Quay where
  output : Output
  destination : Destination
  books : Books := {}
  now : Instant
  calls : List (Chunk × Instant) := []
  completed : Nat := 0
  refused : Nat := 0
  queued : List Chunk := []
  delivered : List TaggedChunk := []
  arrived : List TaggedChunk
  received : List TaggedChunk := []

namespace Quay

/-- A new output. What was at the destination before stays there. -/
def start (o : Output) (d : Destination) (now : Instant) : Quay :=
  { output := o, destination := d, now, arrived := d.queue.items }

/-- The consumer's next step. -/
def consume (i : Nat) (s : Quay) : Quay :=
  let handed := s.output.handsOver s.now i s.destination
  let (output, destination, books) :=
    s.output.consume s.now (!s.calls.isEmpty) i s.destination s.books
  { s with
    output, destination, books
    delivered := s.delivered ++ handed.toList
    arrived := s.arrived ++ handed.toList }

/-- One thing that happens at output `i`. -/
inductive Move (i : Nat) : Quay → Quay → Prop where
  | ask {s : Quay} (c : Chunk) (deadline : Instant) (ho : s.output.isAccepting = true) :
    Move i s { s with calls := s.calls ++ [(c, deadline)] }
  | refuse {s : Quay} (ho : s.output.isAccepting = false) :
    Move i s { s with
      books := s.books.count Counters.chunkLost
      completed := s.completed + 1
      refused := s.refused + 1 }
  | accept {s : Quay} {l l' : List (Chunk × Instant)} {c : Chunk} {deadline : Instant}
      {q : Queue Chunk} {o : Output} {b : Books} (hc : s.calls = l ++ (c, deadline) :: l')
      (hq : s.output.queue.trySend s.now deadline c = .done q)
      (ho : s.output.trySend s.now deadline c s.books = some (o, b)) :
    Move i s { s with
      output := o, books := b, calls := l ++ l'
      completed := s.completed + 1
      queued := s.queued ++ [c] }
  | giveUp {s : Quay} {l l' : List (Chunk × Instant)} {c : Chunk} {deadline : Instant}
      {reason : SendFailure} {o : Output} {b : Books} (hc : s.calls = l ++ (c, deadline) :: l')
      (hq : s.output.queue.trySend s.now deadline c = .failed reason)
      (ho : s.output.trySend s.now deadline c s.books = some (o, b)) :
    Move i s { s with
      output := o, books := b, calls := l ++ l'
      completed := s.completed + 1
      refused := s.refused + 1 }
  | shutDown (s : Quay) : Move i s { s with output := s.output.shutDown }
  | consume (s : Quay) : Move i s (s.consume i)
  | tickEarly {s : Quay} {w : Worker} (hn : s.output.consumer.tickEarly? s.now = some w) :
    Move i s { s with output := { s.output with consumer := w } }
  | clock {s : Quay} {t : Instant} (ht : s.now ≤ t) : Move i s { s with now := t }
  | offer {s : Quay} {j : Nat} {deadline : Instant} {t : TaggedChunk} {d : Destination} (hj : j ≠ i)
      (hd : s.destination.offer s.now deadline j t = (.taken, d)) :
    Move i s { s with destination := d, arrived := s.arrived ++ [t] }
  | wait {s : Quay} {j : Nat} {deadline : Instant} {t : TaggedChunk} {r : Reception}
      {d : Destination} (hj : j ≠ i) (hd : s.destination.offer s.now deadline j t = (r, d))
      (hr : r ≠ .taken) :
    Move i s { s with destination := d }
  | receive (s : Quay) (n : Option Nat) :
    Move i s { s with
      destination := (s.destination.take n).2
      received := s.received ++ (s.destination.take n).1 }
  | closeDestination (s : Quay) :
    Move i s { s with destination.queue := s.destination.queue.abandon }

/-- What may happen at output `i` in the end. -/
abbrev Reaches (i : Nat) : Quay → Quay → Prop := ReflTransGen (Move i)

/-- Where the chunks of an output are. -/
structure Sound (tag : String) (id : Nat) (s : Quay) : Prop where
  named : s.output.tag = tag ∧ s.output.id = id
  marked : ∀ t ∈ s.delivered, t.tag = tag ∧ t.id = id
  /-- What came into the queue was handed on, is with the consumer or waits in the queue. -/
  order : ∃ gone, s.queued = gone ++ s.output.held.toList.map Prod.fst ++ s.output.queue.items
    ∧ (s.delivered.map TaggedChunk.chunk).Sublist gone
    ∧ s.delivered.length + s.books.counters.chunksLost = gone.length + s.refused
  forwarded : s.books.counters.chunksForwarded = s.queued.length
  bytes : s.books.counters.chunkBytes = total (fun c => c.data.size) s.queued
  completed : s.completed = s.queued.length + s.refused
  idle : s.output.consumer.busy = false → s.output.held = none
  /-- Once the consumer comes to its end nothing is left and nothing comes. -/
  ended : s.output.consumer.phase ≠ .serving → s.output.held = none ∧ s.output.queue.items = []
    ∧ (s.output.queue.isRead = false ∨ s.output.queue.isOpen = false ∧ s.calls = [])

variable {tag : String} {id i : Nat} {s s' : Quay}

/-! ## Calls -/

/-- A chunk is to be accepted by an output that takes chunks. -/
theorem Sound.ask (h : s.Sound tag id) (ho : s.output.isAccepting = true)
    (calls : List (Chunk × Instant)) : Sound tag id { s with calls } := by
  refine ⟨h.named, h.marked, h.order, h.forwarded, h.bytes, h.completed, h.idle, fun hp => ?_⟩
  obtain ⟨hheld, hitems, hr | ⟨hclosed, -⟩⟩ := h.ended hp
  · exact ⟨hheld, hitems, .inl hr⟩
  · rw [Output.isAccepting, hclosed] at ho
    simp at ho

/-- A chunk is not accepted, which is counted. -/
theorem Sound.refuse (h : s.Sound tag id) (b : Books)
    (hb : b.counters.chunksForwarded = s.books.counters.chunksForwarded
      ∧ b.counters.chunkBytes = s.books.counters.chunkBytes
      ∧ b.counters.chunksLost = s.books.counters.chunksLost + 1) :
    Sound tag id { s with books := b, completed := s.completed + 1, refused := s.refused + 1 } := by
  obtain ⟨gone, hq, hs, hn⟩ := h.order
  refine ⟨h.named, h.marked, ⟨gone, hq, hs, ?_⟩, hb.1.trans h.forwarded,
    hb.2.1.trans h.bytes, ?_, h.idle, h.ended⟩
  · show s.delivered.length + b.counters.chunksLost = gone.length + (s.refused + 1)
    omega
  · show s.completed + 1 = s.queued.length + (s.refused + 1)
    rw [h.completed, Nat.add_assoc]

/-- A call returns. -/
theorem Sound.returned (h : s.Sound tag id) {l l' : List (Chunk × Instant)} {x : Chunk × Instant}
    (hc : s.calls = l ++ x :: l') : Sound tag id { s with calls := l ++ l' } := by
  refine ⟨h.named, h.marked, h.order, h.forwarded, h.bytes, h.completed, h.idle, fun hp => ?_⟩
  obtain ⟨hheld, hitems, hr | ⟨-, hnone⟩⟩ := h.ended hp
  · exact ⟨hheld, hitems, .inl hr⟩
  · simp [hc] at hnone

/-- The chunk of a call comes into the queue. -/
theorem Sound.accept (h : s.Sound tag id) {x : Chunk × Instant} (hx : x ∈ s.calls) {c : Chunk}
    (hr : s.output.queue.isRead = true) :
    Sound tag id { s with
      output := { s.output with queue := s.output.queue.push c }
      books := s.books.count (Counters.forwarded c.data.size)
      completed := s.completed + 1
      queued := s.queued ++ [c] } := by
  obtain ⟨gone, hq, hs, hn⟩ := h.order
  refine ⟨h.named, h.marked, ⟨gone, ?_, hs, hn⟩, ?_, ?_, ?_, h.idle, fun hp => ?_⟩
  · simp [hq]
  · simp [Books.count, Counters.forwarded, h.forwarded]
  · simp [Books.count, Counters.forwarded, h.bytes]
  · simp [h.completed]
    omega
  · obtain ⟨-, -, hr' | ⟨-, hnone⟩⟩ := h.ended hp
    · have hr' : s.output.queue.isRead = false := hr'
      simp [hr] at hr'
    · simp [hnone] at hx

/-! ## The consumer -/

theorem Sound.serving (h : s.Sound tag id) {x : Chunk × Instant} (hh : s.output.held = some x) :
    s.output.consumer.phase = .serving := by
  by_contra hp
  have := (h.ended hp).1
  simp [hh] at this

/-- The end of a callback takes nothing from the queue. -/
theorem Sound.items_finish (h : s.Sound tag id) :
    s.output.finish.queue.items = s.output.queue.items := by
  simp only [Output.finish, Worker.leave]
  split
  · rename_i hstopped
    have hp : s.output.consumer.phase ≠ .serving := fun hp => by
      simp [Worker.isStopped, Worker.finish, hp] at hstopped
    rw [(h.ended hp).2.1]
    rfl
  · rfl

theorem Sound.ended_finish (h : s.Sound tag id)
    (hp : s.output.finish.consumer.phase ≠ .serving) :
    s.output.finish.held = none ∧ s.output.finish.queue.items = []
      ∧ (s.output.finish.queue.isRead = false
        ∨ s.output.finish.queue.isOpen = false ∧ s.calls = []) := by
  have hphase : s.output.consumer.phase ≠ .serving := fun hserving => by
    simp [Output.finish, Worker.finish, hserving] at hp
  obtain ⟨-, hitems, hend⟩ := h.ended hphase
  refine ⟨rfl, h.items_finish.trans hitems, ?_⟩
  have hopen : s.output.finish.queue.isOpen = s.output.queue.isOpen := Worker.isOpen_leave ..
  rw [hopen]
  refine hend.imp_left fun hr => ?_
  simp only [Output.finish, Worker.leave]
  split
  · rfl
  · exact hr

/-- The consumer is done with what it held, having handed it over or counted it lost. -/
theorem Sound.finish (h : s.Sound tag id) {b : Books} (handed : Option TaggedChunk)
    (hhanded : ∀ t ∈ handed, ∃ deadline, s.output.held = some (t.chunk, deadline)
      ∧ t.tag = s.output.tag ∧ t.id = s.output.id)
    (hb : b.counters.chunksForwarded = s.books.counters.chunksForwarded
      ∧ b.counters.chunkBytes = s.books.counters.chunkBytes
      ∧ handed.toList.length + b.counters.chunksLost
        = s.output.held.toList.length + s.books.counters.chunksLost) :
    Sound tag id { s with
      output := s.output.finish, books := b, delivered := s.delivered ++ handed.toList } := by
  obtain ⟨gone, hq, hs, hn⟩ := h.order
  refine ⟨h.named, ?_, ⟨gone ++ s.output.held.toList.map Prod.fst, ?_, ?_, ?_⟩,
    hb.1.trans h.forwarded, hb.2.1.trans h.bytes, h.completed, fun _ => rfl, h.ended_finish⟩
  · intro t ht
    rcases List.mem_append.1 ht with ht | ht
    · exact h.marked t ht
    · obtain ⟨deadline, -, htag, hid⟩ := hhanded t (Option.mem_toList.1 ht)
      exact ⟨htag.trans h.named.1, hid.trans h.named.2⟩
  · rw [h.items_finish, hq]
    simp [Output.finish]
  · rw [List.map_append]
    refine hs.append ?_
    cases handed with
    | none => simp
    | some t =>
      obtain ⟨deadline, hh, -⟩ := hhanded t rfl
      simp [hh]
  · simp only [List.length_append, List.length_map]
    omega

/-- The destination and the clock are nothing to the books of the output. -/
theorem Sound.elsewhere (h : s.Sound tag id) (destination : Destination) (now : Instant)
    (arrived received : List TaggedChunk) :
    Sound tag id { s with destination, now, arrived, received } :=
  ⟨h.named, h.marked, h.order, h.forwarded, h.bytes, h.completed, h.idle, h.ended⟩

theorem loseChunk_chunks (b : Books) (timedOut : Bool) :
    (b.loseChunk timedOut).counters.chunksForwarded = b.counters.chunksForwarded
      ∧ (b.loseChunk timedOut).counters.chunkBytes = b.counters.chunkBytes
      ∧ (b.loseChunk timedOut).counters.chunksLost = b.counters.chunksLost + 1 := by
  cases timedOut <;> exact ⟨rfl, rfl, rfl⟩

/-- The consumer takes a chunk. -/
theorem Sound.input (h : s.Sound tag id) (hh : s.output.held = none) {c : Chunk}
    {deadline : Instant} {w : Worker} {q : Queue Chunk}
    (hc : s.output.consumer.Calls s.now (s.output.isEnded (!s.calls.isEmpty)) s.output.queue
      (.input c deadline) w q) :
    Sound tag id { s with
      output := { s.output with consumer := w, queue := q, held := some (c, deadline) } } := by
  obtain ⟨gone, hq, hs, hn⟩ := h.order
  cases hc with
  | input hp hitems =>
    refine ⟨h.named, h.marked, ⟨gone, ?_, hs, hn⟩, h.forwarded, h.bytes, h.completed,
      fun hb => by simp at hb, fun hp' => absurd hp hp'⟩
    simpa [hh, hitems] using hq

/-- The consumer is called for a tick or its stop. -/
theorem Sound.call (h : s.Sound tag id) (hh : s.output.held = none) {cb : Callback Chunk}
    (hcb : ∀ c deadline, cb ≠ .input c deadline) {w : Worker} {q : Queue Chunk}
    (hc : s.output.consumer.Calls s.now (s.output.isEnded (!s.calls.isEmpty)) s.output.queue
      cb w q) :
    Sound tag id { s with output := { s.output with consumer := w, queue := q } } := by
  have hsame (hq : q = s.output.queue) (hended : w.phase ≠ .serving → s.output.held = none
      ∧ s.output.queue.items = [] ∧ (s.output.queue.isRead = false
        ∨ s.output.queue.isOpen = false ∧ s.calls = [])) :
      Sound tag id { s with output := { s.output with consumer := w, queue := q } } := by
    subst hq
    exact ⟨h.named, h.marked, h.order, h.forwarded, h.bytes, h.completed, fun _ => hh, hended⟩
  cases hc with
  | input => exact absurd rfl (hcb _ _)
  | tick hp => exact hsame rfl fun hp' => absurd hp hp'
  | lastTick hp hitems he =>
    refine hsame rfl fun _ => ⟨hh, hitems, .inr ?_⟩
    simpa [Output.isEnded] using he
  | stop hp => exact hsame rfl fun _ => h.ended (by simp [hp])

theorem Sound.of_consumes (h : s.Sound tag id) {handed : Option TaggedChunk} {o : Output}
    {d : Destination} {b : Books}
    (hc : s.output.Consumes s.now (!s.calls.isEmpty) i s.destination s.books handed (o, d, b)) :
    Sound tag id { s with
      output := o, destination := d, books := b
      delivered := s.delivered ++ handed.toList
      arrived := s.arrived ++ handed.toList } := by
  cases hc with
  | @taken c deadline hh hr =>
    refine (h.finish (some ⟨_, _, c⟩) ?_ ⟨rfl, rfl, ?_⟩).elsewhere _ s.now _ s.received
    · intro t ht
      obtain rfl := Option.mem_some.1 ht
      exact ⟨deadline, hh, rfl, rfl⟩
    · simp [hh]
  | @refused c deadline timedOut hh =>
    obtain ⟨hf, hby, hl⟩ := loseChunk_chunks s.books timedOut
    refine (h.finish none (by simp) ⟨hf, hby, ?_⟩).elsewhere _ s.now _ s.received
    simp [hh, hl]
    omega
  | finish hh hb =>
    refine (h.finish none (by simp) ⟨rfl, rfl, ?_⟩).elsewhere _ s.now _ s.received
    simp [hh]
  | claim => simpa using h.elsewhere _ s.now s.arrived s.received
  | input hh hb hc => simpa using h.input hh hc
  | call hh hb hcb hc => simpa using h.call hh hcb hc
  | rest => simpa using h

theorem done_of_trySend {now deadline : Instant} {c : Chunk} {o o' : Output} {q : Queue Chunk}
    {b b' : Books} (hq : o.queue.trySend now deadline c = .done q)
    (ho : o.trySend now deadline c b = some (o', b')) :
    o.queue.isRead = true ∧ o' = { o with queue := o.queue.push c }
      ∧ b' = b.count (Counters.forwarded c.data.size) := by
  obtain ⟨hr, -, rfl⟩ := Queue.trySend_eq_done_iff.1 hq
  rw [Output.trySend, hq] at ho
  obtain ⟨rfl, rfl⟩ := Prod.mk.inj (Option.some.inj ho)
  exact ⟨hr, rfl, rfl⟩

theorem failed_of_trySend {now deadline : Instant} {c : Chunk} {o o' : Output}
    {reason : SendFailure} {b b' : Books}
    (hq : o.queue.trySend now deadline c = .failed reason)
    (ho : o.trySend now deadline c b = some (o', b')) :
    o' = o ∧ b' = b.loseChunk (reason = .timeout) := by
  rw [Output.trySend, hq] at ho
  obtain ⟨rfl, rfl⟩ := Prod.mk.inj (Option.some.inj ho)
  exact ⟨rfl, rfl⟩

theorem Sound.move (h : s.Sound tag id) (hm : Move i s s') : s'.Sound tag id := by
  cases hm with
  | ask c deadline ho => exact h.ask ho _
  | refuse ho => exact h.refuse _ ⟨rfl, rfl, rfl⟩
  | accept hc hq ho =>
    obtain ⟨hr, rfl, rfl⟩ := done_of_trySend hq ho
    exact (h.accept (hc ▸ List.mem_append_cons_self) hr).returned hc
  | giveUp hc hq ho =>
    obtain ⟨rfl, rfl⟩ := failed_of_trySend hq ho
    exact (h.refuse _ (loseChunk_chunks ..)).returned hc
  | shutDown =>
    refine ⟨h.named, h.marked, h.order, h.forwarded, h.bytes, h.completed, h.idle, fun hp => ?_⟩
    obtain ⟨hheld, hitems, hend⟩ := h.ended hp
    exact ⟨hheld, hitems, hend.imp_right fun hend => ⟨rfl, hend.2⟩⟩
  | consume => exact h.of_consumes (Output.consumes_consume ..)
  | tickEarly hn =>
    obtain ⟨hb, hc⟩ := Worker.calls_of_tickEarly? hn (q := s.output.queue)
    exact h.call (h.idle hb) (by simp) hc
  | clock => exact h.elsewhere s.destination _ s.arrived s.received
  | offer => exact h.elsewhere _ s.now _ s.received
  | wait => exact h.elsewhere _ s.now s.arrived s.received
  | receive n => exact h.elsewhere _ s.now s.arrived _
  | closeDestination => exact h.elsewhere _ s.now s.arrived s.received

/-! ## The destination -/

/-- What arrived at a destination was received or waits there, as long as it is read; what this
output delivered is part of it. -/
structure Stocked (d : Destination) (delivered arrived received : List TaggedChunk) : Prop where
  ours : delivered.Sublist arrived
  first : received ++ d.queue.items <+: arrived
  whole : d.queue.isRead = true → received ++ d.queue.items = arrived

section Destination

variable {d d' : Destination} {delivered arrived received : List TaggedChunk}

/-- A chunk arrives at a destination that is read. -/
theorem Stocked.arrive (h : Stocked d delivered arrived received) (hr : d.queue.isRead = true)
    {t : TaggedChunk} (hd : d'.queue = d.queue.push t) {delivered' : List TaggedChunk}
    (hdelivered : delivered'.Sublist (arrived ++ [t])) :
    Stocked d' delivered' (arrived ++ [t]) received := by
  have heq : received ++ d'.queue.items = arrived ++ [t] := by
    rw [hd, Queue.push_items, ← List.append_assoc, h.whole hr]
  exact ⟨hdelivered, heq ▸ List.prefix_rfl, fun _ => heq⟩

theorem Stocked.same (h : Stocked d delivered arrived received) (hd : d'.queue = d.queue) :
    Stocked d' delivered arrived received :=
  ⟨h.ours, hd ▸ h.first, hd ▸ h.whole⟩

theorem Stocked.take (h : Stocked d delivered arrived received) (n : Option Nat) :
    Stocked (d.take n).2 delivered arrived (received ++ (d.take n).1) := by
  have hall : (received ++ (d.take n).1) ++ (d.take n).2.queue.items
      = received ++ d.queue.items := by
    rw [List.append_assoc]
    exact congrArg _ (List.take_append_drop ..)
  exact ⟨h.ours, hall ▸ h.first, fun hr => hall.trans (h.whole hr)⟩

theorem Stocked.abandon (h : Stocked d delivered arrived received) :
    Stocked { d with queue := d.queue.abandon } delivered arrived received := by
  refine ⟨h.ours, ?_, fun hr => by simp [Queue.abandon] at hr⟩
  exact List.IsPrefix.trans (by simp [Queue.abandon]) h.first

theorem Stocked.of_consumes (h : Stocked d delivered arrived received) {now : Instant}
    {sending : Bool} {o : Output} {b : Books} {handed : Option TaggedChunk}
    {x : Output × Destination × Books} (hc : o.Consumes now sending i d b handed x) :
    Stocked x.2.1 (delivered ++ handed.toList) (arrived ++ handed.toList) received := by
  cases hc with
  | taken hh hr => exact h.arrive hr rfl (h.ours.append_right _)
  | refused =>
    rw [Option.toList_none, List.append_nil, List.append_nil]
    exact h.same rfl
  | claim =>
    rw [Option.toList_none, List.append_nil, List.append_nil]
    exact h.same (Destination.queue_claim i d)
  | finish | input | call | rest =>
    rw [Option.toList_none, List.append_nil, List.append_nil]
    exact h

end Destination

theorem stocked_move (h : Stocked s.destination s.delivered s.arrived s.received)
    (hm : Move i s s') : Stocked s'.destination s'.delivered s'.arrived s'.received := by
  cases hm with
  | ask | refuse | accept | giveUp | shutDown | tickEarly | clock => exact h
  | consume => exact h.of_consumes (Output.consumes_consume ..)
  | @offer j deadline t d hj hd =>
    rcases s.destination.offer_cases s.now deadline j t with he | ⟨reason, he⟩ | he <;>
      rw [hd] at he
    · obtain ⟨-, rfl⟩ := Prod.mk.inj he
      have hours := h.ours.trans (List.sublist_append_left _ [t])
      exact h.arrive (Destination.isRead_of_taken hd) rfl hours
    · simp at he
    · simp at he
  | @wait j deadline t r d hj hd hr =>
    rcases s.destination.offer_cases s.now deadline j t with he | ⟨reason, he⟩ | he <;>
      rw [hd] at he <;> obtain ⟨rfl, rfl⟩ := Prod.mk.inj he
    · exact absurd rfl hr
    · exact h.same rfl
    · exact h.same (Destination.queue_claim j s.destination)
  | receive n => exact h.take n
  | closeDestination => exact h.abandon

/-! ## The result -/

theorem sound_start {capacity : Nat} {settings : WorkerSettings} {now : Instant}
    {d : Destination} {o : Output} (ho : Output.start tag id capacity settings now d = .ok o) :
    (start o d now).Sound tag id := by
  unfold Output.start at ho
  split at ho
  · simp at ho
  · obtain rfl := Except.ok.inj ho
    have hitems (w : Worker) :
        (w.leave ({ capacity := max capacity 1 } : Queue Chunk)).items = [] := by
      unfold Worker.leave
      split <;> rfl
    refine ⟨⟨rfl, rfl⟩, by simp [start], ⟨[], ?_, List.Sublist.refl _, rfl⟩, rfl, rfl, rfl,
      fun _ => rfl, fun hp => ⟨rfl, hitems _, .inl ?_⟩⟩
    · simp [start, hitems]
    · by_cases ht : settings.tickInterval = 0
      · simp [start, Worker.spawn, ht, Worker.leave, Worker.isStopped, Queue.abandon]
      · simp [start, Worker.spawn, ht] at hp

theorem stocked_start (o : Output) (d : Destination) (now : Instant) :
    Stocked d (start o d now).delivered (start o d now).arrived (start o d now).received :=
  ⟨List.nil_sublist _, List.prefix_rfl, fun _ => rfl⟩

/-- What is so of an output at any time. -/
structure Conserved (tag : String) (id : Nat) (s : Quay) : Prop where
  marked : ∀ t ∈ s.delivered, t.tag = tag ∧ t.id = id
  /-- What was delivered came into the queue, in this order and once. -/
  order : (s.delivered.map TaggedChunk.chunk).Sublist s.queued
  forwarded : s.books.counters.chunksForwarded = s.queued.length
  completed : s.completed = s.books.counters.chunksForwarded + s.refused
  bytes : s.books.counters.chunkBytes = total (fun c => c.data.size) s.queued
  reading : ("chunk_bytes", UInt64.ofNat (total (fun c => c.data.size) s.queued))
    ∈ s.books.counters.readings
  /-- When the output is drained, as it is when its shutdown returns, every call that has returned
  led to a delivery or a loss. -/
  drained : s.output.isDrained = true →
    s.delivered.length + s.books.counters.chunksLost = s.completed
      ∧ s.output.queue.items = [] ∧ s.output.held = none
  /-- What was delivered arrived, and as long as the destination is read nothing of it gets lost. -/
  arrived : Stocked s.destination s.delivered s.arrived s.received

/-- Whoever asks an output to accept chunks, and whatever becomes of the destination, no chunk is
lost without being counted. -/
theorem conserved_of_reaches {capacity : Nat} {settings : WorkerSettings} {now : Instant}
    {d : Destination} {o : Output} (ho : Output.start tag id capacity settings now d = .ok o)
    (hr : Reaches i (start o d now) s) : s.Conserved tag id := by
  have h : s.Sound tag id ∧ Stocked s.destination s.delivered s.arrived s.received := by
    induction hr with
    | refl => exact ⟨sound_start ho, stocked_start o d now⟩
    | tail _ hm ih => exact ⟨ih.1.move hm, stocked_move ih.2 hm⟩
  obtain ⟨h, hstocked⟩ := h
  obtain ⟨gone, hq, hs, hn⟩ := h.order
  exact {
    marked := h.marked
    order := hs.trans (by simp [hq])
    forwarded := h.forwarded
    completed := by rw [h.completed, h.forwarded]
    bytes := h.bytes
    reading := by simp [Counters.readings, h.bytes]
    drained := fun hdrained => by
      have hp : s.output.consumer.phase ≠ .serving := fun hp => by
        simp [Output.isDrained, Worker.isStopped, hp] at hdrained
      obtain ⟨hheld, hitems, -⟩ := h.ended hp
      refine ⟨?_, hitems, hheld⟩
      have hgone : s.queued = gone := by simpa [hheld, hitems] using hq
      rw [hn, h.completed, hgone]
    arrived := hstocked }

/-- Of two chunks one finds room at the destination and the other does not in time, and a third one
comes after the shutdown. -/
theorem conserved_of_narrow_destination :
    let d : Destination := { queue := { capacity := 1 } }
    ∃ o, Output.start "web" 7 4 ⟨10, 5⟩ 0 d = .ok o ∧ ∃ s, Reaches 0 (start o d 0) s
      ∧ s.output.isDrained = true ∧ s.completed = 3 ∧ s.refused = 1
      ∧ s.delivered.map (fun t => (t.tag, t.id)) = [("web", 7)]
      ∧ s.books.counters.chunksLost = 2 ∧ s.books.counters.chunkBytes = 3
      ∧ s.Conserved "web" 7 := by
  intro d
  let o : Output := ⟨"web", 7, { capacity := 4 }, .spawn ⟨10, 5⟩ 0, none⟩
  have ho : Output.start "web" 7 4 ⟨10, 5⟩ 0 d = .ok o := rfl
  let c : Chunk := ⟨⟨#[1]⟩, 1, 1, false⟩
  let c' : Chunk := ⟨⟨#[2, 3]⟩, 1, 2, false⟩
  let q : Queue Chunk := { capacity := 4, items := [c] }
  let q' : Queue Chunk := { capacity := 4, items := [c, c'] }
  let s₁ : Quay := { start o d 0 with calls := [(c, 5)] }
  let s₂ : Quay := { s₁ with calls := [(c, 5), (c', 5)] }
  let s₃ : Quay := { s₂ with
    output := { o with queue := q }, books := s₂.books.count (Counters.forwarded 1)
    calls := [(c', 5)], completed := 1, queued := [c] }
  let s₄ : Quay := { s₃ with
    output := { o with queue := q' }, books := s₃.books.count (Counters.forwarded 2)
    calls := [], completed := 2, queued := [c, c'] }
  have hasked : Reaches 0 (start o d 0) s₂ := .head (.ask c 5 rfl) (.single (.ask c' 5 rfl))
  have h₃ : Move 0 s₂ s₃ :=
    .accept (show s₂.calls = [] ++ (c, 5) :: [(c', 5)] from rfl)
      (show s₂.output.queue.trySend s₂.now 5 c = .done q from rfl) rfl
  have h₄ : Move 0 s₃ s₄ :=
    .accept (show s₃.calls = [] ++ (c', 5) :: [] from rfl)
      (show s₃.output.queue.trySend s₃.now 5 c' = .done q' from rfl) rfl
  -- the first chunk is delivered, the second one claims room and waits until its deadline
  let s₅ := (((s₄.consume 0).consume 0).consume 0).consume 0
  have h₅ : Reaches 0 s₄ s₅ :=
    .head (.consume _) <| .head (.consume _) <| .head (.consume _) <| .single (.consume _)
  let s₆ := Quay.consume 0 { s₅ with now := 5 }
  have h₆ : Reaches 0 s₅ s₆ := .head (.clock (by decide +kernel)) (.single (.consume _))
  let s₇ : Quay := { s₆ with output := s₆.output.shutDown }
  let s₈ : Quay := { s₇ with
    books := s₇.books.count Counters.chunkLost
    completed := s₇.completed + 1, refused := s₇.refused + 1 }
  have h₈ : Reaches 0 s₆ s₈ := .head (.shutDown _) (.single (.refuse (by decide +kernel)))
  let s₉ := (((s₈.consume 0).consume 0).consume 0).consume 0
  have h₉ : Reaches 0 s₈ s₉ :=
    .head (.consume _) <| .head (.consume _) <| .head (.consume _) <| .single (.consume _)
  have hr : Reaches 0 (start o d 0) s₉ :=
    ((((hasked.tail h₃).tail h₄).trans h₅).trans h₆).trans (h₈.trans h₉)
  have hfacts : s₉.output.isDrained = true ∧ s₉.completed = 3 ∧ s₉.refused = 1
      ∧ s₉.delivered.map (fun t => (t.tag, t.id)) = [("web", 7)]
      ∧ s₉.books.counters.chunksLost = 2 ∧ s₉.books.counters.chunkBytes = 3 := by
    decide +kernel
  obtain ⟨hd, hc, hn, hm, hl, hb⟩ := hfacts
  exact ⟨o, ho, s₉, hr, hd, hc, hn, hm, hl, hb, conserved_of_reaches ho hr⟩

end Quay

end LogPipeline
