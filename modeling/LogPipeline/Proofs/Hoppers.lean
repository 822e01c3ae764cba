import LogPipeline.Proofs.Ages
import LogPipeline.Proofs.Clocks
import LogPipeline.Queue
import LogPipeline.Rig.Buffers
import Mathlib.Logic.Relation

/-!
# A send buffer at work

A hopper is a buffer with its queue, which others may do anything to, and the send that a call on it
has come to. Every batch that the buffer parts with is noted with what came of it: what was appended
is in these batches, in the one being sent, and in the buffer, in this order, what was lost on the
way is on the books once, and what is noted as taken is what was put on the queue
(`Hopper.account_of_reaches`). The calls of the rig are runs of a hopper
(`Buffers.deliver_reaches`).
-/

namespace LogPipeline

open Relation

/-- How a buffer parted with a batch: the queue took it, it could not be sent, or it still waited as
the buffer was dropped. -/
inductive Parting where
  | entered (b : Batch)
  | refused (reason : SendFailure) (b : Batch)
  | abandoned (b : Batch)
deriving DecidableEq, Repr

namespace Parting

def batch : Parting → Batch
  | entered b => b
  | refused _ b => b
  | abandoned b => b

/-- The records that are given up. -/
def lost : Parting → Batch
  | entered _ => []
  | refused _ b => b
  | abandoned b => b

/-- The batch that the queue took. -/
def taken? : Parting → Option Batch
  | entered b => some b
  | _ => none

def hasEntered (p : Parting) : Bool := p.taken?.isSome

def isTimeout : Parting → Bool
  | refused reason _ => reason = .timeout
  | _ => false

/-- The parting is entered on the books. -/
def enter : Parting → Books → Books
  | entered _, x => x
  | refused reason b, x => x.loseSend (reason = .timeout) b
  | abandoned b, x => x.lose b

/-- The books after partings: each record that is given up is counted and given back once, each
timeout is counted, and nothing else is. -/
theorem foldl_enter (ps : List Parting) (x : Books) :
    ps.foldl (fun x p => p.enter x) x =
      { counters := { x.counters with
          recordsLost := x.counters.recordsLost + (ps.flatMap lost).length
          sendTimeouts := x.counters.sendTimeouts + ps.countP isTimeout }
        pool := x.pool.releaseAll (ps.flatMap lost) } := by
  induction ps generalizing x with
  | nil => rfl
  | cons p ps ih =>
    rw [List.foldl_cons, ih, List.flatMap_cons, RecordPool.releaseAll_append, List.length_append,
      List.countP_cons]
    rcases p with b | ⟨reason, b⟩ | b
    · simp [enter, lost, isTimeout]
    · cases reason <;>
        simp [enter, lost, isTimeout, Books.loseSend, Books.lose, Books.count, Counters.lost,
          Counters.timedOut, Nat.add_assoc, Nat.add_comm 1]
    · simp [enter, lost, isTimeout, Books.lose, Counters.lost, Nat.add_assoc]

end Parting

/-- A buffer in use. `sending` is the batch being sent with its deadline, and `answer` tells whether
the last call delivered what it had to. Noted are the records that were given to it, each with its
time, and the partings. -/
structure Hopper where
  buffer : SendBuffer
  queue : Queue Batch
  books : Books := {}
  now : Instant := 0
  sending : Option (Batch × Instant) := none
  answer : Bool := true
  dropped : Bool := false
  given : List (Record × Instant) := []
  partings : List Parting := []

namespace Hopper

variable {h h' : Hopper} {limits : BufferLimits} {books : Books} {deadline t : Instant}

/-- The batch being sent. -/
def inHand (h : Hopper) : Batch := (h.sending.map Prod.fst).getD []

/-- A call has not returned. -/
def IsBusy (h : Hopper) : Prop := h.sending ≠ none

instance (h : Hopper) : Decidable h.IsBusy := inferInstanceAs (Decidable (_ ≠ _))

/-- Parts with a batch. -/
def part (p : Parting) (h : Hopper) : Hopper :=
  { h with
    sending := none
    answer := p.hasEntered
    books := p.enter h.books
    partings := h.partings ++ [p] }

/-- A call leaves the buffer like this, and has to send what came out of it. Nothing is sent to a
queue that nobody holds open. -/
def call (deadline : Instant) (r : Option Batch × SendBuffer) (h : Hopper) : Hopper :=
  let h := { h with buffer := r.2, answer := true }
  match r.1 with
  | none => h
  | some b =>
    if h.queue.isOpen then { h with sending := some (b, deadline) }
    else h.part (.refused .closed b)

def append (r : Record) (deadline : Instant) (h : Hopper) : Hopper :=
  { h with given := h.given ++ [(r, h.now)] }.call deadline (h.buffer.append h.now r)

def tick (t deadline : Instant) (h : Hopper) : Hopper := h.call deadline (h.buffer.tick t)

def flush (deadline : Instant) (h : Hopper) : Hopper := h.call deadline h.buffer.flush

/-- The buffer is dropped, and what waits in it is lost. -/
def drop (h : Hopper) : Hopper :=
  let h := if h.buffer.pending = [] then h else
    { h.part (.abandoned h.buffer.pending) with buffer := h.buffer.emptied }
  { h with dropped := true }

/-- The call under way tries to send its batch. -/
def attempt (h : Hopper) : Hopper :=
  match h.sending with
  | none => h
  | some (b, deadline) =>
    match h.queue.trySend h.now deadline b with
    | .done queue => { h with queue }.part (.entered b)
    | .failed reason => h.part (.refused reason b)
    | .blocked => h

/-- The sum of the bytes that wait is a word of 64 bits. -/
def word : Nat := 0x10000000000000000

/-- What the owner of a buffer can do. -/
inductive Call (h : Hopper) : Instant → Hopper → Prop where
  | append (r : Record) (deadline : Instant) (hr : r.size + h.buffer.limits.maxBytes ≤ word) :
    Call h deadline (h.append r deadline)
  | tick (t deadline : Instant) : Call h deadline (h.tick t deadline)
  | flush (deadline : Instant) : Call h deadline (h.flush deadline)

/-- What may happen: the owner calls once the call before has returned, or drops the buffer; the
call tries to go on; others use the queue, or close it at either end; time passes. -/
inductive Move (h : Hopper) : Hopper → Prop where
  | call {deadline : Instant} {h' : Hopper} (hc : Call h deadline h') (hi : ¬h.IsBusy)
    (hd : h.dropped = false) : Move h h'
  | drop (hi : ¬h.IsBusy) (hd : h.dropped = false) : Move h h.drop
  | attempt : Move h h.attempt
  | others (queue : Queue Batch) : Move h { h with queue }
  | pass (t : Instant) (ht : h.now ≤ t) : Move h { h with now := t }

/-- What happens until the call under way returns. -/
def Wait (h h' : Hopper) : Prop := h.IsBusy ∧ Move h h'

/-- A new buffer over a queue. -/
def start (key : String) (limits : BufferLimits) (queue : Queue Batch) (books : Books)
    (now : Instant) : Hopper :=
  { buffer := { key, limits }, queue, books, now }

/-! ## What a buffer recalls -/

/-- The limits of a buffer stay, and it recalls what was given to it last. -/
structure Tracks (limits : BufferLimits) (h : Hopper) : Prop where
  fixed : h.buffer.limits = limits
  recalls : ∃ recent, h.buffer.Recalls h.now h.given recent

theorem Tracks.of_same (ht : h.Tracks limits) (hb : h'.buffer = h.buffer) (hg : h'.given = h.given)
    (hn : h.now ≤ h'.now) : h'.Tracks limits := by
  obtain ⟨recent, hrecalls⟩ := ht.recalls
  refine ⟨hb ▸ ht.fixed, recent, ?_⟩
  rw [hb, hg]
  exact hrecalls.later hn

/-- A call leaves the buffer as it came out, and takes no time. -/
theorem call_same (deadline : Instant) (r : Option Batch × SendBuffer) (h : Hopper) :
    (h.call deadline r).buffer = r.2 ∧ (h.call deadline r).given = h.given
      ∧ (h.call deadline r).dropped = h.dropped ∧ (h.call deadline r).now = h.now := by
  obtain ⟨_ | b, buffer⟩ := r
  · exact ⟨rfl, rfl, rfl, rfl⟩
  · unfold Hopper.call
    dsimp only
    split <;> exact ⟨rfl, rfl, rfl, rfl⟩

/-- An attempt to send leaves the buffer alone, and takes no time. -/
theorem attempt_same (h : Hopper) :
    h.attempt.buffer = h.buffer ∧ h.attempt.given = h.given
      ∧ h.attempt.dropped = h.dropped ∧ h.attempt.now = h.now := by
  unfold Hopper.attempt
  split
  · exact ⟨rfl, rfl, rfl, rfl⟩
  · split <;> exact ⟨rfl, rfl, rfl, rfl⟩

theorem tracks_call {r : Option Batch × SendBuffer} {recent : List (Record × Instant)}
    (hl : r.2.limits = limits) (hr : r.2.Recalls h.now h.given recent) (deadline : Instant) :
    (h.call deadline r).Tracks limits := by
  obtain ⟨hbuffer, hgiven, -, hnow⟩ := call_same deadline r h
  refine ⟨hbuffer ▸ hl, recent, ?_⟩
  rw [hbuffer, hgiven, hnow]
  exact hr

theorem Tracks.ofCall (ht : h.Tracks limits) (hc : Call h deadline h') : h'.Tracks limits := by
  obtain ⟨recent, hrecalls⟩ := ht.recalls
  cases hc with
  | append r deadline =>
    obtain ⟨_, happend⟩ := hrecalls.append r
    exact tracks_call (h := { h with given := h.given ++ [(r, h.now)] })
      ((h.buffer.limits_append h.now r).trans ht.fixed) happend deadline
  | tick t deadline =>
    obtain ⟨-, hlimits, _, htick⟩ := hrecalls.tick t
    exact tracks_call (hlimits.trans ht.fixed) htick deadline
  | flush deadline =>
    exact tracks_call (hrecalls.flush.2.trans ht.fixed) hrecalls.flush.1 deadline

theorem Tracks.drop (ht : h.Tracks limits) : h.drop.Tracks limits := by
  unfold Hopper.drop
  split
  · exact ht.of_same rfl rfl (Nat.le_refl _)
  · exact ⟨ht.fixed, [], SendBuffer.recalls_emptied _ _ _⟩

theorem Tracks.move (ht : h.Tracks limits) (hm : Move h h') : h'.Tracks limits := by
  cases hm with
  | call hc => exact ht.ofCall hc
  | drop => exact ht.drop
  | attempt =>
    obtain ⟨hbuffer, hgiven, -, hnow⟩ := h.attempt_same
    exact ht.of_same hbuffer hgiven (Nat.le_of_eq hnow.symm)
  | others queue => exact ht.of_same rfl rfl (Nat.le_refl _)
  | pass t hle => exact ht.of_same rfl rfl hle

theorem tracks_reaches {key : String} {queue : Queue Batch} {now : Instant}
    (hr : ReflTransGen Move (start key limits queue books now) h) : h.Tracks limits := by
  induction hr with
  | refl => exact ⟨rfl, [], SendBuffer.recalls_nil rfl rfl _ _⟩
  | tail _ hm ih => exact ih.move hm

/-! ## Accounts -/

/-- What was given to a buffer is accounted for. -/
structure Account (limits : BufferLimits) (books : Books) (h : Hopper) : Prop where
  within : h.buffer.Within
  records : h.partings.flatMap Parting.batch ++ h.inHand ++ h.buffer.pending
    = h.given.map Prod.fst
  parted : ∀ p ∈ h.partings, limits.Allows p.batch
  sent : ∀ e ∈ h.sending, limits.Allows e.1
  booked : h.books = h.partings.foldl (fun x p => p.enter x) books

/-- A batch in hand is parted with. -/
theorem Account.part (ha : h.Account limits books) {b : Batch} (hs : h.sending = some (b, deadline))
    {p : Parting} (hp : p.batch = b) : (h.part p).Account limits books := by
  refine ⟨ha.within, ?_, fun p' hp' => ?_, nofun, ?_⟩
  · simpa [Hopper.part, inHand, hs, hp] using ha.records
  · rcases List.mem_append.1 hp' with hp' | hp'
    · exact ha.parted p' hp'
    · rw [List.mem_singleton.1 hp', hp]
      exact ha.sent (b, deadline) hs
  · simp [Hopper.part, ha.booked]

/-- A call that has to send a batch has it in hand, or parts with it at once. -/
theorem Account.call (ha : h.Account limits books) (hi : ¬h.IsBusy)
    {r : Option Batch × SendBuffer} {given : List (Record × Instant)} {l : Batch}
    (hr : SendBuffer.Hands limits (h.buffer.pending ++ l) r)
    (hgiven : given.map Prod.fst = h.given.map Prod.fst ++ l) (deadline : Instant) :
    Account limits books ({ h with given }.call deadline r) := by
  have hidle : h.sending = none := not_not.1 hi
  have hrecords : h.partings.flatMap Parting.batch ++ (r.1.getD [] ++ r.2.pending)
      = given.map Prod.fst := by
    rw [hr.records, hgiven, ← ha.records]
    simp [inHand, hidle]
  obtain ⟨handed, buffer⟩ := r
  cases handed with
  | none =>
    exact ⟨hr.within, by simpa [Hopper.call, inHand, hidle] using hrecords, ha.parted, ha.sent,
      ha.booked⟩
  | some b =>
    have hsending : Account limits books
        { h with buffer, answer := true, given, sending := some (b, deadline) } := by
      refine ⟨hr.within, by simpa [inHand] using hrecords, ha.parted, fun e he => ?_, ha.booked⟩
      rw [← Option.mem_some.1 he]
      exact hr.allowed b rfl
    unfold Hopper.call
    dsimp only
    split
    · exact hsending
    · exact hsending.part (p := .refused .closed b) rfl rfl

theorem Account.ofCall (ha : h.Account limits books) (hl : h.buffer.limits = limits)
    (hi : ¬h.IsBusy) (hc : Call h deadline h') : h'.Account limits books := by
  have hsame : h.given.map Prod.fst = h.given.map Prod.fst ++ [] := (List.append_nil _).symm
  cases hc with
  | append r deadline =>
    exact ha.call hi (hl ▸ SendBuffer.hands_append ha.within h.now r) (by simp) deadline
  | tick t deadline =>
    have hhands := SendBuffer.hands_tick ha.within t
    rw [hl, ← List.append_nil h.buffer.pending] at hhands
    exact ha.call hi hhands hsame deadline
  | flush deadline =>
    have hhands := SendBuffer.hands_flush ha.within
    rw [hl, ← List.append_nil h.buffer.pending] at hhands
    exact ha.call hi hhands hsame deadline

theorem Account.drop (ha : h.Account limits books) (hl : h.buffer.limits = limits)
    (hi : ¬h.IsBusy) : h.drop.Account limits books := by
  have hidle : h.sending = none := not_not.1 hi
  unfold Hopper.drop
  split
  · exact ⟨ha.within, ha.records, ha.parted, ha.sent, ha.booked⟩
  · rename_i hp
    refine ⟨SendBuffer.within_emptied ha.within.positive, ?_, fun p hp' => ?_, nofun, ?_⟩
    · simpa [Hopper.part, inHand, hidle, Parting.batch, SendBuffer.emptied] using ha.records
    · rcases List.mem_append.1 hp' with hp' | hp'
      · exact ha.parted p hp'
      · rw [List.mem_singleton.1 hp', ← hl]
        exact ha.within.allows hp
    · simp [Hopper.part, ha.booked]

theorem Account.attempt (ha : h.Account limits books) : h.attempt.Account limits books := by
  unfold Hopper.attempt
  split
  · exact ha
  · rename_i b deadline hs
    split
    · rename_i queue _
      have hqueue : Account limits books { h with queue } :=
        ⟨ha.within, ha.records, ha.parted, ha.sent, ha.booked⟩
      exact hqueue.part (p := .entered b) hs rfl
    · rename_i reason _
      exact ha.part (p := .refused reason b) hs rfl
    · exact ha

theorem Account.move (ha : h.Account limits books) (hl : h.buffer.limits = limits)
    (hm : Move h h') : h'.Account limits books := by
  cases hm with
  | call hc hi => exact ha.ofCall hl hi hc
  | drop hi => exact ha.drop hl hi
  | attempt => exact ha.attempt
  | others queue => exact ⟨ha.within, ha.records, ha.parted, ha.sent, ha.booked⟩
  | pass t ht => exact ⟨ha.within, ha.records, ha.parted, ha.sent, ha.booked⟩

theorem account_start (hl : limits.Positive) (key : String) (queue : Queue Batch) (books : Books)
    (now : Instant) : (start key limits queue books now).Account limits books :=
  ⟨⟨hl.records, hl.bytes, rfl⟩, rfl, List.forall_mem_nil _, nofun, rfl⟩

theorem account_reaches {key : String} {queue : Queue Batch} {now : Instant} (hl : limits.Positive)
    (hr : ReflTransGen Move (start key limits queue books now) h) : h.Account limits books := by
  induction hr with
  | refl => exact account_start hl key queue books now
  | tail hr hm ih => exact ih.move (tracks_reaches hr).fixed hm

/-! ## What enters the queue -/

/-- What was noted on the way from `h` to `h'` is what became of the queue: each batch that is noted
as taken was put at its end, in this order, and nothing else changed there. -/
def Enters (h h' : Hopper) : Prop :=
  ∃ ps, h'.partings = h.partings ++ ps
    ∧ h'.queue = { h.queue with items := h.queue.items ++ ps.filterMap Parting.taken? }

theorem enters_of_same (hp : h'.partings = h.partings) (hq : h'.queue = h.queue) :
    h.Enters h' :=
  ⟨[], by rw [hp, List.append_nil], by rw [hq, List.filterMap_nil, List.append_nil]⟩

/-- A parting that is not of a batch that was taken leaves the queue alone. -/
theorem enters_part {p : Parting} (hp : p.taken? = none) (h : Hopper) : h.Enters (h.part p) :=
  ⟨[p], rfl, by simp [Hopper.part, hp]⟩

theorem enters_call (deadline : Instant) (r : Option Batch × SendBuffer) (h : Hopper) :
    h.Enters (h.call deadline r) := by
  obtain ⟨_ | b, buffer⟩ := r
  · exact enters_of_same rfl rfl
  · unfold Hopper.call
    dsimp only
    split
    · exact enters_of_same rfl rfl
    · exact enters_part (p := .refused .closed b) rfl { h with buffer, answer := true }

theorem enters_ofCall (hc : Call h deadline h') : h.Enters h' := by
  cases hc with
  | append r deadline => exact enters_call deadline _ { h with given := h.given ++ [(r, h.now)] }
  | tick t deadline => exact enters_call deadline _ h
  | flush deadline => exact enters_call deadline _ h

theorem enters_drop (h : Hopper) : h.Enters h.drop := by
  unfold Hopper.drop
  split
  · exact enters_of_same rfl rfl
  · exact enters_part (p := .abandoned h.buffer.pending) rfl h

theorem enters_attempt (h : Hopper) : h.Enters h.attempt := by
  unfold Hopper.attempt
  split
  · exact enters_of_same rfl rfl
  · rename_i b deadline hs
    split
    · rename_i queue hsend
      obtain ⟨-, -, rfl⟩ := Queue.trySend_eq_done_iff.1 hsend
      exact ⟨[.entered b], rfl, rfl⟩
    · rename_i reason _
      exact enters_part (p := .refused reason b) rfl h
    · exact enters_of_same rfl rfl

/-! ## The call under way -/

/-- A call on `h` that has a batch to send has not come to a decision yet, or has come to one. -/
inductive Sends (ps : List Parting) (b : Batch) (deadline : Instant) (h : Hopper) : Prop where
  | underway (hs : h.sending = some (b, deadline)) (hp : h.partings = ps)
  | entered (hs : h.sending = none) (hp : h.partings = ps ++ [.entered b]) (ha : h.answer = true)
  | refused (reason : SendFailure) (hs : h.sending = none)
    (hp : h.partings = ps ++ [.refused reason b]) (ha : h.answer = false)

theorem sends_call {b : Batch} {buffer : SendBuffer} :
    (h.call deadline (some b, buffer)).Sends h.partings b deadline := by
  unfold Hopper.call
  dsimp only
  split
  · exact .underway rfl rfl
  · exact .refused .closed rfl rfl rfl

variable {ps : List Parting} {b : Batch}

theorem Sends.wait (hs : h.Sends ps b deadline) (hw : Wait h h') : h'.Sends ps b deadline := by
  obtain ⟨hbusy, hm⟩ := hw
  obtain ⟨hsend, hparted⟩ : h.sending = some (b, deadline) ∧ h.partings = ps := by
    cases hs with
    | underway hs hp => exact ⟨hs, hp⟩
    | entered hs => exact absurd hs hbusy
    | refused _ hs => exact absurd hs hbusy
  cases hm with
  | call _ hi => exact absurd hbusy hi
  | drop hi => exact absurd hbusy hi
  | attempt =>
    unfold Hopper.attempt
    rw [hsend]
    dsimp only
    split
    · exact .entered rfl (congrArg (· ++ _) hparted) rfl
    · rename_i reason _
      exact .refused reason rfl (congrArg (· ++ _) hparted) rfl
    · exact hs
  | others queue => exact .underway hsend hparted
  | pass t ht => exact .underway hsend hparted

theorem Sends.waits (hs : h.Sends ps b deadline) (hw : ReflTransGen Wait h h') :
    h'.Sends ps b deadline := by
  induction hw with
  | refl => exact hs
  | tail _ hw ih => exact ih.wait hw

/-- The buffer is left alone while a call waits. -/
structure Stays (h h' : Hopper) : Prop where
  buffer : h'.buffer = h.buffer
  given : h'.given = h.given
  dropped : h'.dropped = h.dropped

theorem Wait.stays (hw : Wait h h') : h.Stays h' := by
  obtain ⟨hbusy, hm⟩ := hw
  cases hm with
  | call _ hi => exact absurd hbusy hi
  | drop hi => exact absurd hbusy hi
  | attempt =>
    obtain ⟨hbuffer, hgiven, hdropped, -⟩ := h.attempt_same
    exact ⟨hbuffer, hgiven, hdropped⟩
  | others queue => exact ⟨rfl, rfl, rfl⟩
  | pass t ht => exact ⟨rfl, rfl, rfl⟩

theorem stays_of_waits (hw : ReflTransGen Wait h h') : h.Stays h' := by
  induction hw with
  | refl => exact ⟨rfl, rfl, rfl⟩
  | tail _ hw ih =>
    obtain ⟨h1, h2, h3⟩ := hw.stays
    exact ⟨h1.trans ih.buffer, h2.trans ih.given, h3.trans ih.dropped⟩

/-- A call that has nothing to send has returned. -/
theorem eq_of_waits (hi : ¬h.IsBusy) (hw : ReflTransGen Wait h h') : h' = h := by
  induction hw with
  | refl => rfl
  | tail _ hw ih => exact absurd (ih ▸ hw.1) hi

/-- What a flush of `h` came to: there was nothing to send, the queue took what waited, or that was
given up, and only then is the answer no. -/
inductive Flushed (h h' : Hopper) : Prop where
  | nothing (hb : h.buffer.pending = []) (hp : h'.partings = h.partings) (ha : h'.answer = true)
  | entered (hp : h'.partings = h.partings ++ [.entered h.buffer.pending]) (ha : h'.answer = true)
  | refused (reason : SendFailure)
    (hp : h'.partings = h.partings ++ [.refused reason h.buffer.pending]) (ha : h'.answer = false)

theorem flushed_of_waits (hi : ¬h.IsBusy) (hw : ReflTransGen Wait (h.flush deadline) h')
    (hi' : ¬h'.IsBusy) : h.Flushed h' := by
  rcases h.buffer.flush_cases with ⟨hf, hb⟩ | hf
  · unfold Hopper.flush at hw
    rw [hf] at hw
    obtain rfl := eq_of_waits (h := h.call deadline (none, h.buffer)) hi hw
    exact .nothing hb rfl rfl
  · unfold Hopper.flush at hw
    rw [hf] at hw
    cases sends_call.waits hw with
    | underway hs => exact absurd (fun hn => nomatch hs.symm.trans hn) hi'
    | entered _ hp ha => exact .entered hp ha
    | refused reason _ hp ha => exact .refused reason hp ha

/-- Whatever happens to the queue, the records given to a buffer are those of the batches that it
parted with, of the batch in hand, and those that wait, in this order. Each batch is as the limits
allow, the buffer stays below them and knows how many bytes wait and since when, and the sum of the
bytes is a word whatever record may come. A batch that was not taken is on the books once, as lost
and as given back, and a flush answers no exactly if its batch was given up. Whatever the buffer
does next, a batch is noted as taken exactly if that puts it at the end of the queue. -/
theorem account_of_reaches (hl : limits.Positive) (key : String) (queue : Queue Batch)
    (books : Books) (now : Instant)
    (hr : ReflTransGen Move (start key limits queue books now) h) :
    h.partings.flatMap Parting.batch ++ h.inHand ++ h.buffer.pending = h.given.map Prod.fst
      ∧ (∀ b ∈ h.partings.map Parting.batch ++ h.sending.toList.map Prod.fst, limits.Allows b)
      ∧ h.buffer.pending.length < limits.maxRecords
      ∧ h.buffer.pendingBytes = Batch.bytes h.buffer.pending
      ∧ h.buffer.pendingBytes < limits.maxBytes
      ∧ (h.buffer.oldest ≠ none ↔ h.buffer.pending ≠ [])
      ∧ (∃ past recent, h.given = past ++ recent ∧ recent.map Prod.fst = h.buffer.pending
        ∧ h.buffer.oldest = recent.head?.map Prod.snd)
      ∧ (∀ r : Record, r.size + limits.maxBytes ≤ word → h.buffer.pendingBytes + r.size < word)
      ∧ h.books =
        { counters := { books.counters with
            recordsLost := books.counters.recordsLost + (h.partings.flatMap Parting.lost).length
            sendTimeouts := books.counters.sendTimeouts + h.partings.countP Parting.isTimeout }
          pool := books.pool.releaseAll (h.partings.flatMap Parting.lost) }
      ∧ (¬h.IsBusy → ∀ deadline h', ReflTransGen Wait (h.flush deadline) h' → ¬h'.IsBusy →
        h.Flushed h')
      ∧ h.Enters h.attempt ∧ h.Enters h.drop
      ∧ (∀ deadline h', Call h deadline h' → h.Enters h') := by
  have ha := account_reaches hl hr
  obtain ⟨hfixed, recent, hrecalls⟩ := tracks_reaches hr
  obtain ⟨past, hpast⟩ := hrecalls.suffix
  refine ⟨ha.records, fun b hb => ?_, hfixed ▸ ha.within.records, ha.within.exact,
    hfixed ▸ ha.within.bytes, ?_, ⟨past, recent, hpast.symm, hrecalls.records, hrecalls.oldest⟩,
    fun r hr => ha.within.lt (hfixed ▸ hr), ha.booked.trans (Parting.foldl_enter _ _),
    fun hi deadline h' hw hi' => flushed_of_waits hi hw hi', enters_attempt h, enters_drop h,
    fun deadline h' hc => enters_ofCall hc⟩
  · rcases List.mem_append.1 hb with hb | hb
    · obtain ⟨p, hp, rfl⟩ := List.mem_map.1 hb
      exact ha.parted p hp
    · obtain ⟨e, he, rfl⟩ := List.mem_map.1 hb
      exact ha.sent e (Option.mem_toList.1 he)
  · rw [hrecalls.oldest, ← hrecalls.records]
    cases recent <;> simp

/-- Of five records the queue has room for the first batch, the second is given up at its deadline,
and the last record is lost with the buffer. -/
theorem account_of_three_partings :
    ∃ h, ReflTransGen Move (start "info" ⟨2, 100, 200⟩ { capacity := 1 } {} 0) h
      ∧ h.partings.map Parting.hasEntered = [true, false, false]
      ∧ h.queue.items = h.partings.filterMap Parting.taken? ∧ h.queue.items.map List.length = [2]
      ∧ h.given.map Prod.snd = [0, 0, 0, 0, 50]
      ∧ h.books.counters.recordsLost = 3 ∧ h.books.counters.sendTimeouts = 1 := by
  have happend : ∀ h : Hopper, h.buffer.limits = ⟨2, 100, 200⟩ → ¬h.IsBusy → h.dropped = false →
      Move h (h.append { size := 1 } 50) := fun h hl hi hd =>
    .call (.append { size := 1 } 50 (by rw [hl]; decide)) hi hd
  have h₁ := ReflTransGen.single (happend (start "info" ⟨2, 100, 200⟩ { capacity := 1 } {} 0) rfl
    (by decide) rfl)
  have h₂ := (h₁.tail (happend _ rfl (by decide) rfl)).tail .attempt
  have h₃ := (h₂.tail (happend _ rfl (by decide) rfl)).tail (happend _ rfl (by decide) rfl)
  have h₄ := ((h₃.tail (.pass 50 (by decide))).tail .attempt).tail
    (happend _ rfl (by decide) rfl)
  have h₅ := h₄.tail (.drop (by decide) rfl)
  obtain ⟨-, -, -, -, -, -, -, -, hbooks, -⟩ :=
    account_of_reaches ⟨by decide, by decide⟩ "info" _ {} 0 h₅
  refine ⟨_, h₅, by decide, by decide, by decide, by decide, ?_, ?_⟩
  · rw [hbooks]
    decide
  · rw [hbooks]
    decide

/-! ## Ticks -/

/-- When a tick at time `t` has returned, no record waits that came the flush interval or longer
before `t`. -/
theorem fresh_of_tick {key : String} {queue : Queue Batch} {now : Instant}
    (hr : ReflTransGen Move (start key limits queue books now) h)
    (hw : ReflTransGen Wait (h.tick t deadline) h') :
    ∃ past recent, h'.given = past ++ recent ∧ recent.map Prod.fst = h'.buffer.pending
      ∧ ∀ e ∈ recent, t - e.2 < limits.flushInterval := by
  obtain ⟨hfixed, _, hbefore⟩ := tracks_reaches hr
  obtain ⟨hstale, hlimits, recent, hrecalls⟩ := hbefore.tick t
  obtain ⟨hbuffer, hgiven, -, -⟩ := call_same deadline (h.buffer.tick t) h
  have hstays := stays_of_waits hw
  obtain ⟨past, hpast⟩ := hrecalls.suffix
  refine ⟨past, recent, (hstays.given.trans hgiven).trans hpast.symm, ?_, fun e he => ?_⟩
  · rw [hstays.buffer.trans hbuffer]
    exact hrecalls.records
  · rw [← hfixed, ← hlimits]
    exact hrecalls.fresh hstale e he

/-! ## Time -/

/-- A hopper under a clock. -/
def clockwork : Clockwork Hopper where
  now := now
  Move := Move
  Able h := ∃ b deadline, h.sending = some (b, deadline) ∧ h.queue.decides h.now deadline = true
  Due h t := ∃ b, h.sending = some (b, t)

theorem exists_timed (h : Hopper) : ∃ σ, clockwork.Timed σ ∧ σ 0 = h := by
  have hgo : ∀ h : Hopper, True → clockwork.Able h → ∃ y, Move h y ∧ True ∧ y.now = h.now
      ∧ (if y.sending.isSome then 1 else 0) < if h.sending.isSome then 1 else 0 := by
    rintro h - ⟨b, deadline, hs, hd⟩
    have hattempt : h.attempt.sending = none ∧ h.attempt.now = h.now := by
      unfold Hopper.attempt
      rw [hs]
      dsimp only
      split
      · exact ⟨rfl, rfl⟩
      · exact ⟨rfl, rfl⟩
      · rename_i hblocked
        simp [Queue.trySend_eq_blocked_iff.1 hblocked] at hd
    exact ⟨h.attempt, .attempt, trivial, hattempt.2, by simp [hattempt.1, hs]⟩
  have hwait : ∀ h : Hopper, True → ¬clockwork.Able h → ∃ y, Move h y ∧ True ∧ y.now = h.now + 1 :=
    fun h _ _ => ⟨{ h with now := h.now + 1 }, .pass _ (Nat.le_succ _), trivial, rfl⟩
  obtain ⟨σ, hσ, h0, -⟩ := Clockwork.exists_timed (c := clockwork) hgo hwait (x := h) trivial
  exact ⟨σ, hσ, h0⟩

/-- The send under way has this deadline. -/
def Until (deadline : Instant) (h : Hopper) : Prop := ∀ e ∈ h.sending, e.2 = deadline

theorem until_call (hi : ¬h.IsBusy) (deadline : Instant) (r : Option Batch × SendBuffer) :
    (h.call deadline r).Until deadline := by
  have hidle : h.sending = none := not_not.1 hi
  obtain ⟨handed, buffer⟩ := r
  cases handed with
  | none => exact fun e he => by simp [Hopper.call, hidle] at he
  | some b =>
    unfold Hopper.call
    dsimp only
    split
    · exact fun e he => by rw [← Option.mem_some.1 he]
    · exact nofun

theorem until_ofCall (hi : ¬h.IsBusy) (hc : Call h deadline h') :
    h'.Until deadline ∧ h'.now = h.now := by
  cases hc with
  | append r deadline =>
    exact ⟨until_call (h := { h with given := h.given ++ [(r, h.now)] }) hi deadline _,
      (call_same deadline _ { h with given := h.given ++ [(r, h.now)] }).2.2.2⟩
  | tick t deadline => exact ⟨until_call hi deadline _, (call_same deadline _ h).2.2.2⟩
  | flush deadline => exact ⟨until_call hi deadline _, (call_same deadline _ h).2.2.2⟩

theorem Until.move (hd : h.Until deadline) (hb : h.IsBusy) (hm : Move h h') :
    h'.Until deadline := by
  cases hm with
  | call _ hi => exact absurd hb hi
  | drop hi => exact absurd hb hi
  | attempt =>
    unfold Hopper.attempt
    split
    · exact hd
    · split
      · exact nofun
      · exact nofun
      · exact hd
  | others queue => exact hd
  | pass t ht => exact hd

theorem bounds (deadline : Instant) : clockwork.Bounds IsBusy (Until deadline) deadline := by
  refine ⟨fun hd hb hm => hd.move hb hm, fun {h} hd hbusy hable => ?_⟩
  obtain ⟨⟨b, d⟩, hs⟩ := Option.ne_none_iff_exists'.1 hbusy
  obtain rfl : d = deadline := hd _ hs
  have hblocked : h.queue.decides h.now d = false :=
    Bool.eq_false_iff.2 fun hd => hable ⟨b, d, hs, hd⟩
  refine ⟨d, ⟨b, hs⟩, Nat.lt_of_not_le fun hle => ?_, Nat.le_refl _⟩
  simp [Queue.decides, show d ≤ h.now from hle] at hblocked

/-- Under a clock a call returns by its deadline, or at once if that has passed. -/
theorem returns {σ : ℕ → Hopper} (hσ : clockwork.Timed σ) (hi : ¬h.IsBusy)
    (hc : Call h deadline (σ 0)) :
    ∃ n, (∀ k < n, (σ k).IsBusy) ∧ ¬(σ n).IsBusy ∧ (σ n).now ≤ max h.now deadline := by
  obtain ⟨huntil, hnow⟩ := until_ofCall hi hc
  obtain ⟨n, hbefore, hdone, -, hle⟩ := hσ.returns (bounds deadline) huntil
  exact ⟨n, hbefore, hdone, hnow ▸ hle⟩

end Hopper

/-! ## The rig -/

namespace Buffers

open Hopper

variable {x : Buffers} {h : Hopper} {deadline : Instant} {name : String}

/-- The rig has the queue, the books and the time of a hopper. -/
structure Shows (x : Buffers) (h : Hopper) : Prop where
  queue : x.queue = h.queue
  books : x.books = h.books
  now : x.now = h.now

/-- A send of the rig is one of a hopper whose queue nobody uses while it waits. -/
theorem deliver_reaches (hx : x.Shows h) (deadline : Instant) (b : Batch) (buffer : SendBuffer) :
    ∃ h', ReflTransGen Wait (h.call deadline (some b, buffer)) h' ∧ ¬h'.IsBusy
      ∧ (x.deliver deadline b).2.Shows h' ∧ (x.deliver deadline b).1 = h'.answer := by
  have hcall : (h.call deadline (some b, buffer)) = if x.queue.isOpen then
        { h with buffer, answer := true, sending := some (b, deadline) }
      else { h with buffer, answer := true }.part (.refused .closed b) := by
    rw [hx.queue]
    rfl
  rw [hcall]
  unfold Buffers.deliver
  cases ho : x.queue.isOpen with
  | false =>
    simp only [Bool.false_eq_true, ↓reduceIte, Bool.not_false]
    exact ⟨_, .refl, not_not.2 rfl, ⟨hx.queue, congrArg (Books.loseSend false b) hx.books, hx.now⟩,
      rfl⟩
  | true =>
    simp only [Bool.false_eq_true, ↓reduceIte, Bool.not_true, hx.now, hx.queue]
    -- the attempt that is made at time `t`
    have hattempt : ∀ t, h.now ≤ t → ReflTransGen Wait
        { h with buffer, answer := true, sending := some (b, deadline) }
        (attempt { h with buffer, answer := true, sending := some (b, deadline), now := t }) :=
      fun t ht => .tail (.single ⟨nofun, .pass t ht⟩) ⟨nofun, .attempt⟩
    split
    · rename_i queue hsend
      have hnow := hattempt h.now (Nat.le_refl _)
      simp only [Hopper.attempt, hsend] at hnow
      exact ⟨_, hnow, not_not.2 rfl, ⟨rfl, hx.books, rfl⟩, rfl⟩
    · rename_i reason hsend
      have hnow := hattempt h.now (Nat.le_refl _)
      simp only [Hopper.attempt, hsend] at hnow
      exact ⟨_, hnow, not_not.2 rfl,
        ⟨rfl, congrArg (Books.loseSend (reason = .timeout) b) hx.books, rfl⟩, rfl⟩
    · rename_i hsend
      have hblocked := Queue.trySend_eq_blocked_iff.1 hsend
      obtain ⟨⟨hread, hroom⟩, hlate⟩ : (h.queue.isRead = true ∧ h.queue.hasRoom = false)
          ∧ h.now < deadline := by
        simpa [Queue.decides] using hblocked
      have hlast := hattempt deadline (Nat.le_of_lt hlate)
      simp only [Hopper.attempt, Queue.trySend, hread, hroom, Nat.le_refl, Bool.not_true,
        Bool.false_eq_true, ↓reduceIte] at hlast
      exact ⟨_, hlast, not_not.2 rfl, ⟨rfl, congrArg (Books.loseSend true b) hx.books, rfl⟩, rfl⟩

/-- What the rig does with a buffer is a call on a hopper that has returned. -/
theorem put_reaches (hx : x.Shows h) (hi : ¬h.IsBusy) (name : String) (deadline : Instant)
    (r : Option Batch × SendBuffer) :
    ∃ h', ReflTransGen Wait (h.call deadline r) h' ∧ ¬h'.IsBusy
      ∧ (x.put name deadline r).2.Shows h' ∧ (x.put name deadline r).1 = h'.answer := by
  obtain ⟨handed, buffer⟩ := r
  cases handed with
  | none => exact ⟨_, .refl, hi, ⟨hx.queue, hx.books, hx.now⟩, rfl⟩
  | some b =>
    exact deliver_reaches (x := { x with buffers := x.buffers.map fun e =>
      if e.1 == name then (name, buffer) else e }) ⟨hx.queue, hx.books, hx.now⟩ deadline b buffer

theorem flush_reaches (hx : x.Shows h) (hb : x.find? name = some h.buffer) (hi : ¬h.IsBusy)
    (deadline : Instant) :
    ∃ h', ReflTransGen Wait (h.flush deadline) h' ∧ ¬h'.IsBusy
      ∧ (x.flush name deadline).2.Shows h' ∧ (x.flush name deadline).1 = h'.answer := by
  unfold Buffers.flush
  rw [hb]
  exact put_reaches hx hi name deadline _

theorem tick_reaches (hx : x.Shows h) (hb : x.find? name = some h.buffer) (hi : ¬h.IsBusy)
    (deadline : Instant) :
    ∃ h', ReflTransGen Wait (h.tick x.now deadline) h' ∧ ¬h'.IsBusy
      ∧ (x.tick name deadline).Shows h' := by
  unfold Buffers.tick
  rw [hb]
  obtain ⟨h', hw, hi', hx', -⟩ := put_reaches hx hi name deadline (h.buffer.tick x.now)
  exact ⟨h', hw, hi', hx'⟩

theorem find?_put (hb : x.find? name = some h.buffer) (deadline : Instant)
    (r : Option Batch × SendBuffer) : (x.put name deadline r).2.find? name = some r.2 := by
  have hreplace := find?_replace x.buffers name r.2 name
  have hput : (x.put name deadline r).2.buffers
      = x.buffers.map fun e => if e.1 == name then (name, r.2) else e := by
    unfold Buffers.put
    dsimp only
    split
    · rfl
    · unfold Buffers.deliver
      split
      · rfl
      · split <;> rfl
  rw [Buffers.find?, hput, hreplace, show (x.buffers.find? (·.1 == name)).map (·.2) = _ from hb]
  simp

/-- Records that are appended one by one are given to the hopper one by one. -/
theorem append_reaches (hx : x.Shows h) (hb : x.find? name = some h.buffer) (hi : ¬h.IsBusy)
    (hd : h.dropped = false) (timeout : Nat) (l : Batch)
    (hl : ∀ r ∈ l, r.size + h.buffer.limits.maxBytes ≤ word) :
    ∃ h', ReflTransGen Move h h' ∧ ¬h'.IsBusy ∧ (x.append name timeout l).Shows h' := by
  induction l generalizing x h with
  | nil => exact ⟨h, .refl, hi, hx⟩
  | cons r rest ih =>
    obtain ⟨hr, hrest⟩ := List.forall_mem_cons.1 hl
    obtain ⟨h₁, hw, hi₁, hx₁, -⟩ := put_reaches (h := { h with given := h.given ++ [(r, h.now)] })
      ⟨hx.queue, hx.books, hx.now⟩ hi name (x.now + timeout) (h.buffer.append h.now r)
    have hcall : Move h (h.append r (x.now + timeout)) := .call (.append r _ hr) hi hd
    have hmoves : ReflTransGen Move h h₁ := .head hcall (hw.lift id fun _ _ hw => hw.2)
    obtain ⟨hkept, -, hkept', -⟩ := call_same (x.now + timeout) (h.buffer.append h.now r)
      { h with given := h.given ++ [(r, h.now)] }
    have hstays := stays_of_waits hw
    have hbuffer : h₁.buffer = (h.buffer.append h.now r).2 := hstays.buffer.trans hkept
    have hlimits : h₁.buffer.limits = h.buffer.limits := by
      rw [hbuffer, SendBuffer.limits_append]
    obtain ⟨h₂, hmoves₂, hi₂, hx₂⟩ := ih hx₁ (by rw [hbuffer]; exact find?_put hb _ _) hi₁
      ((hstays.dropped.trans hkept').trans hd) fun r hr => hlimits ▸ hrest r hr
    refine ⟨h₂, hmoves.trans hmoves₂, hi₂, ?_⟩
    unfold Buffers.append
    rw [hb, hx.now]
    exact hx.now ▸ hx₂

end Buffers

end LogPipeline
