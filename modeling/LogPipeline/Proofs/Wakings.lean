import LogPipeline.Proofs.Histories
import LogPipeline.Sequencer.Waiting

/-!
# Waits for a turn end when they are due

A `Story` is anything that can happen in a waiting room: owners hand out, share and let go of
tickets and begin to wait for their turn, and waiters whose turn has come wake up, in any order and
at any time. A waiter that wakes up waits for the release point itself, because its own reference
keeps the point from passing it (`Fair.eq_next`). From this follow the order in which waiters wake
up, and where the release point stands once nobody can (`Fair.settled`). `WaitingRoom.settle` is one
of the orders (`settle_wakes`).
-/

namespace LogPipeline

/-! ## Rooms -/

namespace WaitingRoom

/-- Some reference to the ticket is held by nobody who waits. -/
def Free (r : WaitingRoom) (n : Nat) : Prop :=
  r.waiting.count n < r.sequencer.references.count n

instance (r : WaitingRoom) (n : Nat) : Decidable (r.Free n) :=
  inferInstanceAs (Decidable (_ < _))

/-- Nobody's turn has come. -/
def Quiet (r : WaitingRoom) : Prop := ∀ n ∈ r.waiting, r.sequencer.isTurn n = false

/-- Whoever waits has a reference. -/
structure Fair (r : WaitingRoom) : Prop where
  valid : r.sequencer.Valid
  held : ∀ n, r.waiting.count n ≤ r.sequencer.references.count n

/-- No wait is left that is due, and the release point is the first free ticket, or else the next
one to be issued. -/
structure Settled (r : WaitingRoom) : Prop where
  waits : ∀ n ∈ r.waiting, ∃ m < n, ¬r.sequencer.Completed m
  below : ∀ n < r.sequencer.next, ¬r.Free n
  free : r.sequencer.next < r.sequencer.issued → r.Free r.sequencer.next
  next_le : r.sequencer.next ≤ r.sequencer.issued

variable {r : WaitingRoom} {n : Nat}

theorem fair_empty : Fair {} := ⟨Sequencer.valid_empty, fun _ => Nat.le_refl _⟩

theorem Free.mem (h : r.Free n) : n ∈ r.sequencer.references :=
  List.count_pos_iff.1 (Nat.zero_lt_of_lt h)

theorem Fair.mem (h : r.Fair) (hn : n ∈ r.waiting) : n ∈ r.sequencer.references :=
  List.count_pos_iff.1 (Nat.lt_of_lt_of_le (List.count_pos_iff.2 hn) (h.held n))

theorem Fair.issue (h : r.Fair) : (r.onSequencer fun s => s.issue.2).Fair :=
  ⟨h.valid.issue, fun n => Nat.le_trans (h.held n) List.count_le_count_cons⟩

theorem Fair.share (h : r.Fair) (hn : r.Free n) : (r.onSequencer (·.share n)).Fair :=
  ⟨h.valid.share hn.mem, fun m => Nat.le_trans (h.held m) List.count_le_count_cons⟩

theorem Fair.drop (h : r.Fair) (hn : r.Free n) : (r.onSequencer (·.release n)).Fair := by
  refine ⟨h.valid.release n, fun m => ?_⟩
  simp only [onSequencer, Sequencer.references_release, List.count_erase, beq_iff_eq]
  have := h.held m
  unfold Free at hn
  split
  · subst_vars
    omega
  · omega

theorem Fair.wait (h : r.Fair) (hn : r.Free n) : (r.wait n).Fair := by
  refine ⟨h.valid.share hn.mem, fun m => ?_⟩
  have := h.held m
  simp only [WaitingRoom.wait, Sequencer.references_share, List.count_append, List.count_cons,
    List.count_nil]
  omega

/-- A waiter leaves, and its reference goes with it. -/
theorem Fair.leave (h : r.Fair) {l : List Nat} (hw : r.waiting.Perm (n :: l)) :
    Fair ⟨r.sequencer.release n, l⟩
      ∧ ∀ m, Free ⟨r.sequencer.release n, l⟩ m ↔ r.Free m := by
  have hwaits : ∀ m, r.waiting.count m = l.count m + if n = m then 1 else 0 := fun m => by
    simp [hw.count_eq, List.count_cons]
  have hrefs : ∀ m, r.sequencer.references.count m
      = (r.sequencer.release n).references.count m + if n = m then 1 else 0 := fun m => by
    have hmem : n ∈ r.sequencer.references := h.mem (hw.mem_iff.2 List.mem_cons_self)
    simp [(List.perm_cons_erase hmem).count_eq m, List.count_cons]
  refine ⟨⟨h.valid.release n, fun m => ?_⟩, fun m => ?_⟩
  · have := h.held m
    rw [hwaits, hrefs] at this
    exact Nat.le_of_add_le_add_right this
  · unfold Free
    rw [hwaits, hrefs]
    exact Nat.add_lt_add_iff_right.symm

/-- Whoever may wake up waits for the lowest ticket that has not completed. -/
theorem Fair.eq_next (h : r.Fair) (hn : n ∈ r.waiting) (ht : r.sequencer.isTurn n = true) :
    n = r.sequencer.next :=
  Nat.le_antisymm (Sequencer.isTurn_iff.1 ht) (h.valid.le_of_mem n (h.mem hn))

/-- Where nobody can wake up, nobody should. -/
theorem Fair.settled (h : r.Fair) (hq : r.Quiet) : r.Settled := by
  have hturn : ∀ n ∈ r.waiting, r.sequencer.next < n := fun n hn => by
    have := hq n hn
    rwa [← Bool.not_eq_true, Sequencer.isTurn_iff, Nat.not_le] at this
  refine ⟨fun n hn => ⟨_, hturn n hn, fun hc => hc.2 (h.valid.next_mem hc.1)⟩, fun n hn hf => ?_,
    fun hlt => ?_, h.valid.next_le⟩
  · exact absurd (h.valid.le_of_mem n hf.mem) (Nat.not_le.2 hn)
  · have hnone : r.sequencer.next ∉ r.waiting := fun hw => Nat.lt_irrefl _ (hturn _ hw)
    unfold Free
    rw [List.count_eq_zero.2 hnone]
    exact List.count_pos_iff.2 (h.valid.next_mem hlt)

end WaitingRoom

/-! ## Waiters -/

/-- One who waits for the turn of a ticket. The label tells apart those who wait for the same. -/
structure Waiter where
  label : Nat
  ticket : Nat
deriving DecidableEq

/-- A waiting room that tells the waiters apart. -/
structure Hall where
  sequencer : Sequencer := {}
  waiting : List Waiter := []

namespace Hall

def room (x : Hall) : WaitingRoom := ⟨x.sequencer, x.waiting.map Waiter.ticket⟩

/-- A new waiter for a ticket comes. -/
def wait (label n : Nat) (x : Hall) : Hall :=
  ⟨(x.room.wait n).sequencer, x.waiting ++ [⟨label, n⟩]⟩

@[simp] theorem room_wait (label n : Nat) (x : Hall) : (x.wait label n).room = x.room.wait n := by
  simp [wait, room, WaitingRoom.wait]

@[simp] theorem waiting_wait (label n : Nat) (x : Hall) :
    (x.wait label n).waiting = x.waiting ++ [⟨label, n⟩] := rfl

/-- A waiter whose turn has come wakes up, lets go of its reference and leaves. -/
inductive Wake (x : Hall) (w : Waiter) : Hall → Prop where
  | mk (hw : w ∈ x.waiting) (ht : x.sequencer.isTurn w.ticket = true) :
    Wake x w ⟨x.sequencer.release w.ticket, x.waiting.erase w⟩

/-- Waiters wake up one after the other. -/
inductive Wakes : Hall → List Waiter → Hall → Prop where
  | nil {x : Hall} : Wakes x [] x
  | cons {x y z : Hall} {w : Waiter} {ws : List Waiter} (h : x.Wake w y) (hs : Wakes y ws z) :
    Wakes x (w :: ws) z

variable {x y : Hall} {w : Waiter} {ws : List Waiter}

theorem Wake.fair (h : x.Wake w y) (hx : x.room.Fair) :
    y.room.Fair ∧ ∀ n, y.room.Free n ↔ x.room.Free n := by
  obtain ⟨hw, -⟩ := h
  exact hx.leave ((List.perm_cons_erase hw).map Waiter.ticket)

/-- It was the waiter's turn because all lower tickets had completed. -/
theorem Wake.due (h : x.Wake w y) (hx : x.room.Fair) :
    w ∈ x.waiting ∧ w.ticket = x.sequencer.next ∧ ∀ m < w.ticket, x.sequencer.Completed m := by
  obtain ⟨hw, ht⟩ := h
  have heq : w.ticket = x.sequencer.next := hx.eq_next (List.mem_map_of_mem hw) ht
  exact ⟨hw, heq, fun m hm => hx.valid.completed_of_lt (heq ▸ hm)⟩

theorem Wakes.free_iff (h : x.Wakes ws y) (hx : x.room.Fair) (n : Nat) :
    y.room.Free n ↔ x.room.Free n := by
  induction h with
  | nil => rfl
  | cons hw _ ih =>
    obtain ⟨hy, hfree⟩ := hw.fair hx
    exact (ih hy).trans (hfree n)

/-- One who wakes up is one fewer who waits. -/
theorem Wakes.length (h : x.Wakes ws y) : ws.length + y.waiting.length = x.waiting.length := by
  induction h with
  | nil => simp
  | cons hw _ ih =>
    obtain ⟨hw, -⟩ := hw
    have := (List.perm_cons_erase hw).length_eq
    simp only [List.length_cons] at ih this ⊢
    omega

/-- The room wakes its waiters in one of the possible orders, until nobody's turn has come. -/
theorem settle_wakes (x : Hall) :
    ∃ ws y, x.Wakes ws y ∧ y.room.Quiet ∧ x.room.settle = (ws.map Waiter.ticket, y.room) := by
  generalize hr : x.room = r
  induction r using WaitingRoom.settle.induct generalizing x with
  | case1 r hnone =>
    subst hr
    refine ⟨[], x, .nil, fun n hn => ?_, ?_⟩
    · simpa using List.find?_eq_none.1 hnone n hn
    · rw [WaitingRoom.settle, hnone]
      rfl
  | case2 r n hsome _ _ _ ih =>
    subst hr
    obtain ⟨ht, as, bs, hw, has⟩ := List.find?_eq_some_iff_append.1 hsome
    -- no waiter before this one waits for the same ticket, so it is the one that is taken out
    have hnot : n ∉ as := fun hn => by simpa [ht] using has n hn
    obtain ⟨vs, l, hvs, rfl, hl⟩ := List.map_eq_append_iff.1 hw
    obtain ⟨w, us, rfl, rfl, rfl⟩ := List.map_eq_cons_iff.1 hl
    have hnot' : w ∉ vs := fun hv => hnot (List.mem_map_of_mem hv)
    have hroom : Hall.room ⟨x.sequencer.release w.ticket, x.waiting.erase w⟩
        = ⟨x.room.sequencer.release w.ticket, x.room.waiting.erase w.ticket⟩ := by
      rw [hw, List.erase_append_right _ hnot, List.erase_cons_head, room, hvs,
        List.erase_append_right _ hnot', List.erase_cons_head, List.map_append, room]
    obtain ⟨ws, y, hws, hq, hy⟩ := ih _ hroom
    have hmem : w ∈ x.waiting := hvs ▸ List.mem_append_right _ List.mem_cons_self
    refine ⟨w :: ws, y, .cons (.mk hmem ht) hws, hq, ?_⟩
    rw [WaitingRoom.settle, hsome]
    simp only [hy, List.map_cons]

end Hall

/-! ## Stories -/

/-- Something that happens in a waiting room. -/
inductive Happening where
  | ticket (op : TicketOp)
  | wait (n : Nat)
  | wake (w : Waiter)
deriving DecidableEq

namespace Happening

def woken? : Happening → Option Waiter
  | wake w => some w
  | _ => none

/-- The waiter that comes, if this is number `i` of what happens. -/
def came? (i : Nat) : Happening → Option Waiter
  | wait n => some ⟨i, n⟩
  | _ => none

end Happening

/-- The waiters that woke up, in the order of waking. -/
def woken (t : List Happening) : List Waiter := t.filterMap Happening.woken?

/-- All who ever waited. -/
def came (t : List Happening) : List Waiter := t.zipIdx.filterMap fun (e, i) => e.came? i

/-- Thing number `i` happens. Only an owner that does not wait shares a ticket, lets it go or begins
to wait for its turn. -/
inductive Hall.Happens (i : Nat) (x : Hall) : Happening → Hall → Prop where
  | issue : Happens i x (.ticket .issue) { x with sequencer := x.sequencer.issue.2 }
  | share {n : Nat} (hn : x.room.Free n) :
    Happens i x (.ticket (.share n)) { x with sequencer := x.sequencer.share n }
  | drop {n : Nat} (hn : x.room.Free n) :
    Happens i x (.ticket (.drop n)) { x with sequencer := x.sequencer.release n }
  | wait {n : Nat} (hn : x.room.Free n) : Happens i x (.wait n) (x.wait i n)
  | wake {w : Waiter} {y : Hall} (h : x.Wake w y) : Happens i x (.wake w) y

/-- What happened, one after the other, and what it has led to. -/
inductive Story : List Happening → Hall → Prop where
  | nil : Story [] {}
  | concat {t : List Happening} {x y : Hall} {e : Happening} (h : Story t x)
      (he : x.Happens t.length e y) : Story (t ++ [e]) y

section

variable {t pre post : List Happening} {x y : Hall} {e : Happening} {w : Waiter} {ws : List Waiter}
  {i : Nat}

@[simp] theorem woken_concat (t : List Happening) (e : Happening) :
    woken (t ++ [e]) = woken t ++ e.woken?.toList := by
  cases h : e.woken? <;> simp [woken, h]

@[simp] theorem came_concat (t : List Happening) (e : Happening) :
    came (t ++ [e]) = came t ++ (e.came? t.length).toList := by
  cases h : e.came? t.length <;> simp [came, List.zipIdx_append, h]

theorem Hall.Happens.fair (he : x.Happens i e y) (h : x.room.Fair) : y.room.Fair := by
  cases he with
  | issue => exact h.issue
  | share hn => exact h.share hn
  | drop hn => exact h.drop hn
  | wait hn =>
    rw [room_wait]
    exact h.wait hn
  | wake hw => exact (hw.fair h).1

theorem Hall.Happens.unique {z : Hall} (he : x.Happens i e y) (he' : x.Happens i e z) : y = z := by
  cases he with
  | issue | share | drop | wait => cases he'; rfl
  | wake hw =>
    cases he' with
    | wake hw' =>
      cases hw
      cases hw'
      rfl

theorem Hall.Happens.next_le (he : x.Happens i e y) (h : x.room.Fair) :
    x.sequencer.next ≤ y.sequencer.next := by
  cases he with
  | issue | share | wait => exact Nat.le_refl _
  | drop => exact x.sequencer.next_le_release h.valid.nodup
  | wake hw =>
    obtain ⟨-, -⟩ := hw
    exact x.sequencer.next_le_release h.valid.nodup

namespace Story

theorem fair (h : Story t x) : x.room.Fair := by
  induction h with
  | nil => exact WaitingRoom.fair_empty
  | concat _ he ih => exact he.fair ih

theorem wakes (h : Story t x) (hw : x.Wakes ws y) : Story (t ++ ws.map .wake) y := by
  induction hw generalizing t with
  | nil => simpa using h
  | cons hw _ ih => simpa using ih (h.concat (.wake hw))

/-- Every part of a story leads to some point of it. -/
theorem split (h : Story t x) (ht : t = pre ++ e :: post) :
    ∃ y z, Story pre y ∧ y.Happens pre.length e z := by
  induction h generalizing post with
  | nil => simp at ht
  | @concat t y z e' h he ih =>
    rcases List.eq_nil_or_concat post with rfl | ⟨post, e'', rfl⟩
    · obtain ⟨rfl, hlast⟩ := List.append_inj' ht rfl
      obtain rfl := List.head_eq_of_cons_eq hlast
      exact ⟨_, _, h, he⟩
    · have ht : t ++ [e'] = pre ++ e :: post ++ [e''] := by simpa using ht
      exact ih (List.append_inj_left' ht rfl)

/-- What has happened leads to one hall. -/
theorem unique (h : Story t x) (h' : Story t y) : x = y := by
  induction h generalizing y with
  | nil =>
    generalize hl : ([] : List Happening) = l at h'
    cases h' with
    | nil => rfl
    | concat => simp at hl
  | @concat t x z e h he ih =>
    generalize hl : t ++ [e] = l at h'
    cases h' with
    | nil => simp at hl
    | concat h' he' =>
      obtain ⟨rfl, hlast⟩ := List.append_inj' hl rfl
      obtain rfl := List.head_eq_of_cons_eq hlast
      obtain rfl := ih h'
      exact he.unique he'

/-- Waiters wake up in the order of their tickets, all of which are up to the release point. -/
theorem ordered (h : Story t x) :
    (woken t).Pairwise (·.ticket ≤ ·.ticket) ∧ ∀ w ∈ woken t, w.ticket ≤ x.sequencer.next := by
  induction h with
  | nil => simp [woken]
  | @concat t x y e h he ih =>
    obtain ⟨hsorted, hle⟩ := ih
    have hnext := he.next_le h.fair
    have hold : ∀ w ∈ woken t, w.ticket ≤ y.sequencer.next := fun w hw => by
      have := hle w hw
      omega
    rw [woken_concat]
    cases he with
    | issue | share | drop | wait => simpa [Happening.woken?] using ⟨hsorted, hold⟩
    | @wake w y hw =>
      obtain ⟨-, heq, -⟩ := hw.due h.fair
      simp only [Happening.woken?, Option.toList_some, List.pairwise_append, List.mem_append,
        List.mem_singleton, List.pairwise_singleton]
      refine ⟨⟨hsorted, trivial, ?_⟩, ?_⟩
      · rintro v hv _ rfl
        exact heq ▸ hle v hv
      · rintro v (hv | rfl)
        · exact hold v hv
        · omega

/-- Whoever came has woken up or is waiting. -/
theorem perm (h : Story t x) : (woken t ++ x.waiting).Perm (came t) := by
  induction h with
  | nil => exact .nil
  | @concat t x y e h he ih =>
    rw [woken_concat, came_concat]
    cases he with
    | issue | share | drop => simpa [Happening.woken?, Happening.came?] using ih
    | wait hn => simpa [Happening.woken?, Happening.came?] using ih.append_right _
    | wake hw =>
      obtain ⟨hw, -⟩ := hw
      have hperm := ((List.perm_cons_erase hw).symm.append_left (woken t)).trans ih
      simpa [Happening.woken?, Happening.came?] using hperm

end Story

theorem label_lt (h : w ∈ came t) : w.label < t.length := by
  obtain ⟨⟨e, i⟩, hmem, he⟩ := List.mem_filterMap.1 h
  obtain ⟨-, hlt, -⟩ := List.mem_zipIdx hmem
  cases e with
  | wait n =>
    obtain rfl := Option.some.inj he
    simpa using hlt
  | ticket | wake => simp [Happening.came?] at he

theorem nodup_came (t : List Happening) : (came t).Nodup := by
  induction t using List.reverseRecOn with
  | nil => exact .nil
  | append_singleton t e ih =>
    rw [came_concat]
    cases e with
    | wait n =>
      refine List.nodup_append.2 ⟨ih, List.nodup_singleton _, ?_⟩
      rintro w hw _ hnew rfl
      obtain rfl := List.mem_singleton.1 hnew
      exact Nat.lt_irrefl _ (label_lt hw)
    | ticket | wake => simpa [Happening.came?] using ih

/-- What a story says of those who waited. -/
structure Story.Tells (t : List Happening) (x : Hall) : Prop where
  /-- Whoever woke up was waiting, and by then all lower tickets had completed. -/
  due : ∀ pre w post, t = pre ++ .wake w :: post → (∃ y, Story pre y)
    ∧ ∀ y, Story pre y → w ∈ y.waiting ∧ ∀ m < w.ticket, y.sequencer.Completed m
  ordered : (woken t).Pairwise (·.ticket ≤ ·.ticket)
  /-- Whoever came has woken up once or is still waiting. -/
  once : (woken t ++ x.waiting).Nodup ∧ (woken t ++ x.waiting).Perm (came t)
  /-- Waking up comes to an end, whatever the order, and leaves nobody behind. The release point is
  then where it does not depend on the order. -/
  ends : ∀ ws y, x.Wakes ws y → Story (t ++ ws.map .wake) y
    ∧ ws.length + y.waiting.length = x.waiting.length
    ∧ (∀ n, y.room.Free n ↔ x.room.Free n)
    ∧ (y.room.Quiet → y.room.Settled)
  /-- The room finds such an end. -/
  settles : ∃ ws y, x.Wakes ws y ∧ y.room.Quiet
    ∧ x.room.settle = (ws.map Waiter.ticket, y.room)

/-- Waiters are woken when they are due: none while a lower ticket is open, each once and in the
order of the tickets, and whenever owners pause, wakings end with nobody left to wake. -/
theorem tells_of_story (h : Story t x) : Story.Tells t x := by
  refine ⟨fun pre w post ht => ?_, h.ordered.1, ?_, fun ws y hw => ?_, x.settle_wakes⟩
  · obtain ⟨y, z, hy, he⟩ := h.split ht
    refine ⟨⟨y, hy⟩, fun y' hy' => ?_⟩
    obtain rfl := hy.unique hy'
    cases he with
    | wake hw =>
      obtain ⟨hmem, -, hlower⟩ := hw.due hy.fair
      exact ⟨hmem, hlower⟩
  · exact ⟨h.perm.nodup_iff.2 (nodup_came t), h.perm⟩
  · have hy := h.wakes hw
    exact ⟨hy, hw.length, fun n => hw.free_iff h.fair n, hy.fair.settled⟩

/-- The first ticket is let go of when only waiters have the second and the third: one after the
other, all of them wake up. -/
theorem tells_of_three_waits :
    ∃ t x, Story t x ∧ Story.Tells t x ∧ woken t = [] ∧ x.room.waiting = [2, 1, 2]
      ∧ x.room.settle.1 = [1, 2, 2] ∧ x.room.settle.2.waiting = []
      ∧ x.room.settle.2.sequencer.next = 3 := by
  have h₁ : Story _ _ := .concat (.concat (.concat .nil .issue) .issue) .issue
  have h₂ := h₁.concat (.wait (n := 2) (by decide)) |>.concat (.wait (n := 1) (by decide))
    |>.concat (.wait (n := 2) (by decide))
  have h₃ := h₂.concat (.drop (n := 1) (by decide)) |>.concat (.drop (n := 2) (by decide))
    |>.concat (.drop (n := 0) (by decide))
  exact ⟨_, _, h₃, tells_of_story h₃, by decide +kernel⟩

end

end LogPipeline
