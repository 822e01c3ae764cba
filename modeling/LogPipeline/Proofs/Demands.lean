import LogPipeline.Proofs.Loans
import Mathlib.Logic.Function.Iterate

/-!
# The same demand over and over

A caller asks an empty pool for a record and gives it back as it is. A request is rounded up to a
whole class, but the record that is made for it gets no more than was asked for, divided among its
fields (`room_fresh`), and what comes back is rounded down. So the caller finds the record again
only if the demand is within the smallest class, or is to the byte the size of a class that the
fields divide (`meets_iff_recurs`). A demand that recurs makes a new record once (`Ready.round`),
any other every time (`Short.round`).
-/

namespace LogPipeline

theorem total_replicate {α : Type} (f : α → Nat) (n : Nat) (a : α) :
    total f (List.replicate n a) = n * f a := by
  induction n with
  | zero => simp
  | succ n ih => rw [List.replicate_succ, total_cons, ih, Nat.succ_mul, Nat.add_comm]

namespace RecordPool

/-! ## Requests and returns -/

/-- The record that is made for a demand is filed where a later request for as much looks for it. -/
def Meets (arity hint : Nat) : Prop :=
  ∃ c, requestClass hint = some c ∧ c ≤ releaseClass (fresh arity hint).room

/-- A demand within the smallest class, or for a whole class that the fields divide. -/
def Recurs (arity hint : Nat) : Prop :=
  hint ≤ minClassBytes ∨ hint ≤ maxClassBytes ∧ arity ∣ hint ∧ hint.isPowerOfTwo

instance (arity hint : Nat) : Decidable (Recurs arity hint) :=
  inferInstanceAs (Decidable (_ ∨ _ ∧ _ ∧ _))

theorem room_fresh (arity hint : Nat) : (fresh arity hint).room = arity * (hint / arity) :=
  total_replicate Field.room arity (Field.blank (hint / arity))

theorem room_fresh_le (arity hint : Nat) : (fresh arity hint).room ≤ hint := by
  rw [room_fresh]
  exact Nat.mul_div_le hint arity

theorem requestClass_of_le {hint : Nat} (h : hint ≤ maxClassBytes) :
    requestClass hint = some (Nat.log2 (max hint minClassBytes - 1) + 1 - 6) :=
  if_neg (Nat.not_lt_of_le h)

/-- The size of a class is served from that class, and what is smaller from the smallest. -/
theorem requestClass_two_pow {k : Nat} (h : 2 ^ k ≤ maxClassBytes) :
    ∃ c, requestClass (2 ^ k) = some c ∧ c ≤ releaseClass (2 ^ k) := by
  refine ⟨_, requestClass_of_le h, ?_⟩
  by_cases hsmall : 2 ^ k < minClassBytes
  · rw [Nat.max_eq_right (Nat.le_of_lt hsmall), releaseClass, if_pos hsmall]
    decide
  · have hlarge : minClassBytes ≤ 2 ^ k := Nat.le_of_not_lt hsmall
    have hpos : 2 ≤ 2 ^ k := le_trans (by decide) hlarge
    have hlog : Nat.log2 (2 ^ k - 1) < k := (Nat.log2_lt (by omega)).2 (by omega)
    rw [Nat.max_eq_left hlarge, releaseClass, if_neg hsmall, Nat.min_eq_left h, Nat.log2_two_pow]
    omega

/-- Between a demand and the record made for it nothing is lost only if nothing is rounded. -/
theorem meets_iff_recurs (arity hint : Nat) : Meets arity hint ↔ Recurs arity hint := by
  constructor
  · rintro ⟨c, hc, hle⟩
    by_cases hsmall : hint ≤ minClassBytes
    · exact .inl hsmall
    obtain ⟨hlt, hcover⟩ := requestClass_eq_some hc
    have hc0 : c ≠ 0 := by
      rintro rfl
      exact hsmall hcover
    have hroom : classBytes c ≤ (fresh arity hint).room :=
      (classBytes_le hle).trans (classBytes_releaseClass_le (by omega))
    -- the class, the record and the demand are all of one size
    have hsize : classBytes c = hint :=
      Nat.le_antisymm (hroom.trans (room_fresh_le arity hint)) hcover
    refine .inr ⟨?_, ?_, ?_⟩
    · rw [← hsize]
      exact classBytes_le (Nat.le_of_lt_succ hlt)
    · rw [← Nat.mul_div_eq_iff_dvd, ← room_fresh]
      exact Nat.le_antisymm (room_fresh_le arity hint) (hcover.trans hroom)
    · refine ⟨6 + c, ?_⟩
      rw [← hsize, classBytes, Nat.pow_add]
      rfl
  · rintro (hsmall | ⟨hlarge, hdvd, k, rfl⟩)
    · refine ⟨0, ?_, Nat.zero_le _⟩
      rw [requestClass_of_le (hsmall.trans (by decide)), Nat.max_eq_right hsmall]
      rfl
    · obtain ⟨c, hc, hle⟩ := requestClass_two_pow hlarge
      refine ⟨c, hc, ?_⟩
      rwa [room_fresh, Nat.mul_div_cancel' hdvd]

/-! ## One round -/

variable {p : RecordPool} {r : Record} {arity hint c : Nat}

/-- What a caller does who asks for a record and gives it back as it is. -/
def round (arity hint : Nat) (p : RecordPool) : RecordPool :=
  (p.acquire arity hint).2.release (p.acquire arity hint).1

/-- No record waits in class `c` or in a larger one. -/
def Vacant (c : Nat) (classes : List (List Record)) : Prop :=
  ∀ d q, c ≤ d → classes[d]? = some q → q = []

theorem takeFrom_of_vacant {classes : List (List Record)} (h : Vacant c classes) :
    takeFrom c classes = none := by
  rcases ht : takeFrom c classes with _ | ⟨r, qs⟩
  · rfl
  · obtain ⟨d, q, hd, hat, -⟩ := takeFrom_eq_some ht
    exact absurd (h d _ hd hat) (List.cons_ne_nil r q)

/-- The only record that waits is found from its own class and from every smaller one. -/
theorem takeFrom_single {d n : Nat} (r : Record) (hd : c ≤ d) (hn : d < n) :
    takeFrom c ((List.replicate n []).set d [r]) = some (r, List.replicate n []) := by
  induction n generalizing c d with
  | zero => exact absurd hn (Nat.not_lt_zero d)
  | succ n ih =>
    rw [List.replicate_succ]
    rcases d with _ | d
    · obtain rfl := Nat.le_zero.1 hd
      rfl
    · have hn := Nat.lt_of_succ_lt_succ hn
      rcases c with _ | c
      · simp [takeFrom, ih (Nat.zero_le d) hn]
      · simp [takeFrom, ih (Nat.le_of_succ_le_succ hd) hn]

/-- A record that was made anew is as it was once it has been emptied and made ready. -/
theorem clear_fresh (arity hint : Nat) : (fresh arity hint).clear = fresh arity hint := by
  simp [fresh, Record.clear, Field.clear, Field.blank]

theorem refit_fresh (arity hint : Nat) : refit arity (fresh arity hint) = fresh arity hint := by
  simp [refit, fresh]

/-- A demand that no waiting record meets makes a new one. -/
theorem acquire_of_vacant (h : ∀ c, requestClass hint = some c → Vacant c p.classes) :
    p.acquire arity hint = (fresh arity hint, { p with misses := p.misses + 1 }) := by
  have hnone : (requestClass hint).bind (takeFrom · p.classes) = none :=
    Option.bind_eq_none_iff.2 fun c hc => takeFrom_of_vacant (h c hc)
  simp [acquire, hnone]

/-- A record with no more room than twice the largest class is taken in, if its class is not
full. -/
theorem release_of_fits {q : List Record} (hroom : r.room ≤ maxClassBytes * 2)
    (hat : p.classes[releaseClass r.room]? = some q) (hq : q.length < p.perClass) :
    p.release r =
      { p with
        classes := p.classes.set (releaseClass r.room) (q ++ [r.clear])
        returns := p.returns + 1 } := by
  rw [release, if_neg (Nat.not_lt_of_le hroom)]
  simp only [hat, Option.getD_some, if_pos hq]
  rw [List.modify_eq_set_getElem?, hat]
  rfl

/-! ## Demands that do not recur -/

/-- No record that waits meets the demand. -/
structure Short (arity hint : Nat) (p : RecordPool) : Prop where
  count : p.classes.length = classCount
  vacant : ∀ c, requestClass hint = some c → Vacant c p.classes

theorem Short.round (h : p.Short arity hint) (hm : ¬Meets arity hint) :
    (p.round arity hint).Short arity hint ∧ (p.round arity hint).misses = p.misses + 1
      ∧ (p.round arity hint).hits = p.hits := by
  have hround : p.round arity hint
      = RecordPool.release (fresh arity hint) { p with misses := p.misses + 1 } := by
    rw [RecordPool.round, acquire_of_vacant h.vacant]
  rw [hround]
  rcases release_cases (p := { p with misses := p.misses + 1 }) h.count (fresh arity hint) with
    ⟨q, -, -, hrelease⟩ | hrelease
  · rw [hrelease]
    refine ⟨⟨by simpa using h.count, fun c hc d q' hd hq' => ?_⟩, rfl, rfl⟩
    -- the class that the record goes to is not searched
    have hlt : releaseClass (fresh arity hint).room < c :=
      Nat.lt_of_not_le fun hle => hm ⟨c, hc, hle⟩
    simp only [List.getElem?_set_ne (Nat.ne_of_lt (Nat.lt_of_lt_of_le hlt hd))] at hq'
    exact h.vacant c hc d q' hd hq'
  · rw [hrelease]
    exact ⟨⟨h.count, h.vacant⟩, rfl, rfl⟩

theorem Short.rounds (h : p.Short arity hint) (hm : ¬Meets arity hint) (n : Nat) :
    ((RecordPool.round arity hint)^[n] p).misses = p.misses + n
      ∧ ((RecordPool.round arity hint)^[n] p).hits = p.hits := by
  induction n generalizing p with
  | zero => exact ⟨rfl, rfl⟩
  | succ n ih =>
    obtain ⟨hs, hmisses, hhits⟩ := h.round hm
    obtain ⟨hmisses', hhits'⟩ := ih hs
    rw [Function.iterate_succ_apply]
    exact ⟨by rw [hmisses', hmisses]; omega, hhits'.trans hhits⟩

/-! ## Demands that recur -/

/-- The record that was made for the demand waits, and no other. -/
structure Ready (arity hint : Nat) (p : RecordPool) : Prop where
  perClass : 0 < p.perClass
  classes : p.classes =
    (List.replicate classCount []).set (releaseClass (fresh arity hint).room) [fresh arity hint]

/-- The record comes back to a pool in which no other waits. -/
theorem ready_release (hp : 0 < p.perClass) (hclasses : p.classes = List.replicate classCount [])
    (hm : Meets arity hint) :
    (p.release (fresh arity hint)).Ready arity hint
      ∧ (p.release (fresh arity hint)).misses = p.misses
      ∧ (p.release (fresh arity hint)).hits = p.hits := by
  obtain ⟨c, hc, -⟩ := hm
  have hhint : hint ≤ maxClassBytes := (requestClass_eq_some hc).2.trans
    (classBytes_le (Nat.le_of_lt_succ (requestClass_eq_some hc).1))
  have hroom : (fresh arity hint).room ≤ maxClassBytes * 2 :=
    ((room_fresh_le arity hint).trans hhint).trans (by decide)
  have hat : p.classes[releaseClass (fresh arity hint).room]? = some [] := by
    rw [hclasses, List.getElem?_replicate, if_pos (releaseClass_lt _)]
  rw [release_of_fits hroom hat hp, clear_fresh]
  exact ⟨⟨hp, by rw [hclasses]; rfl⟩, rfl, rfl⟩

theorem Ready.acquire (h : p.Ready arity hint) (hm : Meets arity hint) :
    p.acquire arity hint = (fresh arity hint,
      { p with classes := List.replicate classCount [], hits := p.hits + 1 }) := by
  obtain ⟨c, hc, hle⟩ := hm
  have htake : (requestClass hint).bind (takeFrom · p.classes)
      = some (fresh arity hint, List.replicate classCount []) := by
    rw [hc, Option.bind_some, h.classes]
    exact takeFrom_single _ hle (releaseClass_lt _)
  simp [RecordPool.acquire, htake, refit_fresh]

theorem Ready.pops (h : p.Ready arity hint) (hm : Meets arity hint) :
    Pops p (p.acquire arity hint).2 (releaseClass (fresh arity hint).room) (fresh arity hint) := by
  have hlt : releaseClass (fresh arity hint).room
      < (List.replicate classCount ([] : List Record)).length :=
    List.length_replicate.symm ▸ releaseClass_lt _
  refine ⟨[], ?_, ?_⟩
  · rw [h.classes, List.getElem?_set_self hlt]
  · rw [h.acquire hm, h.classes, List.set_set, List.set_replicate_self]

theorem Ready.round (h : p.Ready arity hint) (hm : Meets arity hint) :
    (p.round arity hint).Ready arity hint ∧ (p.round arity hint).misses = p.misses
      ∧ (p.round arity hint).hits = p.hits + 1 := by
  rw [RecordPool.round, h.acquire hm]
  exact ready_release h.perClass rfl hm

theorem Ready.rounds (h : p.Ready arity hint) (hm : Meets arity hint) (n : Nat) :
    ((RecordPool.round arity hint)^[n] p).misses = p.misses
      ∧ ((RecordPool.round arity hint)^[n] p).hits = p.hits + n := by
  induction n generalizing p with
  | zero => exact ⟨rfl, rfl⟩
  | succ n ih =>
    obtain ⟨hr, hmisses, hhits⟩ := h.round hm
    obtain ⟨hmisses', hhits'⟩ := ih hr
    rw [Function.iterate_succ_apply]
    exact ⟨hmisses'.trans hmisses, by rw [hhits', hhits]; omega⟩

/-! ## Empty pools -/

/-- What a caller finds who asks a pool for the same over and over. -/
structure Repeats (arity hint : Nat) (p : RecordPool) : Prop where
  /-- The first record is made anew. -/
  first : p.acquire arity hint = (fresh arity hint, { p with misses := p.misses + 1 })
  /-- The second request is a hit just when the demand recurs. -/
  again : ((p.round arity hint).acquire arity hint).2.hits = (p.round arity hint).hits + 1
    ↔ Recurs arity hint
  /-- It then pops the first record, which is handed out as it was. -/
  same : Recurs arity hint →
    (∃ c, Pops (p.round arity hint) ((p.round arity hint).acquire arity hint).2 c
      (p.acquire arity hint).1)
    ∧ ((p.round arity hint).acquire arity hint).1 = (p.acquire arity hint).1
  /-- After any number of rounds, one record was made for a demand that recurs, and for any other
  one in each round. -/
  rounds : ∀ n, ((RecordPool.round arity hint)^[n + 1] p).misses
      = p.misses + (if Recurs arity hint then 1 else n + 1)
    ∧ ((RecordPool.round arity hint)^[n + 1] p).hits
      = p.hits + (if Recurs arity hint then n else 0)

theorem Kept.classes_of_empty (h : p.Kept) (hempty : p.available = 0) :
    p.classes = List.replicate classCount [] := by
  refine List.eq_replicate_iff.2 ⟨h.filed.count, fun q hq => ?_⟩
  have := le_total List.length hq
  rw [available] at hempty
  exact List.eq_nil_of_length_eq_zero (by omega)

theorem Kept.repeats (h : p.Kept) (hp : 0 < p.perClass) (hempty : p.available = 0)
    (arity hint : Nat) : p.Repeats arity hint := by
  have hclasses := h.classes_of_empty hempty
  have hshort : p.Short arity hint := by
    refine ⟨h.filed.count, fun c _ d q _ hat => ?_⟩
    rw [hclasses] at hat
    exact (List.mem_replicate.1 (List.mem_of_getElem? hat)).2
  have hfirst : p.acquire arity hint = (fresh arity hint, { p with misses := p.misses + 1 }) :=
    acquire_of_vacant hshort.vacant
  by_cases hm : Meets arity hint
  · have hr := (meets_iff_recurs arity hint).1 hm
    have hround : p.round arity hint
        = RecordPool.release (fresh arity hint) { p with misses := p.misses + 1 } := by
      rw [round, hfirst]
    obtain ⟨hready, hmisses, hhits⟩ :=
      ready_release (p := { p with misses := p.misses + 1 }) hp hclasses hm
    rw [← hround] at hready hmisses hhits
    have hagain := hready.acquire hm
    refine ⟨hfirst, ⟨fun _ => hr, fun _ => by rw [hagain]⟩, fun _ => ?_, fun n => ?_⟩
    · rw [hfirst]
      exact ⟨⟨_, hready.pops hm⟩, by rw [hagain]⟩
    · obtain ⟨hmisses', hhits'⟩ := hready.rounds hm n
      rw [Function.iterate_succ_apply, if_pos hr, if_pos hr, hmisses', hmisses, hhits', hhits]
      exact ⟨rfl, rfl⟩
  · have hr := (meets_iff_recurs arity hint).not.1 hm
    obtain ⟨hshort', -, -⟩ := hshort.round hm
    have hagain : (p.round arity hint).acquire arity hint = (fresh arity hint, _) :=
      acquire_of_vacant hshort'.vacant
    refine ⟨hfirst, ⟨fun hhit => ?_, fun h => absurd h hr⟩, fun h => absurd h hr, fun n => ?_⟩
    · rw [hagain] at hhit
      simp at hhit
    · rw [if_neg hr, if_neg hr]
      exact hshort.rounds hm (n + 1)

end RecordPool

namespace Lending

open RecordPool

/-- Whatever was done with a pool that has no idle record, a caller who asks it for the same over
and over, and gives the record back each time, gets the one that was made first if the demand
recurs, and otherwise a new one every time. -/
theorem repeats_of_empty {perClass : Nat} {ops : List LendingOp}
    (hempty : (run perClass ops).pool.available = 0) (arity hint : Nat) :
    (run perClass ops).pool.Repeats arity hint := by
  have h := sound_run perClass ops
  refine h.kept.repeats ?_ hempty arity hint
  rw [h.perClass_eq]
  exact Nat.le_max_right perClass 1

/-- A hundred bytes in two fields come back as a record of the class below the one that is searched:
the same demand is met by another new record. A hundred and twenty eight bytes are found again. -/
theorem repeats_of_hundred_bytes :
    (run 4 []).pool.available = 0
      ∧ ¬Recurs 2 100 ∧ (run 4 []).pool.Repeats 2 100
      ∧ ((round 2 100)^[3] (run 4 []).pool).misses = 3
      ∧ Recurs 2 128 ∧ (run 4 []).pool.Repeats 2 128
      ∧ ((round 2 128)^[3] (run 4 []).pool).misses = 1 := by
  have hempty : (run 4 []).pool.available = 0 := rfl
  have h := repeats_of_empty hempty 2 100
  have h' := repeats_of_empty hempty 2 128
  have hn : ¬Recurs 2 100 := by decide
  have hr : Recurs 2 128 := by decide
  refine ⟨hempty, hn, h, ?_, hr, h', ?_⟩
  · rw [(h.rounds 2).1, if_neg hn]
    rfl
  · rw [(h'.rounds 2).1, if_pos hr]
    rfl

end Lending

end LogPipeline
