import LogPipeline.Proofs.Seats
import LogPipeline.RecordPool
import Mathlib.Algebra.Group.Nat.Defs
import Mathlib.Data.List.Forall2
import Mathlib.Data.List.Induction
import Mathlib.Data.Nat.Log

/-!
# Records on loan

A pool files a returned record under a class that its storage covers (`classBytes_releaseClass_le`),
and serves a request from a class that is sure to hold it (`requestClass_eq_some`), so what is
popped is large enough unless the request is so small that any record will do (`Kept.pops`). An idle
record has been emptied (`Filed.idle`), so nobody gets to see what it held before. Whatever is done
with the pool and with the records that others have in their hands, this stays so
(`Lending.sound_run`).
-/

namespace LogPipeline

namespace RecordPool

/-! ## Size classes -/

/-- The bytes that every record of a class but the smallest can hold without growing. -/
def classBytes (c : Nat) : Nat := minClassBytes * 2 ^ c

theorem classBytes_le {c d : Nat} (h : c ≤ d) : classBytes c ≤ classBytes d :=
  Nat.mul_le_mul_left _ (Nat.pow_le_pow_right (by decide) h)

theorem classBytes_sub_six {k : Nat} (h : 6 ≤ k) : classBytes (k - 6) = 2 ^ k := by
  have hsum : 6 + (k - 6) = k := by omega
  rw [← hsum, Nat.pow_add, hsum]
  rfl

theorem requestClass_eq_some {hint c : Nat} (h : requestClass hint = some c) :
    c < classCount ∧ hint ≤ classBytes c := by
  unfold requestClass at h
  split at h
  · cases h
  · rename_i hle
    simp only [maxClassBytes, minClassBytes, Option.some.injEq] at h hle
    obtain ⟨m, hm⟩ : ∃ m, max hint 64 - 1 = m := ⟨_, rfl⟩
    rw [hm] at h
    have hlow : 5 ≤ Nat.log2 m := (Nat.le_log2 (by omega)).2 (by omega)
    have hhigh : Nat.log2 m < 16 := (Nat.log2_lt (by omega)).2 (by omega)
    have hcover : m < 2 ^ (Nat.log2 m + 1) := Nat.lt_log2_self
    subst h
    rw [classBytes_sub_six (by omega), classCount]
    omega

theorem releaseClass_lt (room : Nat) : releaseClass room < classCount := by
  unfold releaseClass
  split
  · decide
  · rename_i hroom
    simp only [maxClassBytes, minClassBytes, classCount] at hroom ⊢
    have : Nat.log2 (min room 65536) < 17 := (Nat.log2_lt (by omega)).2 (by omega)
    omega

/-- A record covers the class it is filed under, if that is not the smallest one. -/
theorem classBytes_releaseClass_le {room : Nat} (h : releaseClass room ≠ 0) :
    classBytes (releaseClass room) ≤ room := by
  unfold releaseClass at h ⊢
  split
  · rw [if_pos ‹_›] at h
    exact absurd rfl h
  · rename_i hroom
    simp only [maxClassBytes, minClassBytes] at hroom ⊢
    have hlow : 6 ≤ Nat.log2 (min room 65536) := (Nat.le_log2 (by omega)).2 (by omega)
    have hself : 2 ^ Nat.log2 (min room 65536) ≤ min room 65536 := Nat.log2_self_le (by omega)
    rw [classBytes_sub_six hlow]
    omega

/-! ## What a call does -/

variable {p p' : RecordPool} {r : Record}

/-- A record is popped: the oldest one of a class is taken out. -/
def Pops (p p' : RecordPool) (c : Nat) (r : Record) : Prop :=
  ∃ q, p.classes[c]? = some (r :: q) ∧ p'.classes = p.classes.set c q

theorem takeFrom_eq_some {i : Nat} {qs qs' : List (List Record)}
    (h : takeFrom i qs = some (r, qs')) :
    ∃ c q, i ≤ c ∧ qs[c]? = some (r :: q) ∧ qs' = qs.set c q := by
  fun_induction takeFrom i qs generalizing r qs' with
  | case1 => cases h
  | case2 i q qs ih =>
    obtain ⟨⟨r', qs''⟩, hqs, hcons⟩ := Option.map_eq_some_iff.1 h
    cases hcons
    obtain ⟨c, q', hc, hat, rfl⟩ := ih hqs
    exact ⟨c + 1, q', by omega, hat, rfl⟩
  | case3 qs ih =>
    obtain ⟨⟨r', qs''⟩, hqs, hcons⟩ := Option.map_eq_some_iff.1 h
    cases hcons
    obtain ⟨c, q', -, hat, rfl⟩ := ih hqs
    exact ⟨c + 1, q', by omega, hat, rfl⟩
  | case4 r' q qs =>
    cases h
    exact ⟨0, q, Nat.le_refl 0, rfl, rfl⟩

/-- A request pops a record from a class that is sure to hold it, or else a new record is made. -/
theorem acquire_cases (arity hint : Nat) (p : RecordPool) :
    (∃ c r q, p.classes[c]? = some (r :: q) ∧ hint ≤ classBytes c
      ∧ p.acquire arity hint
        = (refit arity r, { p with classes := p.classes.set c q, hits := p.hits + 1 }))
      ∨ p.acquire arity hint = (fresh arity hint, { p with misses := p.misses + 1 }) := by
  unfold acquire
  split
  · rename_i r classes htake
    obtain ⟨k, hk, htake⟩ := Option.bind_eq_some_iff.1 htake
    obtain ⟨c, q, hkc, hat, rfl⟩ := takeFrom_eq_some htake
    exact .inl ⟨c, r, q, hat, (requestClass_eq_some hk).2.trans (classBytes_le hkc), rfl⟩
  · exact .inr rfl

/-- A record that comes back is emptied and filed behind the others of its class, or dropped. -/
theorem release_cases (hcount : p.classes.length = classCount) (r : Record) :
    (∃ q, p.classes[releaseClass r.room]? = some q ∧ q.length < p.perClass
      ∧ p.release r
        = { p with
            classes := p.classes.set (releaseClass r.room) (q ++ [r.clear])
            returns := p.returns + 1 })
      ∨ p.release r = { p with drops := p.drops + 1 } := by
  have hlt : releaseClass r.room < p.classes.length := hcount ▸ releaseClass_lt r.room
  have hat := List.getElem?_eq_getElem hlt
  unfold release
  split
  · exact .inr rfl
  · simp only [hat, Option.getD_some]
    split
    · rename_i hfits
      refine .inl ⟨_, rfl, hfits, ?_⟩
      rw [List.modify_eq_set_getElem?, hat]
      rfl
    · exact .inr rfl

/-- A record without content. -/
def Idle (r : Record) : Prop := ∀ f ∈ r.fields, f.text = ""

/-- A record as it is handed out: empty fields, as many as were asked for, and no other content. -/
structure Blank (arity : Nat) (r : Record) : Prop where
  timestamp : r.timestamp = 0
  size : r.size = 0
  arity : r.fields.length = arity
  empty : Idle r

theorem blank_fresh (arity hint : Nat) : Blank arity (fresh arity hint) where
  timestamp := rfl
  size := rfl
  arity := List.length_replicate
  empty f hf := by rw [(List.mem_replicate.1 hf).2, Field.blank_text]

theorem blank_refit (arity : Nat) (h : Idle r) : Blank arity (refit arity r) where
  timestamp := rfl
  size := rfl
  arity := by
    simp [refit]
    omega
  empty f hf := by
    rcases List.mem_append.1 hf with hf | hf
    · exact h f (List.mem_of_mem_take hf)
    · rw [(List.mem_replicate.1 hf).2, Field.blank_text]

theorem idle_clear (r : Record) : Idle r.clear := by
  intro f hf
  obtain ⟨g, -, rfl⟩ := List.mem_map.1 hf
  exact g.clear_text

/-! ## What is always so -/

/-- Every class is there and holds no more than it may, and idle records are empty and lie in a
class that they cover. -/
structure Filed (perClass : Nat) (classes : List (List Record)) : Prop where
  count : classes.length = classCount
  within : ∀ q ∈ classes, q.length ≤ perClass
  idle : ∀ c q, classes[c]? = some q → ∀ r ∈ q, Idle r ∧ (c ≠ 0 → classBytes c ≤ r.room)

theorem Filed.set {perClass c : Nat} {classes : List (List Record)} {q : List Record}
    (h : Filed perClass classes) (hlen : q.length ≤ perClass)
    (hq : ∀ r ∈ q, Idle r ∧ (c ≠ 0 → classBytes c ≤ r.room)) :
    Filed perClass (classes.set c q) where
  count := by rw [List.length_set, h.count]
  within q' hq' := by
    rcases List.mem_or_eq_of_mem_set hq' with hq' | rfl
    · exact h.within q' hq'
    · exact hlen
  idle d q' hd := by
    rw [List.getElem?_set] at hd
    split at hd
    · subst c
      split at hd
      · rwa [← Option.some.inj hd]
      · cases hd
    · exact h.idle d q' hd

/-- Idle records are filed as they should be, and what was taken in is idle unless it was given out
again. -/
structure Kept (p : RecordPool) : Prop where
  filed : Filed p.perClass p.classes
  balanced : p.available + p.hits = p.returns

theorem kept_new (perClass : Nat) : (new perClass).Kept where
  filed.count := List.length_replicate
  filed.within q hq := by
    rw [(List.mem_replicate.1 hq).2]
    exact Nat.zero_le _
  filed.idle c q hq := by
    rw [(List.mem_replicate.1 (List.mem_of_getElem? hq)).2]
    exact List.forall_mem_nil _
  balanced := rfl

theorem Kept.acquire (h : p.Kept) (arity hint : Nat) : (p.acquire arity hint).2.Kept := by
  rcases acquire_cases arity hint p with ⟨c, r, q, hat, -, hacquire⟩ | hacquire
  · have hlen := h.filed.within _ (List.mem_of_getElem? hat)
    have hidle := h.filed.idle c _ hat
    rw [hacquire]
    refine
      ⟨h.filed.set (Nat.le_of_succ_le hlen) fun r hr => hidle r (List.mem_cons_of_mem _ hr), ?_⟩
    have htotal := total_set List.length hat q
    have := h.balanced
    simp only [available, List.length_cons] at this htotal ⊢
    omega
  · rw [hacquire]
    exact ⟨h.filed, h.balanced⟩

theorem Kept.release (h : p.Kept) (r : Record) : (p.release r).Kept := by
  rcases release_cases h.filed.count r with ⟨q, hat, hfits, hrelease⟩ | hrelease
  · have hidle := h.filed.idle _ _ hat
    rw [hrelease]
    have hlen : (q ++ [r.clear]).length ≤ p.perClass := by
      rw [List.length_append]
      exact hfits
    refine ⟨h.filed.set hlen fun r' hr' => ?_, ?_⟩
    · rcases List.mem_append.1 hr' with hr' | hr'
      · exact hidle r' hr'
      · obtain rfl := List.mem_singleton.1 hr'
        exact ⟨idle_clear r, fun hc => by
          rw [Record.clear_room]
          exact classBytes_releaseClass_le hc⟩
    · have htotal := total_set List.length hat (q ++ [r.clear])
      have := h.balanced
      simp only [available, List.length_append, List.length_singleton] at this htotal ⊢
      omega
  · rw [hrelease]
    exact ⟨h.filed, h.balanced⟩

theorem Kept.blank (h : p.Kept) (arity hint : Nat) : Blank arity (p.acquire arity hint).1 := by
  rcases acquire_cases arity hint p with ⟨c, r, q, hat, -, hacquire⟩ | hacquire
  · rw [hacquire]
    exact blank_refit arity (h.filed.idle c _ hat r List.mem_cons_self).1
  · rw [hacquire]
    exact blank_fresh arity hint

/-- A request that is too large for some idle records pops one that is large enough, or none. -/
theorem Kept.pops (h : p.Kept) (arity : Nat) {hint : Nat} (hlarge : minClassBytes < hint)
    (hhit : (p.acquire arity hint).2.hits = p.hits + 1) :
    ∃ c r, Pops p (p.acquire arity hint).2 c r ∧ (p.acquire arity hint).1 = refit arity r
      ∧ hint ≤ r.room := by
  rcases acquire_cases arity hint p with ⟨c, r, q, hat, hcover, hacquire⟩ | hacquire
  · rw [hacquire]
    refine ⟨c, r, ⟨q, hat, rfl⟩, rfl, hcover.trans ?_⟩
    refine (h.filed.idle c _ hat r List.mem_cons_self).2 ?_
    rintro rfl
    exact absurd hcover (Nat.not_le_of_lt hlarge)
  · rw [hacquire] at hhit
    simp at hhit

/-- Every request is a hit or a miss. -/
theorem acquire_counts (arity hint : Nat) (p : RecordPool) :
    (p.acquire arity hint).2.perClass = p.perClass
      ∧ (p.acquire arity hint).2.hits + (p.acquire arity hint).2.misses = p.hits + p.misses + 1
      ∧ (p.acquire arity hint).2.returns + (p.acquire arity hint).2.drops
        = p.returns + p.drops := by
  rcases acquire_cases arity hint p with ⟨c, r, q, -, -, hacquire⟩ | hacquire <;> rw [hacquire]
  · exact ⟨rfl, Nat.succ_add .., rfl⟩
  · exact ⟨rfl, rfl, rfl⟩

theorem release_counts (r : Record) (p : RecordPool) :
    (p.release r).perClass = p.perClass
      ∧ (p.release r).hits + (p.release r).misses = p.hits + p.misses := by
  unfold release
  split
  · exact ⟨rfl, rfl⟩
  · simp only
    split <;> exact ⟨rfl, rfl⟩

end RecordPool

/-! ## Histories -/

/-- A pool with the records that others have in their hands. `acquired` notes the records that were
handed out, as they were then, and `released` those that were given back. -/
structure Lending where
  pool : RecordPool
  held : List Record := []
  acquired : List Record := []
  released : List Record := []

/-- What is done with a pool and its records: one is asked for, one in hand is changed, as by
writing a field, or given back, or one that was made elsewhere is given to the pool. -/
inductive LendingOp where
  | acquire (arity hint : Nat)
  | change (i : Nat) (f : Record → Record)
  | giveBack (i : Nat)
  | release (r : Record)

/-- The number of fields that a request asks for, and the room. -/
def LendingOp.request? : LendingOp → Option (Nat × Nat)
  | acquire arity hint => some (arity, hint)
  | _ => none

namespace Lending

open RecordPool

/-- A record is given to the pool. -/
def takeBack (r : Record) (l : Lending) : Lending :=
  { l with pool := l.pool.release r, released := l.released ++ [r] }

def act (op : LendingOp) (l : Lending) : Lending :=
  match op with
  | .acquire arity hint =>
    let (r, pool) := l.pool.acquire arity hint
    { l with pool, held := l.held ++ [r], acquired := l.acquired ++ [r] }
  | .change i f => { l with held := l.held.modify i f }
  | .giveBack i =>
    match l.held[i]? with
    | none => l
    | some r => { l.takeBack r with held := l.held.eraseIdx i }
  | .release r => l.takeBack r

/-- The pool and its records after all this was done. -/
def run (perClass : Nat) (ops : List LendingOp) : Lending :=
  ops.foldl (fun l op => l.act op) { pool := .new perClass }

theorem run_concat (perClass : Nat) (ops : List LendingOp) (op : LendingOp) :
    run perClass (ops ++ [op]) = (run perClass ops).act op := by
  simp [run]

/-- What is noted agrees with the pool and with what was asked for. -/
structure Sound (perClass : Nat) (ops : List LendingOp) (l : Lending) : Prop where
  kept : l.pool.Kept
  perClass_eq : l.pool.perClass = max perClass 1
  blank : List.Forall₂ (fun request r => Blank request.1 r) (ops.filterMap LendingOp.request?)
    l.acquired
  requests : l.pool.hits + l.pool.misses = l.acquired.length
  releases : l.pool.returns + l.pool.drops = l.released.length

theorem sound_new (perClass : Nat) : Sound perClass [] { pool := .new perClass } where
  kept := kept_new perClass
  perClass_eq := rfl
  blank := .nil
  requests := rfl
  releases := rfl

variable {perClass : Nat} {ops : List LendingOp} {l : Lending}

theorem Sound.takeBack (h : Sound perClass ops l) (r : Record) :
    Sound perClass ops (l.takeBack r) := by
  obtain ⟨hperClass, hrequests⟩ := release_counts r l.pool
  refine ⟨h.kept.release r, hperClass.trans h.perClass_eq, h.blank, hrequests.trans h.requests, ?_⟩
  have hreleases := h.releases
  simp only [Lending.takeBack, List.length_append, List.length_singleton]
  rw [release_returns_drops, hreleases]

theorem Sound.act (h : Sound perClass ops l) (op : LendingOp) :
    Sound perClass (ops ++ [op]) (l.act op) := by
  -- what is no request adds nothing to what was asked for
  have hsame : ∀ {l'}, op.request? = none → Sound perClass ops l' →
      Sound perClass (ops ++ [op]) l' := by
    intro l' hop h'
    refine ⟨h'.kept, h'.perClass_eq, ?_, h'.requests, h'.releases⟩
    simpa [List.filterMap_append, hop] using h'.blank
  cases op with
  | acquire arity hint =>
    obtain ⟨hperClass, hrequests, hreleases⟩ := acquire_counts arity hint l.pool
    refine ⟨h.kept.acquire arity hint, hperClass.trans h.perClass_eq, ?_, ?_,
      hreleases.trans h.releases⟩
    · rw [List.filterMap_append]
      exact List.rel_append h.blank (.cons (h.kept.blank arity hint) .nil)
    · have hasked := h.requests
      simp only [Lending.act, List.length_append, List.length_singleton]
      rw [hrequests, hasked]
  | change i f => exact hsame rfl ⟨h.kept, h.perClass_eq, h.blank, h.requests, h.releases⟩
  | giveBack i =>
    refine hsame rfl ?_
    rw [Lending.act]
    split
    · exact h
    · rename_i r _
      have hback := h.takeBack r
      exact ⟨hback.kept, hback.perClass_eq, hback.blank, hback.requests, hback.releases⟩
  | release r => exact hsame rfl (h.takeBack r)

theorem sound_run (perClass : Nat) (ops : List LendingOp) :
    Sound perClass ops (run perClass ops) := by
  induction ops using List.reverseRecOn with
  | nil => exact sound_new perClass
  | append_singleton ops op ih =>
    rw [run_concat]
    exact ih.act op

/-- What holds of a pool and of what was handed out, after whatever was done. -/
structure Serves (perClass : Nat) (ops : List LendingOp) (l : Lending) : Prop where
  /-- Every request was answered by a record of empty fields, as many as were asked for. -/
  blank : List.Forall₂ (fun request r => Blank request.1 r) (ops.filterMap LendingOp.request?)
    l.acquired
  requests : l.pool.hits + l.pool.misses = (ops.filterMap LendingOp.request?).length
  releases : l.pool.returns + l.pool.drops = l.released.length
  /-- What was kept and not handed out again is idle. -/
  available : l.pool.available + l.pool.hits = l.pool.returns
  /-- No class holds more than it may, and idle records are empty and cover their class. -/
  filed : Filed (max perClass 1) l.pool.classes
  /-- A request beyond the smallest class that is a hit pops a record that is large enough. -/
  large : ∀ arity hint, minClassBytes < hint →
    (l.pool.acquire arity hint).2.hits = l.pool.hits + 1 →
    ∃ c r, Pops l.pool (l.pool.acquire arity hint).2 c r
      ∧ (l.pool.acquire arity hint).1 = refit arity r ∧ hint ≤ r.room
  /-- Every class that a request or a record is assigned to is there. -/
  requestClass : ∀ hint c, requestClass hint = some c → c < l.pool.classes.length
  releaseClass : ∀ room, releaseClass room < l.pool.classes.length

/-- Whatever is done with a pool and with its records, the pool serves as it should. -/
theorem serves_of_run (perClass : Nat) (ops : List LendingOp) :
    Serves perClass ops (run perClass ops) := by
  have h := sound_run perClass ops
  have hcount := h.kept.filed.count
  refine ⟨h.blank, ?_, h.releases, h.kept.balanced, ?_, fun arity hint => h.kept.pops arity, ?_, ?_⟩
  · rw [h.requests, h.blank.length_eq]
  · rw [← h.perClass_eq]
    exact h.kept.filed
  · rw [hcount]
    exact fun hint c hc => (requestClass_eq_some hc).1
  · rw [hcount]
    exact releaseClass_lt

/-- A pool with room for one record in each class gets one back that was written, and one that is
too large; a request that is not for a whole class is served from the next one. -/
theorem serves_of_written :
    let ops : List LendingOp :=
      [.acquire 2 256, .change 0 fun r => { r.setField 1 "é" with timestamp := 5, size := 1 },
        .giveBack 0, .release ⟨0, [⟨"x", 200000⟩], 1⟩]
    let pool := (run 0 ops).pool
    minClassBytes < 200 ∧ (pool.acquire 1 200).2.hits = pool.hits + 1
      ∧ (∃ c r, Pops pool (pool.acquire 1 200).2 c r ∧ (pool.acquire 1 200).1 = refit 1 r
        ∧ 200 ≤ r.room)
      ∧ pool.hits + pool.misses = 1 ∧ pool.returns + pool.drops = 2
      ∧ pool.available + pool.hits = pool.returns := by
  intro ops pool
  have h := serves_of_run 0 ops
  have hlarge : minClassBytes < 200 := by decide
  have hhit : (pool.acquire 1 200).2.hits = pool.hits + 1 := by decide
  exact ⟨hlarge, hhit, h.large 1 200 hlarge hhit, h.requests, h.releases, h.available⟩

end Lending

end LogPipeline
