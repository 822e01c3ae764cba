import LogPipeline.Proofs.Consignments
import LogPipeline.Proofs.Curfews
import LogPipeline.Proofs.Diaries
import LogPipeline.Proofs.Hoppers
import LogPipeline.Proofs.Rosters
import LogPipeline.Proofs.Timesheets

/-!
# Ticks and deadlines

What the stages of a pipeline owe to their ticks: wherever data waits, a tick leaves nothing behind
that has waited for the interval of that stage (`fresh_after_ticks`). What they owe to their
deadlines: no call before the workers of a pipeline takes longer than its sends may take, however
many these are, and an item is sent once or handed back (`calls_return`).
-/

namespace LogPipeline

open Relation

/-- In every buffer that was ticked at time `t`, and in every buffer of a sink that was ticked, each
record that waits came less than the flush interval before. When the distributor was ticked, no run
is open that was opened the flush interval before. When a processor was ticked, each line in its
chunk was written less than the flush interval before, it knows when the first of them was, if there
is one, and it holds nothing back if its run had its turn or it has none. -/
theorem fresh_after_ticks :
    (∀ {limits : BufferLimits} {books : Books} {key : String} {queue : Queue Batch}
        {now t deadline : Instant} {h h' : Hopper},
      ReflTransGen Hopper.Move (.start key limits queue books now) h →
      ReflTransGen Hopper.Wait (h.tick t deadline) h' →
      ∃ past recent, h'.given = past ++ recent ∧ recent.map Prod.fst = h'.buffer.pending
        ∧ ∀ e ∈ recent, t - e.2 < limits.flushInterval)
    ∧ (∀ {schema : Schema} {p : Plant} {o : Orchestrator} {id : Nat} {x y : Diary} {s : Sink}
        {e : Option String × Outlet}, p.IsNew → Orchestrator.build schema p = .ok o →
      ReflTransGen Diary.Move { depot := { orchestrator := o } } x → x.depot.IsFree id →
      ReflTransGen (Diary.Wait id) (x.tick id) y → y.depot.IsFree id →
      y.sink? id = some s → e ∈ s.shelves →
      ∃ past recent, y.log id e.1 = past ++ recent ∧ recent.map Prod.fst = e.2.buffer.pending
        ∧ ∀ a ∈ recent, x.now - a.2 < o.settings.buffer.flushInterval)
    ∧ (∀ {limits : RunLimits} {sendTimeout n : Nat} {children : List GatedChild} {now : Instant}
        {x y : Roster}, ReflTransGen Roster.Move (.start limits sendTimeout n children now) x →
      ReflTransGen Roster.Wait x.tick y →
      ∀ e ∈ y.opened, limits.flushInterval ≤ x.now - e.2 →
        ∀ o, y.fan.distributor.openRun = some o → o.run ≠ e.1)
    ∧ ∀ {names : List String} {schema : Schema} {rules : List Rule} {settings : ProcessingSettings}
        {sendTimeout acceptTime i : Nat} {books : Books} {x y : Timesheet} {d d' : Desk}
        {rest : List Job},
      ReflTransGen Timesheet.Move
        { book := .start names (.standard schema rules) settings sendTimeout acceptTime books } x →
      x.book.desks.desks[i]? = some d → d.busy = false → d.jobs = .tick :: rest →
      ReflTransGen (Timesheet.Wait i) (x.next (x.book.act i)) y →
      y.book.desks.desks[i]? = some d' → d'.busy = false →
      let p := d'.processor
      (∃ past recent, y.written (.standard schema rules) i = past ++ recent
          ∧ p.maker.buffer = joined (recent.map Prod.fst) ∧ p.maker.records = recent.length
          ∧ p.bufferedSince = recent.head?.map Prod.snd
          ∧ ∀ e ∈ recent, x.now - e.2 < settings.chunkFlushInterval)
        ∧ (p.bufferedSince ≠ none ↔ p.maker.hasPending = true)
        ∧ (p.run = none ∨ (∃ n, d.processor.run = some n ∧ x.book.desks.sequencer.isTurn n = true) →
          p.pending = []) :=
  ⟨Hopper.fresh_of_tick, Diary.fresh_of_tick, Roster.closed_of_tick,
    fun hr hd hb hj => Timesheet.fresh_of_tick hr hd hb hj⟩

/-- Ticks when an interval is over. A record that waits since time 0 leaves its buffer, and one that
waits since time 150 stays; the run ends; the chunk is handed over. -/
theorem fresh_after_ticks_of_intervals :
    (∃ h h', ReflTransGen Hopper.Move (.start "info" {} { capacity := 1 } {} 0) h
      ∧ ReflTransGen Hopper.Wait (h.tick 200 250) h'
      ∧ h.buffer.pending.length = 1 ∧ h'.buffer.pending.length = 0
      ∧ ∃ past recent, h'.given = past ++ recent ∧ recent.map Prod.fst = h'.buffer.pending
        ∧ ∀ e ∈ recent, 200 - e.2 < 200)
    ∧ (∃ p o x y s, Plant.IsNew p ∧ Orchestrator.build ⟨["level", "app"]⟩ p = .ok o
      ∧ ReflTransGen Diary.Move { depot := { orchestrator := o } } x
      ∧ ReflTransGen (Diary.Wait 1) (x.tick 1) y ∧ y.sink? 1 = some s
      ∧ s.shelves.map (·.2.buffer.pending.length) = [0, 1]
      ∧ ∀ e ∈ s.shelves, ∃ past recent, y.log 1 e.1 = past ++ recent
        ∧ recent.map Prod.fst = e.2.buffer.pending ∧ ∀ a ∈ recent, x.now - a.2 < 200)
    ∧ (∃ x y, ReflTransGen Roster.Move (.start {} 50 1 (Fan.start {} 1 1 50 [] {}).children 0) x
      ∧ ReflTransGen Roster.Wait x.tick y
      ∧ (x.fan.distributor.openRun.map OpenRun.run, y.opened) = (some 0, [(0, 0)])
      ∧ ∀ o, y.fan.distributor.openRun = some o → o.run ≠ 0)
    ∧ ∃ x d y d', ReflTransGen Timesheet.Move
        { book := .start ["a"] (.standard ⟨["name"]⟩ []) {} 10 0 {} } x
      ∧ x.book.desks.desks[0]? = some d ∧ d.processor.maker.records = 1
      ∧ ReflTransGen (Timesheet.Wait 0) (x.next (x.book.act 0)) y
      ∧ y.book.desks.desks[0]? = some d' ∧ d'.processor.maker.records = 0
      ∧ d'.processor.pending = [] := by
  obtain ⟨hopper, diary, roster, timesheet⟩ := fresh_after_ticks
  refine ⟨?buffer, ?sink, ?distributor, ?processor⟩
  case buffer =>
    let h₀ : Hopper := .start "info" {} { capacity := 1 } {} 0
    let h : Hopper := { h₀.append { size := 1 } 50 with now := 200 }
    have hr : ReflTransGen Hopper.Move h₀ h :=
      .tail (.single (.call (.append _ 50 (by decide)) (by decide) rfl)) (.pass 200 (by decide))
    have hw : ReflTransGen Hopper.Wait (h.tick 200 250) (h.tick 200 250).attempt :=
      .single ⟨by decide, .attempt⟩
    exact ⟨h, _, hr, hw, rfl, rfl, hopper hr hw⟩
  case sink =>
    let p : Plant :=
      ⟨{ blueprint := { settings := { routing := .byKeySet ["app"] none } }
         destination := ⟨{ capacity := 1 }, []⟩ }, []⟩
    let o : Orchestrator := { plant := p, router := .keyed ⟨["app"], [1]⟩ (.dotted ["app"]) {} }
    have hp : p.IsNew := ⟨rfl, rfl, rfl, rfl⟩
    have hb : Orchestrator.build ⟨["level", "app"]⟩ p = .ok o := rfl
    let accept (value : String) (d : Depot) : Depot :=
      d.call 1 (d.orchestrator.accept 1 [{ fields := [⟨"info", 4⟩, ⟨value, 3⟩] }])
    let setNow (t : Instant) (x : Diary) : Diary :=
      { x with depot.orchestrator.plant := x.depot.orchestrator.plant.setNow t }
    let x₀ : Diary := { depot := { orchestrator := o } }
    let x₁ : Diary := { x₀ with depot := x₀.depot.change (x₀.depot.orchestrator.addSink 1) }
    let x₂ : Diary := { x₁ with depot := accept "1:a" x₁.depot }
    let x₃ : Diary := setNow 150 (x₂.goOn 0)
    let x₄ : Diary := { x₃ with depot := accept "1:b" x₃.depot }
    let x : Diary := setNow 200 (x₄.goOn 1)
    let y : Diary := (((x.tick 1).goOn 2).goOn 2).goOn 2
    have hr : ReflTransGen Diary.Move x₀ x :=
      .head (.call (.addSink 1 (by decide +kernel))) <|
        .head (.call (.accept 1 _ (by decide +kernel))) <| .head (.goOn 0) <|
        .head (.turn (.setNow 150) (by decide +kernel) rfl rfl) <|
        .head (.call (.accept 1 _ (by decide +kernel))) <| .head (.goOn 1) <|
        .single (.turn (.setNow 200) (by decide +kernel) rfl rfl)
    have hw : ReflTransGen (Diary.Wait 1) (x.tick 1) y :=
      .head ⟨by decide +kernel, .goOn 2⟩ <| .head ⟨by decide +kernel, .goOn 2⟩ <|
        .single ⟨by decide +kernel, .goOn 2⟩
    have hy : (y.sink? 1).map (fun s => s.shelves.map (·.2.buffer.pending.length))
        = some [0, 1] := by decide +kernel
    obtain ⟨s, hs, hl⟩ := Option.map_eq_some_iff.1 hy
    exact ⟨p, o, x, y, s, hp, hb, hr, hw, hs, hl, fun e he =>
      diary hp hb hr (by decide +kernel) hw (by decide +kernel) hs he⟩
  case distributor =>
    let x₀ : Roster := .start {} 50 1 (Fan.start {} 1 1 50 [] {}).children 0
    let x₁ := x₀.receive [{}] 50
    let x₂ : Roster := { x₁ with fan := x₁.fan.callAct.callAct }
    let x : Roster := { x₂ with fan := { x₂.fan with now := 1000 } }
    have hr : ReflTransGen Roster.Move x₀ x :=
      .tail (.tail (.tail (.single (.call (.receive [{}] 50) (by decide))) .goOn) .goOn)
        (.pass 1000 (by decide))
    have hw : ReflTransGen Roster.Wait x.tick { x.tick with fan := x.tick.fan.callAct } :=
      .single ⟨by decide, .goOn⟩
    exact ⟨x, _, hr, hw, by decide, fun o ho => roster hr hw (0, 0) (by decide) (by decide) o ho⟩
  case processor =>
    let act (x : Timesheet) : Timesheet := x.next (x.book.act 0)
    let x₀ : Timesheet := { book := .start ["a"] (.standard ⟨["name"]⟩ []) {} 10 0 {} }
    let x₁ := x₀.next { x₀.book with desks := (x₀.book.desks.issue "t").2 }
    let r := x₁.book.desks.batch (some "t") [{}] false
    let x₂ := x₁.next ({ x₁.book with desks := r.2 }.give 0 (.batch r.1 10))
    let x₃ := act (act (act (act (act x₂))))
    let x₄ := x₃.next (x₃.book.give 0 .tick)
    let x := x₄.next { x₄.book with desks := { x₄.book.desks with now := 1000 } }
    let y := act (act (act (act (act (act (act x))))))
    have hr : ReflTransGen Timesheet.Move x₀ x :=
      .head ⟨.issue "t", by decide⟩ <| .head ⟨.batch 0 (some "t") _ _ _ (by decide), by decide⟩ <|
        .head ⟨.act 0, by decide⟩ <| .head ⟨.act 0, by decide⟩ <| .head ⟨.act 0, by decide⟩ <|
        .head ⟨.act 0, by decide⟩ <| .head ⟨.act 0, by decide⟩ <|
        .head ⟨.tick 0, by decide⟩ <| .single ⟨.pass 1000, by decide⟩
    have hw : ReflTransGen (Timesheet.Wait 0) (act x) y :=
      .head ⟨by decide, .mk (.act 0) (by decide)⟩ <| .head ⟨by decide, .mk (.act 0) (by decide)⟩ <|
        .head ⟨by decide, .mk (.act 0) (by decide)⟩ <|
        .head ⟨by decide, .mk (.act 0) (by decide)⟩ <|
        .head ⟨by decide, .mk (.act 0) (by decide)⟩ <| .single ⟨by decide, .mk (.act 0) (by decide)⟩
    have hx : (x.book.desks.desks[0]?).map (fun d =>
        (d.busy, d.jobs, d.processor.maker.records, d.processor.run))
        = some (false, [.tick], 1, some 0) := by decide
    have hy : (y.book.desks.desks[0]?).map (fun d => (d.busy, d.processor.maker.records))
        = some (false, 0) := by decide
    obtain ⟨d, hd, hx⟩ := Option.map_eq_some_iff.1 hx
    obtain ⟨hb, hjobs, hrecords, hrun⟩ : d.busy = false ∧ d.jobs = [.tick]
        ∧ d.processor.maker.records = 1 ∧ d.processor.run = some 0 := by simpa using hx
    obtain ⟨d', hd', hy⟩ := Option.map_eq_some_iff.1 hy
    obtain ⟨hb', hrecords'⟩ := Prod.mk.inj hy
    obtain ⟨-, -, hpending⟩ := timesheet hr hd hb hjobs hw hd' hb'
    exact ⟨x, d, y, d', hr, hd, hrecords, hw, hd', hrecords',
      hpending (.inr ⟨0, hrun, by decide⟩)⟩

/-- Under a clock that waits for calls that can go on, a call on a sink, on a buffer or on the
distributor returns by the time that it has for its sends, or at once if that has passed. However
others use the queue, a send that succeeds put its item there once, and one that fails put nothing
there and hands the item back. -/
theorem calls_return :
    (∀ {schema : Schema} {p : Plant} {o : Orchestrator} {id : Nat} {d : Depot} {σ : ℕ → Depot},
      p.IsNew → Orchestrator.build schema p = .ok o →
      ReflTransGen Depot.Move { orchestrator := o } d → d.IsFree id → d.Visits id (σ 0) →
      Depot.clockwork.Timed σ →
      ∃ n v, (σ n).visits[d.visits.length]? = some v ∧ v.sink = id ∧ v.errands = []
        ∧ (σ n).now ≤ d.now + o.settings.sendTimeout)
    ∧ (∀ {h : Hopper} {deadline : Instant} {σ : ℕ → Hopper}, ¬h.IsBusy → h.Call deadline (σ 0) →
      Hopper.clockwork.Timed σ →
      ∃ n, (∀ k < n, (σ k).IsBusy) ∧ ¬(σ n).IsBusy ∧ (σ n).now ≤ max h.now deadline)
    ∧ (∀ {x : Roster} {deadline : Instant} {σ : ℕ → Roster}, x.Call deadline (σ 0) →
      Roster.clockwork.Timed σ →
      ∃ n, (∀ k < n, (σ k).IsBusy) ∧ ¬(σ n).IsBusy ∧ (σ n).now ≤ max x.now deadline)
    ∧ (∀ {α : Type} {a : α} {deadline : Instant} {x y : Consignment α},
      ReflTransGen Consignment.Wait (x.send a deadline) y → ¬y.IsBusy →
      y.mailbox.sent = none ∧ y.mailbox.returned = none ∧ y.entered = x.entered ++ [a]
        ∨ y.mailbox.sent ≠ none ∧ y.mailbox.returned = some a ∧ y.entered = x.entered)
    ∧ ∀ {α : Type} (x : Consignment α), ∃ l, x.attempt.entered = x.entered ++ l
      ∧ x.attempt.mailbox.queue.items = x.mailbox.queue.items ++ l := by
  refine ⟨?sink, fun hi hc hσ => Hopper.returns hσ hi hc, fun hc hσ => Roster.returns hσ hc,
    Consignment.settles, Consignment.attempt_appends⟩
  intro schema p o id d σ hp hb hr hf hc hσ
  obtain ⟨hsound, hsettings⟩ := (Depot.sound_build hp hb).1.settings_reaches hr
  obtain ⟨n, v, hv, hsink, hdone, hnow⟩ := hc.returns hsound hf hσ
  have htimeout : d.orchestrator.settings.sendTimeout = o.settings.sendTimeout :=
    congrArg PipelineSettings.sendTimeout hsettings
  exact ⟨n, v, hv, hsink, hdone, htimeout ▸ hnow⟩

/-- Calls that find a full queue. Of the sends on a queue with room for one item the first succeeds,
and the second fails. -/
theorem calls_return_despite_full_queues :
    (∃ o d σ, Orchestrator.build ⟨["name"]⟩ Docket.narrow = .ok o
      ∧ ReflTransGen Depot.Move { orchestrator := o } d
      ∧ σ 0 = d.call 1 (d.orchestrator.accept 1 [{}, {}, {}]) ∧ Depot.clockwork.Timed σ
      ∧ ∃ n v, (σ n).visits[0]? = some v ∧ v.errands = [] ∧ (σ n).now ≤ 5000)
    ∧ (∃ h σ, σ 0 = Hopper.flush 250 h ∧ (σ 0).queue.hasRoom = false ∧ (σ 0).IsBusy
      ∧ Hopper.clockwork.Timed σ ∧ ∃ n, ¬(σ n).IsBusy ∧ (σ n).now ≤ 250)
    ∧ (∃ x σ, σ 0 = Roster.receive [{}] 50 x ∧ (σ 0).fan.callAble = false
      ∧ Roster.clockwork.Timed σ ∧ ∃ n, ¬(σ n).IsBusy ∧ (σ n).now ≤ 50)
    ∧ ∃ x y z : Consignment Nat, ReflTransGen Consignment.Wait (x.send 7 250) y
      ∧ ReflTransGen Consignment.Wait (y.send 8 0) z ∧ z.mailbox.returned = some 8
      ∧ z.entered = [7] := by
  obtain ⟨depot, hopper, roster, consignment, -⟩ := calls_return
  refine ⟨?sink, ?buffer, ?distributor, ?queue⟩
  case sink =>
    let d₀ : Depot := { orchestrator :=
      ⟨Orchestrator.launch Orchestrator.singleTag [] Docket.narrow, .single true, [], [], 0, none⟩ }
    let d := d₀.change (d₀.orchestrator.addSink 1)
    have hr : ReflTransGen Depot.Move d₀ d := .single (.inl (.addSink 1 (by decide +kernel)))
    have hf : d.IsFree 1 := by decide +kernel
    have hs := ((Depot.sound_build Docket.isNew_narrow Docket.build_narrow).1.settings_reaches hr).1
    obtain ⟨σ, hσ, h0⟩ := Depot.exists_timed (hs.ofCall (.accept 1 [{}, {}, {}] hf))
    obtain ⟨n, v, hv, -, hdone, hnow⟩ :=
      depot Docket.isNew_narrow Docket.build_narrow hr hf (h0 ▸ Depot.Visits.accept [{}, {}, {}]) hσ
    exact ⟨_, d, σ, Docket.build_narrow, hr, h0, hσ, n, v, hv, hdone, hnow⟩
  case buffer =>
    let h : Hopper := Hopper.append { size := 1 } 250
      (.start "info" {} { capacity := 1, items := [[]] } {} 0)
    obtain ⟨σ, hσ, h0⟩ := Hopper.exists_timed (h.flush 250)
    obtain ⟨n, -, hdone, hnow⟩ := hopper (h := h) (by decide) (h0 ▸ Hopper.Call.flush 250) hσ
    exact ⟨h, σ, h0, by rw [h0]; rfl, by rw [h0]; decide, hσ, n, hdone, hnow⟩
  case distributor =>
    let x : Roster := .start {} 50 1 (Fan.start {} 1 0 50 [] {}).children 0
    obtain ⟨σ, hσ, h0⟩ := Roster.exists_timed (x.receive [{}] 50)
    obtain ⟨n, -, hdone, hnow⟩ := roster (x := x) (h0 ▸ Roster.Call.receive [{}] 50) hσ
    exact ⟨x, σ, h0, by rw [h0]; decide, hσ, n, hdone, hnow⟩
  case queue =>
    let x : Consignment Nat := { mailbox := { queue := { capacity := 1 } } }
    let y := (x.send 7 250).attempt
    let z := (y.send 8 0).attempt
    have hy : ReflTransGen Consignment.Wait (x.send 7 250) y := .single (.attempt nofun)
    have hz : ReflTransGen Consignment.Wait (y.send 8 0) z := .single (.attempt nofun)
    refine ⟨x, y, z, hy, hz, ?_⟩
    rcases consignment hy (not_not.2 rfl) with ⟨-, -, hentered⟩ | ⟨hfailed, -⟩
    · rcases consignment hz (not_not.2 rfl) with ⟨hsent, -⟩ | ⟨-, hreturned, hkept⟩
      · exact absurd hsent (by decide)
      · exact ⟨hreturned, hkept.trans hentered⟩
    · exact absurd rfl hfailed

end LogPipeline
