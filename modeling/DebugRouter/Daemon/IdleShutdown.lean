import DebugRouter.Daemon.Lifecycle

/-!
The idle timer over whole runs. It is armed when the last consumer leaves a Host that is ready, and
every consumer that comes clears it.
-/
namespace DebugRouter.Daemon

open Library

namespace Consumers

def Unused (c : Consumers) : Prop := c.controls = [] ∧ c.drivers = []

/-- The Host keeps exactly the consumers that are connected. -/
def Tracked (c : Consumers) : Prop :=
  c.activeControlIds = c.controls ∧ c.activeWebSocketDriverIds = c.drivers

theorem Tracked.inUse_iff {c : Consumers} (h : c.Tracked) : c.isInUse = false ↔ c.Unused := by
  unfold isInUse Unused
  rw [h.1, h.2]
  simp

end Consumers

namespace LifeHost
variable {h : LifeHost}

structure IdleSafe (h : LifeHost) : Prop where
  unused_of_armed : h.consumers.idleTimer = true → h.consumers.Unused
  armed_of_unused : h.lifecycleStatus = .ready → h.consumers.fired = false →
    h.consumers.asked = false →
    h.consumers.Unused → h.consumers.idleTimer = true

/-- The idle handler is called only while nobody is connected, and after the Host was ready. -/
def CallsIdly (h : LifeHost) (act : LifeAct) : Prop :=
  (h.step act).consumers.idleCalls = h.consumers.idleCalls ∨
    h.consumers.Unused ∧ h.consumers.wasReady = true ∧ act = .idleTimeout

/-- What carries it, but for the timer of an unused Host: until `stopInternal` the Host knows its
consumers, and an armed timer waits for nobody. -/
structure Loose (h : LifeHost) : Prop where
  handled : h.option.idleTimeoutHandler = true ∧ 0 ≤ h.option.multiplexerDaemonIdleTimeout
  tracked : h.stopInternals = 0 → h.consumers.Tracked
  stopped : h.lifecycleStatus ≠ .closed → h.stopInternals = 0 ∧ h.stops = []
  silent : 0 < h.stopInternals → h.consumers.idleTimer = false
  ready : h.lifecycleStatus = .ready → h.consumers.wasReady = true
  armed : h.consumers.idleTimer = true → h.consumers.Unused ∧ h.consumers.wasReady = true

structure Timed (h : LifeHost) : Prop extends Loose h where
  waiting : h.lifecycleStatus = .ready → h.consumers.fired = false → h.consumers.asked = false →
    h.consumers.Unused → h.consumers.idleTimer = true

theorem Timed.idleSafe (ht : h.Timed) : h.IdleSafe := ⟨fun ha => (ht.armed ha).1, ht.waiting⟩

theorem Loose.schedule (loose : h.Loose) : h.scheduleIdleTimeoutIfNeeded.Timed := by
  obtain ⟨hh, ht⟩ := loose.handled
  unfold scheduleIdleTimeoutIfNeeded
  split
  next hi =>
    refine { loose with waiting := ?_ }
    intro ready
    rw [hh] at hi
    exact absurd ready (hi.resolve_right nofun)
  next ho =>
    have ready : h.lifecycleStatus = .ready := by
      by_contra hot
      exact ho (.inl hot)
    have alive := (loose.stopped (by rw [ready]; nofun)).1
    have used := (loose.tracked alive).inUse_iff
    split
    next hb =>
      refine { loose with waiting := ?_ }
      intro _ _ _ hu
      rw [used.mpr hu] at hb
      exact absurd (hb.resolve_right nofun) (Int.not_lt.mpr ht)
    next hf =>
      have hu : h.consumers.Unused := used.mp (by simpa using (not_or.mp hf).2)
      exact
        { handled := loose.handled
          tracked := loose.tracked
          stopped := loose.stopped
          silent := fun hs => absurd alive (Nat.ne_of_gt hs)
          ready := loose.ready
          armed := fun _ => ⟨hu, loose.ready ready⟩
          waiting := fun _ _ _ _ => rfl }

theorem Loose.timed (loose : h.Loose) (hc : h.lifecycleStatus = .closed) : h.Timed :=
  { loose with waiting := fun hr => absurd (hc.symm.trans hr) nofun }

theorem Timed.close (ht : h.Timed) : Timed { h with lifecycleStatus := .closed } :=
  Loose.timed ⟨ht.handled, ht.tracked, fun ho => absurd rfl ho, ht.silent, nofun, ht.armed⟩ rfl

theorem Timed.setStops (ht : h.Timed) (hc : h.lifecycleStatus = .closed) (stops : List StopPoint) :
    Timed { h with stops := stops } :=
  Loose.timed ⟨ht.handled, ht.tracked, fun ho => absurd hc ho, ht.silent, ht.ready, ht.armed⟩ hc

/- The acts -/

structure SameTimes (h h' : LifeHost) : Prop where
  option : h'.option = h.option
  lifecycleStatus : h'.lifecycleStatus = h.lifecycleStatus
  stopInternals : h'.stopInternals = h.stopInternals
  stops : h'.stops = h.stops
  consumers : h'.consumers = h.consumers

theorem Timed.same {h' : LifeHost} (ht : h.Timed) (hsa : SameTimes h h') : h'.Timed := by
  cases h
  cases h'
  obtain ⟨ho, hl, hs, hst, hc⟩ := hsa
  dsimp only at ho hl hs hst hc
  subst ho hl hs hst hc
  exact ⟨⟨ht.handled, ht.tracked, ht.stopped, ht.silent, ht.ready, ht.armed⟩, ht.waiting⟩

theorem Timed.stopInternal (ht : h.Timed) (hc : h.lifecycleStatus = .closed) :
    h.stopInternal.1.Timed ∧ h.stopInternal.1.lifecycleStatus = .closed := by
  have he : Timed { h with
      stopInternals := h.stopInternals + 1
      consumers := h.consumers.detached
      web := h.web.detached } :=
    Loose.timed ⟨ht.handled, nofun, fun ho => absurd hc ho, fun _ => rfl,
      fun hr => absurd (hc.symm.trans hr) nofun, nofun⟩ hc
  unfold LifeHost.stopInternal
  dsimp only
  split
  · exact ⟨he, hc⟩
  · exact ⟨he.same ⟨rfl, rfl, rfl, rfl, rfl⟩, hc⟩

theorem Timed.afterStart (ht : h.Timed) (hc : h.lifecycleStatus = .closed) :
    h.afterStart.1.Timed ∧ h.afterStart.1.lifecycleStatus = .closed := by
  unfold LifeHost.afterStart
  split
  · exact ⟨ht, hc⟩
  · exact ht.stopInternal hc

theorem Timed.beginStop (ht : h.Timed) : h.beginStop.Timed := by
  unfold LifeHost.beginStop
  dsimp only
  split
  · exact ht.close.setStops rfl _
  · obtain ⟨ha, hc⟩ := ht.close.afterStart rfl
    exact ha.setStops hc _

theorem Timed.advanceStop (ht : h.Timed) (stop : Nat) : (h.advanceStop stop).Timed := by
  unfold LifeHost.advanceStop
  split
  · exact ht
  all_goals
    rename_i hr
    have hc : h.lifecycleStatus = .closed := by
      by_contra ho
      rw [(ht.stopped ho).2] at hr
      cases hr
  · split
    · obtain ⟨ha, hc⟩ := ht.afterStart hc
      exact ha.setStops hc _
    · exact ht
  · split
    · obtain ⟨ha, hc⟩ := ht.stopInternal hc
      exact ha.setStops hc _
    · exact ht
  · exact (ht.setStops hc _).same ⟨rfl, rfl, rfl, rfl, rfl⟩
  · exact (ht.setStops hc _).same ⟨rfl, rfl, rfl, rfl, rfl⟩
  · exact (ht.setStops hc _).same ⟨rfl, rfl, rfl, rfl, rfl⟩
  · exact ht.setStops hc _
  · exact ht

theorem Timed.becomeReady (ht : h.Timed) : h.becomeReady.Timed := by
  unfold LifeHost.becomeReady
  split
  next hu =>
    have none := ht.stopped (by rw [hu]; nofun)
    apply Loose.schedule
    constructor
    · exact ht.handled
    · exact ht.tracked
    · exact fun _ => none
    · exact ht.silent
    · exact fun _ => rfl
    · exact fun ha => ⟨(ht.armed ha).1, rfl⟩
  · exact ht

theorem Timed.advanceStart (ht : h.Timed) (start : Nat) (ok : Bool) :
    (h.advanceStart start ok).Timed := by
  unfold LifeHost.advanceStart
  split
  · exact ht
  · split <;> exact ht.same ⟨rfl, rfl, rfl, rfl, rfl⟩
  · split
    · exact ht.becomeReady.same ⟨rfl, rfl, rfl, rfl, rfl⟩
    · exact ht.same ⟨rfl, rfl, rfl, rfl, rfl⟩
  · exact ht.same ⟨rfl, rfl, rfl, rfl, rfl⟩
  · have hc : Timed { h with startingPromise := none } := ht.same ⟨rfl, rfl, rfl, rfl, rfl⟩
    unfold rollBack
    dsimp only
    split
    · exact hc.same ⟨rfl, rfl, rfl, rfl, rfl⟩
    · exact hc.beginStop.same ⟨rfl, rfl, rfl, rfl, rfl⟩
  · split
    · exact ht.same ⟨rfl, rfl, rfl, rfl, rfl⟩
    · exact ht
  · exact ht.same ⟨rfl, rfl, rfl, rfl, rfl⟩
  · exact ht

theorem insertLast_ne_nil {α : Type*} [DecidableEq α] (a : α) (l : List α) : insertLast a l ≠ [] := by
  intro he
  have hi : a ∈ insertLast a l := mem_insertLast.mpr (.inr rfl)
  rw [he] at hi
  cases hi

theorem Timed.controlConnected (ht : h.Timed) (ws : Bool) : (h.controlConnected ws).Timed := by
  constructor
  · constructor
    · exact ht.handled
    · intro hr
      obtain ⟨hc, hd⟩ := ht.tracked hr
      exact ⟨congrArg (insertLast h.consumers.nextControlId) hc, hd⟩
    · exact ht.stopped
    · exact fun _ => rfl
    · exact ht.ready
    · exact nofun
  · intro _ _ _ hu
    exact absurd hu.1 (insertLast_ne_nil _ _)

theorem Timed.driverConnected (ht : h.Timed) (id : Int) : (h.driverConnected id).Timed := by
  constructor
  · constructor
    · exact ht.handled
    · intro hr
      obtain ⟨hc, hd⟩ := ht.tracked hr
      exact ⟨hc, congrArg (insertLast id) hd⟩
    · exact ht.stopped
    · exact fun _ => rfl
    · exact ht.ready
    · exact nofun
  · intro _ _ _ hu
    exact absurd hu.2 (insertLast_ne_nil _ _)

theorem Timed.controlDisconnected (ht : h.Timed) (id : Nat) : (h.controlDisconnected id).Timed := by
  apply Loose.schedule
  constructor
  · exact ht.handled
  · intro hru
    obtain ⟨hc, hd⟩ := ht.tracked hru
    exact ⟨congrArg (List.filter (· ≠ id)) hc, hd⟩
  · exact ht.stopped
  · exact ht.silent
  · exact ht.ready
  · intro ha
    obtain ⟨⟨hc, hd⟩, hr⟩ := ht.armed ha
    refine ⟨⟨?_, hd⟩, hr⟩
    dsimp only
    rw [hc, List.filter_nil]

theorem Timed.driverDisconnected (ht : h.Timed) (id : Int) : (h.driverDisconnected id).Timed := by
  apply Loose.schedule
  constructor
  · exact ht.handled
  · intro hru
    obtain ⟨hc, hd⟩ := ht.tracked hru
    exact ⟨hc, congrArg (List.filter (· ≠ id)) hd⟩
  · exact ht.stopped
  · exact ht.silent
  · exact ht.ready
  · intro ha
    obtain ⟨⟨hc, hd⟩, hr⟩ := ht.armed ha
    refine ⟨⟨hc, ?_⟩, hr⟩
    dsimp only
    rw [hd, List.filter_nil]

theorem Timed.requestDaemonShutdown (ht : h.Timed) : h.requestDaemonShutdown.Timed := by
  unfold LifeHost.requestDaemonShutdown
  split
  · exact ht
  · split
    · exact ht
    · exact ⟨⟨ht.handled, ht.tracked, ht.stopped, fun _ => rfl, ht.ready, nofun⟩, nofun⟩

theorem Timed.idleTimeout (ht : h.Timed) :
    Timed { h with consumers := h.consumers.onIdleTimeout } := by
  unfold Consumers.onIdleTimeout
  split
  · dsimp only
    split
    · exact ⟨⟨ht.handled, ht.tracked, ht.stopped, fun _ => rfl, ht.ready, nofun⟩, nofun⟩
    · exact ⟨⟨ht.handled, ht.tracked, ht.stopped, fun _ => rfl, ht.ready, nofun⟩, nofun⟩
  · exact ht

theorem Timed.start (ht : h.Timed) : h.start.Timed := by
  unfold LifeHost.start
  split
  · exact ht
  · split
    · exact ht
    · split
      · exact ht
      · exact ⟨⟨ht.handled, ht.tracked, ht.stopped, ht.silent, ht.ready, ht.armed⟩, ht.waiting⟩

theorem Timed.step (ht : h.Timed) (act : LifeAct) : (h.step act).Timed := by
  cases act with
  | start => exact ht.start
  | advanceStart start ok => exact ht.advanceStart start ok
  | stop =>
    simp only [LifeHost.step, LifeHost.stop]
    split
    · exact ht
    · exact ht.beginStop
  | advanceStop stop => exact ht.advanceStop stop
  | startWSServer ctrl =>
    simp only [LifeHost.step, LifeHost.startWSServer]
    split <;> exact ht.same ⟨rfl, rfl, rfl, rfl, rfl⟩
  | advanceStartup su ok | resumeCall call => exact ht.same ⟨rfl, rfl, rfl, rfl, rfl⟩
  | controlConnected ws => exact ht.controlConnected ws
  | controlDisconnected id => exact ht.controlDisconnected id
  | driverConnected id => exact ht.driverConnected id
  | driverDisconnected id => exact ht.driverDisconnected id
  | requestDaemonShutdown => exact ht.requestDaemonShutdown
  | idleTimeout => exact ht.idleTimeout
  | served gid dev =>
    simp only [LifeHost.step, LifeHost.served]
    split
    · exact ht
    · exact ht.same ⟨rfl, rfl, rfl, rfl, rfl⟩

/- The calls of the handler -/

theorem idleCalls_schedule (h : LifeHost) :
    h.scheduleIdleTimeoutIfNeeded.consumers.idleCalls = h.consumers.idleCalls := by
  unfold scheduleIdleTimeoutIfNeeded
  split
  · rfl
  · split <;> rfl

theorem idleCalls_stopInternal (h : LifeHost) :
    h.stopInternal.1.consumers.idleCalls = h.consumers.idleCalls := by
  unfold stopInternal
  dsimp only
  split <;> rfl

theorem idleCalls_afterStart (h : LifeHost) :
    h.afterStart.1.consumers.idleCalls = h.consumers.idleCalls := by
  unfold afterStart
  split
  · rfl
  · exact idleCalls_stopInternal h

theorem idleCalls_beginStop (h : LifeHost) :
    h.beginStop.consumers.idleCalls = h.consumers.idleCalls := by
  unfold beginStop
  dsimp only
  split
  · rfl
  · exact idleCalls_afterStart _

theorem idleCalls_advanceStop (h : LifeHost) (stop : Nat) :
    (h.advanceStop stop).consumers.idleCalls = h.consumers.idleCalls := by
  unfold advanceStop
  split
  · rfl
  · split
    · exact idleCalls_afterStart h
    · rfl
  · split
    · exact idleCalls_stopInternal h
    · rfl
  all_goals rfl

theorem idleCalls_advanceStart (h : LifeHost) (start : Nat) (ok : Bool) :
    (h.advanceStart start ok).consumers.idleCalls = h.consumers.idleCalls := by
  unfold advanceStart
  split
  · rfl
  · split <;> rfl
  · split
    · unfold becomeReady
      split
      · exact idleCalls_schedule _
      · rfl
    · rfl
  · rfl
  · unfold rollBack
    dsimp only
    split
    · rfl
    · exact idleCalls_beginStop { h with startingPromise := none }
  · split <;> rfl
  · rfl
  · rfl

theorem idleCalls_step (h : LifeHost) {act : LifeAct} (ho : act ≠ .idleTimeout) :
    (h.step act).consumers.idleCalls = h.consumers.idleCalls := by
  cases act with
  | start =>
    simp only [step, start]
    split
    · rfl
    · split
      · rfl
      · split <;> rfl
  | advanceStart start ok => exact idleCalls_advanceStart h start ok
  | stop =>
    simp only [step, stop]
    split
    · rfl
    · exact idleCalls_beginStop h
  | advanceStop stop => exact idleCalls_advanceStop h stop
  | startWSServer ctrl =>
    simp only [step, startWSServer]
    split <;> rfl
  | controlDisconnected id | driverDisconnected id => exact idleCalls_schedule _
  | requestDaemonShutdown =>
    simp only [step, requestDaemonShutdown]
    split
    · rfl
    · split <;> rfl
  | idleTimeout => exact absurd rfl ho
  | served gid dev =>
    simp only [step, served]
    split <;> rfl
  | _ => rfl

theorem Timed.callsIdly (hti : h.Timed) (act : LifeAct) : h.CallsIdly act := by
  by_cases ht : act = .idleTimeout
  · cases ha : h.consumers.idleTimer with
    | true =>
      obtain ⟨hu, hr⟩ := hti.armed ha
      exact .inr ⟨hu, hr, ht⟩
    | false =>
      left
      simp only [ht, LifeHost.step, Consumers.onIdleTimeout, ha, Bool.false_eq_true, if_false]
  · exact .inl (idleCalls_step h ht)

theorem initial_timed {opt : LifeOption} (ws : Bool) (hh : opt.idleTimeoutHandler = true)
    (ht : 0 ≤ opt.multiplexerDaemonIdleTimeout) : (initial opt ws).Timed :=
  ⟨⟨⟨hh, ht⟩, fun _ => ⟨rfl, rfl⟩, fun _ => ⟨rfl, rfl⟩, nofun, nofun, nofun⟩, nofun⟩

/-- The idle timer over every run: it is armed only while nobody is connected; until it has fired or
a shutdown was requested, a ready Host that nobody uses has it armed; and the handler is called only
then. -/
theorem idle_timer_guards (option : LifeOption) (enableWebSocket : Bool)
    (handled : option.idleTimeoutHandler = true)
    (timeout : 0 ≤ option.multiplexerDaemonIdleTimeout) (acts : List LifeAct) :
    Throughout step IdleSafe (initial option enableWebSocket) acts ∧
      Along step CallsIdly (initial option enableWebSocket) acts := by
  have start := initial_timed enableWebSocket handled timeout
  have kept : ∀ (h : LifeHost) (act : LifeAct), h.Timed → (h.step act).Timed :=
    fun _ act ht => ht.step act
  constructor
  · exact throughout_mono (fun _ ht => Timed.idleSafe ht) (throughout_of_invariant kept start acts)
  · exact along_of_invariant kept (fun _ act ht => Timed.callsIdly ht act) start acts

theorem idle_timer_guards_control :
    let option : LifeOption := ⟨true, 5000, true⟩
    let acts : List LifeAct :=
      [.start, .advanceStart 0 true, .controlConnected false, .advanceStart 0 true,
      .controlDisconnected 1, .idleTimeout]
    (Throughout step IdleSafe (initial option false) acts ∧
      Along step CallsIdly (initial option false) acts) ∧
      (acts.foldl step (initial option false)).consumers.idleCalls = 1 :=
  ⟨idle_timer_guards ⟨true, 5000, true⟩ false rfl (by decide) _, by decide⟩

end LifeHost

end DebugRouter.Daemon
