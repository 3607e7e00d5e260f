import DebugRouter.Library.Runs
import Mathlib.Logic.Function.Basic

/-!
The recovery of the facade's desired state. Application calls and recoveries run at the same time
and share one timer; the daemon client answers their requests, and rejects those that are out when
the connection goes. The continuation of a request runs before the next event of the socket. The
application's listeners return.
-/
namespace DebugRouter.Connector
open Library Option Function

/-- `connectDevices`, `startWatchAllClients` and `startWSServer`, in the order in which they are
restored. -/
inductive DesiredItem where
  | discovery | watchAll | webSocket
  deriving DecidableEq

def DesiredItem.index : DesiredItem → Nat
  | .discovery => 0
  | .watchAll => 1
  | .webSocket => 2

inductive Requester where
  | application
  | automatic
  | recovery
  deriving DecidableEq

inductive RequestPhase where
  | connecting
  | sent
  | rejected
  deriving DecidableEq

inductive RecoveryTask where
  | connect
  | request (requester : Requester) (item : DesiredItem) (phase : RequestPhase)
  deriving DecidableEq

def RecoveryTask.reject : RecoveryTask → RecoveryTask
  | .request requester item .sent => .request requester item .rejected
  | task => task

structure TimerSlot where
  current : Option Nat
  armed : List Nat
  next : Nat
  only : armed = current.toList

namespace TimerSlot
variable (t : TimerSlot)

def empty : TimerSlot := ⟨none, [], 0, rfl⟩

def arm : TimerSlot :=
  if unset : t.current = none then
    ⟨some t.next, t.armed ++ [t.next], t.next + 1, by rw [t.only, unset]; rfl⟩
  else t

def disarm (handle : Nat) (inside : handle ∈ t.armed) : TimerSlot :=
  ⟨none, t.armed.filter (· ≠ handle), t.next, by
    rw [t.only] at inside ⊢
    simp [mem_toList.mp inside]⟩

def clear : TimerSlot :=
  match set : t.current with
  | none => t
  | some handle => t.disarm handle (by simp [t.only, set])

theorem arm_ne : t.arm.armed ≠ [] := by
  unfold arm
  split
  · simp
  next set =>
    obtain ⟨handle, hf⟩ := ne_none_iff_exists'.mp set
    rw [t.only, hf]
    nofun

theorem clear_armed : t.clear.armed = [] := by
  unfold clear
  split
  next hu => rw [t.only, hu, toList_none]
  · simp [disarm, t.only, *]

end TimerSlot

/-- What has happened since the last disconnect. -/
structure SinceDisconnect where
  disconnected : Bool
  done : DesiredItem → Bool
  /-- The application asked for the item when it was not desired. -/
  anew : DesiredItem → Bool
  refused : Bool

structure DesiredState where
  enableWebSocket : Bool
  closed : Bool
  desired : DesiredItem → Bool
  wss : Bool
  desiredRecoveryTimer : TimerSlot
  tasks : Nat → Option RecoveryTask
  since : SinceDisconnect

inductive RecoveryAct where
  | call (id : Nat) (item : DesiredItem)
  | disableAllClients
  | disconnected
  | send (id : Nat)
  | succeed (id : Nat)
  | fail (id : Nat)
  | timer (handle id : Nat)
  | close
  deriving DecidableEq

namespace DesiredState
variable (g : DesiredState)

def initial (enableWebSocket manualConnect : Bool) : DesiredState where
  enableWebSocket := enableWebSocket
  closed := false
  desired := fun item => decide (item = .discovery) && !manualConnect
  wss := false
  desiredRecoveryTimer := .empty
  tasks :=
    fun id => if id = 0 ∧ manualConnect = false then some (.request .automatic .discovery
      .connecting) else none
  since := ⟨false, fun _ => false, fun _ => false, false⟩

def scheduleDesiredRecovery : DesiredState :=
  if g.closed then g else { g with desiredRecoveryTimer := g.desiredRecoveryTimer.arm }

def setTask (id : Nat) (task : Option RecoveryTask) : DesiredState :=
  { g with tasks := update g.tasks id task }

/-- `startWSServer` returns at once when it is not enabled or the facade is closed. -/
def starts : DesiredItem → Bool
  | .webSocket => g.enableWebSocket && !g.closed
  | .discovery | .watchAll => true

def call (id : Nat) (item : DesiredItem) : DesiredState :=
  if g.tasks id = none ∧ g.starts item then
    { g.setTask id (some (.request .application item .connecting)) with
      desired := update g.desired item true
      since.anew := update g.since.anew item (g.since.anew item || !g.desired item) }
  else g

/- `restoreDesiredState` from each of its steps on -/

def restoreWebSocket (id : Nat) : DesiredState :=
  g.setTask id (if g.desired .webSocket ∧ g.wss = false ∧ g.starts .webSocket then
    some (.request .recovery .webSocket .connecting) else none)

def restoreWatchAll (id : Nat) : DesiredState :=
  if g.desired .watchAll then g.setTask id (some (.request .recovery .watchAll .connecting))
  else g.restoreWebSocket id

def restoreDiscovery (id : Nat) : DesiredState :=
  if g.desired .discovery then g.setTask id (some (.request .recovery .discovery .connecting))
  else g.restoreWatchAll id

def restoreAfter (id : Nat) : DesiredItem → DesiredState
  | .discovery => g.restoreWatchAll id
  | .watchAll => g.restoreWebSocket id
  | .webSocket => g.setTask id none

def answered (item : DesiredItem) : DesiredState :=
  { g with
    since.done := update g.since.done item true
    wss := g.wss || (decide (item = .webSocket) && !g.closed) }

def succeed (id : Nat) : RecoveryTask → DesiredState
  | .connect => g.restoreDiscovery id
  | .request .recovery item .sent => (g.answered item).restoreAfter id item
  | .request _ item .sent => (g.answered item).setTask id none
  | .request _ _ _ => g

/-- `startWSServer`, `startWatchAllClients`, the constructor and a recovery schedule another
recovery when they fail; `startWSServer` in a recovery does so twice, the second time in vain. -/
def fail (id : Nat) : RecoveryTask → DesiredState
  | .request .application .discovery _ => { g.setTask id none with since.refused := true }
  | _ => (g.setTask id none).scheduleDesiredRecovery

/-- The requests that are out are rejected, and then `handleDaemonDisconnected` runs unless the
facade has unsubscribed. -/
def disconnected : DesiredState :=
  let rejected := { g with tasks := fun id => (g.tasks id).map RecoveryTask.reject }
  if g.closed then rejected
  else
    { rejected with
      wss := false, since := ⟨true, fun _ => false, fun _ => false, false⟩ }.scheduleDesiredRecovery

def send (id : Nat) : RecoveryTask → DesiredState
  | .request requester item .connecting => g.setTask id (some (.request requester item .sent))
  | _ => g

def onTimer (handle id : Nat) : DesiredState :=
  if fires : g.tasks id = none ∧ handle ∈ g.desiredRecoveryTimer.armed then
    { g.setTask id (some .connect) with
      desiredRecoveryTimer := g.desiredRecoveryTimer.disarm handle fires.2 }
  else g

def close : DesiredState :=
  if g.closed then g
  else { g with closed := true, desiredRecoveryTimer := g.desiredRecoveryTimer.clear }

def step : RecoveryAct → DesiredState
  | .call id item => g.call id item
  | .disableAllClients => { g with desired := update g.desired .watchAll false }
  | .disconnected => g.disconnected
  | .send id => (g.tasks id).elim g (g.send id)
  | .succeed id => (g.tasks id).elim g (g.succeed id)
  | .fail id => (g.tasks id).elim g (g.fail id)
  | .timer handle id => g.onTimer handle id
  | .close => g.close

/- What is left to restore -/

def Asking (item : DesiredItem) : Prop :=
  ∃ id phase, g.tasks id = some (.request .application item phase)

/-- The item needs no recovery: it is not desired, a request for it was answered since the
disconnect, or the application asked for it since then and waits for its answer or was refused
`connectDevices`. -/
def Settled (item : DesiredItem) : Prop :=
  g.desired item = true → g.since.done item = true ∨
    g.since.anew item = true ∧ (g.Asking item ∨ item = .discovery ∧ g.since.refused = true)

def position : RecoveryTask → Option Nat
  | .connect => some 0
  | .request .recovery item _ => some item.index
  | .request _ _ _ => none

def InFlight (id k : Nat) : Prop := ∃ task, g.tasks id = some task ∧ position task = some k

/-- A timer is armed, a recovery is on its way with everything behind it settled, or all is
settled. -/
def Course : Prop :=
  g.desiredRecoveryTimer.armed ≠ [] ∨
    (∃ id k, g.InFlight id k ∧ ∀ item, item.index < k → g.Settled item) ∨
    ∀ item, g.Settled item

structure Kept : Prop where
  shut : g.closed = true → g.desiredRecoveryTimer.armed = []
  enabled : g.desired .webSocket = true → g.enableWebSocket = true
  served : g.wss = true → g.since.done .webSocket = true
  course : g.closed = false → g.since.disconnected = true → g.Course

variable {g} {g' : DesiredState} {id : Nat} {item : DesiredItem}

theorem Settled.carry (hs : g.Settled item) (hd : g'.desired item = true → g.desired item = true)
    (done : g.since.done item = true → g'.since.done item = true)
    (han : g.since.anew item = true → g'.since.anew item = true)
    (hr : g.since.refused = true → g'.since.refused = true)
    (hask : g.Asking item →
      g'.since.done item = true ∨ g'.Asking item ∨ item = .discovery ∧ g'.since.refused = true) :
    g'.Settled item := by
  intro hw
  rcases hs (hd hw) with ha | ⟨hf, has | ⟨first, ht⟩⟩
  · exact .inl (done ha)
  · rcases hask has with ha | waits
    · exact .inl ha
    · exact .inr ⟨han hf, waits⟩
  · exact .inr ⟨han hf, .inr ⟨first, hr ht⟩⟩

theorem Course.mono (hc : g.Course) (hti : g'.desiredRecoveryTimer = g.desiredRecoveryTimer)
    (ht : g'.tasks = g.tasks) (hs : ∀ item, g.Settled item → g'.Settled item) : g'.Course := by
  rcases hc with ha | ⟨j, k, ⟨task, hf, hp⟩, hb⟩ | all
  · exact .inl (hti ▸ ha)
  · exact .inr (.inl ⟨j, k, ⟨task, ht ▸ hf, hp⟩, fun item hbe => hs item (hb item hbe)⟩)
  · exact .inr (.inr fun item => hs item (all item))

theorem Course.carry (hc : g.Course) (id : Nat)
    (ht : g'.desiredRecoveryTimer = g.desiredRecoveryTimer)
    (ho : ∀ j, j ≠ id → g'.tasks j = g.tasks j) (hse : ∀ item, g.Settled item → g'.Settled item)
    (own : ∀ task k, g.tasks id = some task → position task = some k →
      (∀ item, item.index < k → g.Settled item) → g'.Course) : g'.Course := by
  rcases hc with ha | ⟨j, k, ⟨task, hf, hp⟩, hb⟩ | all
  · exact .inl (ht ▸ ha)
  · by_cases hs : j = id
    · exact own task k (hs ▸ hf) hp hb
    · exact .inr (.inl ⟨j, k, ⟨task, (ho j hs).trans hf, hp⟩, fun item hbe => hse item (hb item hbe)⟩)
  · exact .inr (.inr fun item => hse item (all item))

theorem setTask_other {task : Option RecoveryTask} (j : Nat) (h : j ≠ id) :
    (g.setTask id task).tasks j = g.tasks j := update_of_ne h ..

theorem Settled.setTask {task : Option RecoveryTask} (hs : g.Settled item)
    (ha : ∀ phase, g.tasks id ≠ some (.request .application item phase)) :
    (g.setTask id task).Settled item := by
  refine hs.carry (fun h => h) (fun h => h) (fun h => h) (fun h => h) ?_
  rintro ⟨j, phase, hf⟩
  refine .inr (.inl ⟨j, phase, (setTask_other j ?_).trans hf⟩)
  rintro rfl
  exact ha phase hf

/- A recovery from one step to the next -/

section Restores
variable {task : RecoveryTask} {k : Nat} (opened : g.closed = false) (kept : g.Kept)
variable (found : g.tasks id = some task)
  (place : position task = some k)
include found place

theorem Settled.setRecovery {next : Option RecoveryTask} (h : g.Settled item) :
    (g.setTask id next).Settled item := by
  refine h.setTask fun phase ho => ?_
  cases found.symm.trans ho
  cases place

theorem course_request (h : ∀ earlier : DesiredItem, earlier.index < item.index → g.Settled earlier) :
    (g.setTask id (some (.request .recovery item .connecting))).Course :=
  .inr (.inl ⟨id, item.index, ⟨.request .recovery item .connecting, update_self .., rfl⟩,
    fun earlier hb => (h earlier hb).setRecovery found place⟩)

include opened kept

theorem course_restoreWebSocket (h : ∀ item : DesiredItem, item.index < 2 → g.Settled item) :
    (g.restoreWebSocket id).Course := by
  unfold restoreWebSocket
  split
  · exact course_request found place h
  next hs =>
    refine .inr (.inr fun item => Settled.setRecovery found place ?_)
    by_cases hl : item = .webSocket
    · subst hl
      intro hw
      have hst : g.starts .webSocket = true := by simp [DesiredState.starts, kept.enabled hw, opened]
      exact .inl (kept.served (eq_true_of_ne_false fun hu => hs ⟨hw, hu, hst⟩))
    · exact h item (by revert hl; cases item <;> decide)

theorem course_watchAll (h : ∀ item : DesiredItem, item.index < 1 → g.Settled item) :
    (g.restoreWatchAll id).Course := by
  unfold restoreWatchAll
  split
  · exact course_request found place h
  next hu =>
    refine course_restoreWebSocket opened kept found place fun item hb => ?_
    cases item with
    | discovery => exact h .discovery (by decide)
    | watchAll => exact fun hw => absurd hw hu
    | webSocket => exact absurd hb (by decide)

theorem course_restoreDiscovery : (g.restoreDiscovery id).Course := by
  unfold restoreDiscovery
  split
  · exact course_request found place nofun
  next hu =>
    refine course_watchAll opened kept found place fun item hb => ?_
    cases item with
    | discovery => exact fun hw => absurd hw hu
    | watchAll | webSocket => exact absurd hb (by decide)

theorem course_restoreAfter
    (h : ∀ earlier : DesiredItem, earlier.index < item.index + 1 → g.Settled earlier) :
    (g.restoreAfter id item).Course := by
  cases item with
  | discovery => exact course_watchAll opened kept found place h
  | watchAll => exact course_restoreWebSocket opened kept found place h
  | webSocket =>
    refine .inr (.inr fun earlier => (h earlier ?_).setRecovery found place)
    cases earlier <;> decide

end Restores

theorem watchAll_eq : ∃ next, g.restoreWatchAll id = g.setTask id next := by
  unfold restoreWatchAll
  split <;> exact ⟨_, rfl⟩

theorem restoreDiscovery_eq : ∃ next, g.restoreDiscovery id = g.setTask id next := by
  unfold restoreDiscovery
  split
  · exact ⟨_, rfl⟩
  · exact watchAll_eq

theorem restoreAfter_eq : ∃ next, g.restoreAfter id item = g.setTask id next := by
  cases item with
  | discovery => exact watchAll_eq
  | watchAll | webSocket => exact ⟨_, rfl⟩

/- One act -/

variable {task : RecoveryTask}

theorem Kept.answered (hk : g.Kept) : (g.answered item).Kept where
  shut := hk.shut
  enabled := hk.enabled
  served := by
    intro hs
    by_cases hl : item = .webSocket
    · exact hl ▸ update_self ..
    · refine (update_of_ne (Ne.symm hl) ..).trans (hk.served ?_)
      simpa [DesiredState.answered, hl] using hs
  course := by
    intro ho hd
    refine (hk.course ho hd).mono rfl rfl fun o hse => ?_
    refine hse.carry (fun h => h) (fun done => ?_) (fun h => h) (fun h => h) fun ha => .inr (.inl ha)
    simp [DesiredState.answered, update_apply, done]

theorem Kept.setTask {next : Option RecoveryTask} (hk : g.Kept)
    (hc : g.closed = false → g.since.disconnected = true → (g.setTask id next).Course) :
    (g.setTask id next).Kept :=
  ⟨hk.shut, hk.enabled, hk.served, hc⟩

theorem Kept.succeed (hk : g.Kept) (hf : g.tasks id = some task) : (g.succeed id task).Kept := by
  unfold DesiredState.succeed
  split
  · obtain ⟨next, hs⟩ := restoreDiscovery_eq (g := g)
    rw [hs]
    exact hk.setTask fun ho _ => hs ▸ course_restoreDiscovery ho hk hf rfl
  next item =>
    obtain ⟨next, hs⟩ := restoreAfter_eq (g := g.answered item)
    rw [hs]
    refine hk.answered.setTask fun ho hd => ?_
    have hh : (g.answered item).tasks id = some (.request .recovery item .sent) := hf
    refine (hk.answered.course ho hd).carry id rfl setTask_other
      (fun _ hse => hse.setRecovery hh rfl) fun task' k found' hp hb => ?_
    cases hf.symm.trans found'
    cases hp
    refine hs ▸ course_restoreAfter ho hk.answered hh rfl fun earlier hbe => ?_
    by_cases hl : earlier = item
    · exact fun _ => .inl (hl ▸ update_self ..)
    · refine hb earlier (Nat.lt_of_le_of_ne (Nat.le_of_lt_succ hbe) ?_)
      revert hl
      cases earlier <;> cases item <;> decide
  next requester item hi =>
    refine hk.answered.setTask fun ho hd => ?_
    refine (hk.answered.course ho hd).carry id rfl setTask_other (fun o hse => ?_) ?_
    · by_cases hh : o = item
      · exact fun _ => .inl (hh ▸ update_self ..)
      · refine hse.setTask fun phase found' => hh ?_
        exact (RecoveryTask.request.inj (some.inj (hf.symm.trans found'))).2.1.symm
    · intro task' k found' hp
      cases hf.symm.trans found'
      cases requester with
      | recovery => exact absurd rfl hi
      | application | automatic => cases hp
  · exact hk

theorem kept_schedule (hsh : g.closed = true → g.desiredRecoveryTimer.armed = [])
    (he : g.desired .webSocket = true → g.enableWebSocket = true)
    (hs : g.wss = true → g.since.done .webSocket = true) : g.scheduleDesiredRecovery.Kept := by
  unfold scheduleDesiredRecovery
  split
  next closed => exact ⟨hsh, he, hs, fun ho => absurd (closed.symm.trans ho) (by decide)⟩
  next ho => exact ⟨fun closed => absurd closed ho, he, hs, fun _ _ => .inl (TimerSlot.arm_ne _)⟩

theorem Kept.fail (hk : g.Kept) (hf : g.tasks id = some task) : (g.fail id task).Kept := by
  unfold DesiredState.fail
  split
  · refine ⟨hk.shut, hk.enabled, hk.served, fun ho hd => ?_⟩
    refine (hk.course ho hd).carry id rfl setTask_other (fun o hse => ?_) ?_
    · refine hse.carry (fun h => h) (fun h => h) (fun h => h) (fun _ => rfl) ?_
      rintro ⟨j, phase, ha⟩
      by_cases hs : j = id
      · cases hf.symm.trans (hs ▸ ha)
        exact .inr (.inr ⟨rfl, rfl⟩)
      · exact .inr (.inl ⟨j, phase, (setTask_other j hs).trans ha⟩)
    · intro task' k found' hp
      cases hf.symm.trans found'
      cases hp
  · exact kept_schedule hk.shut hk.enabled hk.served

theorem Kept.send (hk : g.Kept) (hf : g.tasks id = some task) : (g.send id task).Kept := by
  unfold DesiredState.send
  split
  next requester item =>
    have hs : ∀ other, g.Settled other →
        (g.setTask id (some (.request requester item .sent))).Settled other := by
      refine fun other hs => hs.carry (fun h => h) (fun h => h) (fun h => h) (fun h => h) ?_
      rintro ⟨j, phase, ha⟩
      by_cases hsa : j = id
      · cases hf.symm.trans (hsa ▸ ha)
        exact .inr (.inl ⟨id, .sent, update_self ..⟩)
      · exact .inr (.inl ⟨j, phase, (setTask_other j hsa).trans ha⟩)
    refine hk.setTask fun ho hd => ?_
    refine (hk.course ho hd).carry id rfl setTask_other hs fun task' k found' hp hb => ?_
    cases hf.symm.trans found'
    refine .inr (.inl ⟨id, k, ⟨_, update_self .., ?_⟩,
      fun earlier hbe => hs earlier (hb earlier hbe)⟩)
    cases requester <;> exact hp
  · exact hk

theorem Kept.call (hk : g.Kept) (id : Nat) (item : DesiredItem) : (g.call id item).Kept := by
  unfold DesiredState.call
  split
  next hst =>
    refine ⟨hk.shut, fun hw => ?_, hk.served, fun ho hd => ?_⟩
    · by_cases hl : item = .webSocket
      · subst hl
        exact (Bool.and_eq_true_iff.mp hst.2).1
      · exact hk.enabled ((update_of_ne (Ne.symm hl) true g.desired).symm.trans hw)
    · refine (hk.course ho hd).carry id rfl setTask_other (fun o hse => ?_) ?_
      · by_cases hs : o = item
        · subst hs
          intro _
          by_cases done : g.since.done o = true
          · exact .inl done
          · refine .inr ⟨?_, .inl ⟨id, .connecting, update_self ..⟩⟩
            by_cases hw : g.desired o = true
            · simp [((hse hw).resolve_left done).1]
            · simp [hw]
        · refine hse.carry (fun hw => ?_) (fun h => h) (fun han => ?_) (fun h => h) ?_
          · exact (update_of_ne hs true g.desired).symm.trans hw
          · exact (update_of_ne hs _ g.since.anew).trans han
          · rintro ⟨j, phase, ha⟩
            refine .inr (.inl ⟨j, phase, (setTask_other j ?_).trans ha⟩)
            rintro rfl
            cases hst.1.symm.trans ha
      · intro task' k found'
        cases hst.1.symm.trans found'
  · exact hk

theorem Kept.step (hk : g.Kept) (act : RecoveryAct) : (g.step act).Kept := by
  cases act with
  | call id item => exact hk.call id item
  | disableAllClients =>
    refine ⟨hk.shut, fun hw => hk.enabled hw, hk.served, fun ho disconnected => ?_⟩
    refine (hk.course ho disconnected).mono rfl rfl fun item hs => ?_
    refine hs.carry (fun hw => ?_) (fun h => h) (fun h => h) (fun h => h) fun ha => .inr (.inl ha)
    simp only [DesiredState.step, update_apply] at hw
    split at hw
    · cases hw
    · exact hw
  | disconnected =>
    simp only [DesiredState.step, disconnected]
    split
    next hc => exact ⟨hk.shut, hk.enabled, hk.served, fun ho => absurd (hc.symm.trans ho) (by decide)⟩
    · exact kept_schedule hk.shut hk.enabled nofun
  | send id =>
    simp only [DesiredState.step]
    cases hf : g.tasks id with
    | none => exact hk
    | some task => exact hk.send hf
  | succeed id =>
    simp only [DesiredState.step]
    cases hf : g.tasks id with
    | none => exact hk
    | some task => exact hk.succeed hf
  | fail id =>
    simp only [DesiredState.step]
    cases hf : g.tasks id with
    | none => exact hk
    | some task => exact hk.fail hf
  | timer handle id =>
    simp only [DesiredState.step, onTimer]
    split
    next hfi =>
      refine ⟨fun hc => ?_, hk.enabled, hk.served,
        fun _ _ => .inr (.inl ⟨id, 0, ⟨.connect, ?_, rfl⟩, nofun⟩)⟩
      · rw [hk.shut hc] at hfi
        cases hfi.2
      · exact update_self ..
    · exact hk
  | close =>
    simp only [DesiredState.step, close]
    split
    · exact hk
    · exact ⟨fun _ => TimerSlot.clear_armed _, hk.enabled, hk.served, nofun⟩

theorem closed_step (h : g.closed = true) (act : RecoveryAct) : (g.step act).closed = true := by
  have hs : ∀ g : DesiredState, g.scheduleDesiredRecovery.closed = g.closed := by
    intro g
    unfold scheduleDesiredRecovery
    split <;> rfl
  cases act with
  | call id item => simp only [step, call]; split <;> exact h
  | disableAllClients => exact h
  | disconnected => simp only [step, disconnected, h, if_true]
  | send id =>
    simp only [step]
    cases g.tasks id with
    | none => exact h
    | some task => simp only [elim_some, send]; split <;> exact h
  | succeed id =>
    simp only [step]
    cases g.tasks id with
    | none => exact h
    | some task =>
      simp only [elim_some, succeed]
      obtain ⟨next, hr⟩ := restoreDiscovery_eq (g := g)
      split
      · exact hr ▸ h
      · obtain ⟨next, hr⟩ := restoreAfter_eq (g := g.answered _)
        exact hr ▸ h
      · exact h
      · exact h
  | fail id =>
    simp only [step]
    cases g.tasks id with
    | none => exact h
    | some task =>
      simp only [elim_some, fail]
      split
      · exact h
      · exact (hs _).trans h
  | timer handle id => simp only [step, onTimer]; split <;> exact h
  | close => simp only [step, close, h, if_true]

theorem kept_initial (ws manualConnect : Bool) : (initial ws manualConnect).Kept :=
  ⟨nofun, by simp [initial], nofun, nofun⟩

theorem recovery_never_lost (enableWebSocket manualConnect : Bool) (acts : List RecoveryAct) :
    Throughout step (fun g => g.desiredRecoveryTimer.armed.length ≤ 1 ∧
        (g.closed = true → g.desiredRecoveryTimer.armed = []) ∧
        (g.closed = false → g.since.disconnected = true →
          g.desiredRecoveryTimer.armed ≠ [] ∨ (∃ id k, g.InFlight id k) ∨ ∀ item, g.Settled item))
        (initial enableWebSocket manualConnect) acts ∧
      Along step (fun g act => g.closed = true → (g.step act).closed = true)
        (initial enableWebSocket manualConnect) acts := by
  have hk : Throughout step Kept (initial enableWebSocket manualConnect) acts :=
    throughout_of_invariant (fun _ act hk => hk.step act)
      (kept_initial enableWebSocket manualConnect) acts
  refine ⟨throughout_mono (fun g hk' => ⟨?_, hk'.shut, fun ho disconnected => ?_⟩) hk,
    along_of_throughout (fun g act _ _ (closed : g.closed = true) => closed_step closed act) hk⟩
  · rw [g.desiredRecoveryTimer.only]
    cases g.desiredRecoveryTimer.current <;> simp
  · rcases hk'.course ho disconnected with ht | ⟨id, k, hf, -⟩ | all
    · exact .inl ht
    · exact .inr (.inl ⟨id, k, hf⟩)
    · exact .inr (.inr all)

/-- All is restored after a disconnect. Then the application starts the WebSocket server for the
first time, or `connectDevices` fails: nothing is armed, and no recovery is in flight. -/
theorem first_request_unrecovered :
    let restored := [RecoveryAct.disconnected, .timer 0 0, .succeed 0].foldl step (initial true true)
    let starting := restored.step (.call 0 .webSocket)
    let refused := [RecoveryAct.call 0 .discovery, .fail 0].foldl step restored
    (starting.closed = false ∧ starting.since.disconnected = true ∧
      starting.desiredRecoveryTimer.armed = [] ∧
        (starting.tasks 0).bind position = none ∧ starting.desired .webSocket = true ∧
        starting.since.done .webSocket = false) ∧
      (refused.closed = false ∧ refused.since.disconnected = true ∧
        refused.desiredRecoveryTimer.armed = [] ∧
        refused.tasks 0 = none ∧ refused.desired .discovery = true ∧
          refused.since.done .discovery = false) := by
  decide +kernel

end DesiredState

end DebugRouter.Connector
