import DebugRouter.Daemon.Watchers

/-!
The startups of the client watchers over whole runs. The attempt that the map holds for a device is
its newest one, made for the device that is registered now while the Host was attached, and nothing
has invalidated it; an attempt that was invalidated is no longer in the map, and stays out.
-/
namespace DebugRouter.Daemon

open Library List OrderedMap WatcherHost

namespace WatcherHost
variable {h : WatcherHost} {k j : Nat} {dev sn : String}

def Live (h : WatcherHost) (k : Nat) : Prop :=
  k < h.nextAttempt ∧ (h.attempts k).invalidated = false ∧ (h.attempts k).point ≠ .settled

/-- The newest attempt of a device, made for the device that is registered now and not invalidated
since. -/
structure Stands (h : WatcherHost) (deviceId : String) (k : Nat) : Prop where
  made : k < h.nextAttempt
  own : (h.attempts k).deviceId = deviceId
  valid : (h.attempts k).invalidated = false
  attached : h.legacyOwnershipAttached = true
  registered : h.devices.get? deviceId = some (h.attempts k).device
  newest : ∀ j < h.nextAttempt, (h.attempts j).deviceId = deviceId → j ≤ k

structure Watches (h : WatcherHost) : Prop where
  /-- A device has at most one attempt under way that is not invalidated. -/
  single : ∀ k k', h.Live k → h.Live k' → (h.attempts k).deviceId = (h.attempts k').deviceId → k = k'
  /-- The attempts in the map are these. -/
  current : ∀ k, h.Live k ↔ k < h.nextAttempt ∧ h.isCurrentAttempt k
  /-- The newest attempt of a device that is marked called `device.startWatchClient`, and the call
  returned. -/
  started : ∀ deviceId ∈ h.clientWatcherStartedDeviceIds, ∃ k, h.Stands deviceId k ∧
    (k, true) ∈ h.calls

/-- Only attempts that were not invalidated call `device.startWatchClient`. -/
def CallsInTime (h : WatcherHost) (act : WatcherAct) : Prop :=
  ∃ added, (h.step act).calls = h.calls ++ added ∧
    ∀ call ∈ added, (h.attempts call.1).invalidated = false

def Unmarked (h : WatcherHost) : Prop :=
  h.clientWatcherStartedDeviceIds = [] ∧
    ∀ deviceId, h.clientWatcherStartingByDeviceId.get? deviceId = none

/-- `forceDisableAllClients` leaves no mark when it is over, and no step makes one unless it makes
an attempt. -/
structure Disables (h : WatcherHost) (act : WatcherAct) : Prop where
  ended : ∀ i found, act = .resumeDisabling i → h.disabling i = some found → h.allSettled found →
    (h.step act).Unmarked
  stays : h.Unmarked → (h.step act).nextAttempt = h.nextAttempt → (h.step act).Unmarked

structure Sound (h : WatcherHost) : Prop where
  starting : ∀ deviceId k, h.clientWatcherStartingByDeviceId.get? deviceId = some k →
    h.Stands deviceId k ∧ (h.attempts k).point ≠ .settled
  live : ∀ k, h.Live k → h.isCurrentAttempt k
  started : ∀ deviceId ∈ h.clientWatcherStartedDeviceIds, ∃ k, h.Stands deviceId k ∧
    (k, true) ∈ h.calls
  called : ∀ k, h.Live k → (h.attempts k).point = .returned → (k, true) ∈ h.calls

theorem Sound.watches (hso : h.Sound) : h.Watches := by
  constructor
  · intro k k' hl hl' hs
    have hh := hso.live k hl
    have there := hso.live k' hl'
    unfold isCurrentAttempt at hh there
    rw [hs, there] at hh
    cases hh
    rfl
  · intro k
    constructor
    · intro hl
      exact ⟨hl.1, hso.live k hl⟩
    · rintro ⟨hm, hc⟩
      obtain ⟨hst, hu⟩ := hso.starting _ k hc
      exact ⟨hm, hst.valid, hu⟩
  · exact hso.started

theorem initial_sound : initial.Sound where
  starting := nofun
  live := fun _ live => absurd live.1 (Nat.not_lt_zero _)
  started := nofun
  called := fun _ live => absurd live.1 (Nat.not_lt_zero _)

/- The point of one attempt -/

theorem attempts_setPoint (pt : AttemptPoint) :
    (h.setPoint k pt).attempts j =
      { h.attempts j with point := if j = k then pt else (h.attempts j).point } := by
  unfold setPoint
  by_cases hs : j = k
  · subst hs
    simp
  · simp [hs]

structure Alike (h h' : WatcherHost) : Prop where
  nextAttempt : h'.nextAttempt = h.nextAttempt
  devices : h'.devices = h.devices
  attached : h'.legacyOwnershipAttached = h.legacyOwnershipAttached
  attempts : ∀ j, { h'.attempts j with point := (h.attempts j).point } = h.attempts j

theorem alike_setPoint (pt : AttemptPoint) : Alike h (h.setPoint k pt) where
  nextAttempt := rfl
  devices := rfl
  attached := rfl
  attempts := fun j => by rw [attempts_setPoint]

variable {h' : WatcherHost} {dv : DeviceRef}

theorem Stands.alike (hs : h.Stands dev k) (hal : Alike h h') : h'.Stands dev k := by
  obtain ⟨hm, own, hv, ha, hr, hn⟩ := hs
  constructor
  · rwa [hal.nextAttempt]
  · rwa [← hal.attempts k] at own
  · rwa [← hal.attempts k] at hv
  · rwa [hal.attached]
  · rwa [← hal.devices, ← hal.attempts k] at hr
  · intro j hm own
    rw [hal.nextAttempt] at hm
    refine hn j hm ?_
    rw [← hal.attempts j]
    exact own

theorem live_setPoint {pt : AttemptPoint} (hl : (h.setPoint k pt).Live j) (ha : j ≠ k) :
    h.Live j := by
  obtain ⟨hm, hv, hu⟩ := hl
  simp only [attempts_setPoint, if_neg ha] at hv hu
  exact ⟨hm, hv, hu⟩

theorem isCurrentAttempt_setPoint (pt : AttemptPoint) :
    (h.setPoint k pt).isCurrentAttempt j ↔ h.isCurrentAttempt j := by
  unfold isCurrentAttempt
  rw [attempts_setPoint]
  rfl

theorem Sound.setPoint (hso : h.Sound) (pt : AttemptPoint) (hb : (h.attempts k).point ≠ .settled)
    (ha : pt ≠ .settled) (hca : pt = .returned → h.Live k → (k, true) ∈ h.calls) :
    (h.setPoint k pt).Sound := by
  have hh : ∀ j, (h.setPoint k pt).Live j → h.Live j := by
    intro j hl
    by_cases hs : j = k
    · subst hs
      obtain ⟨hm, hv, -⟩ := hl
      rw [attempts_setPoint] at hv
      exact ⟨hm, hv, hb⟩
    · exact live_setPoint hl hs
  constructor
  · intro dev j hf
    obtain ⟨hst, hu⟩ := hso.starting dev j hf
    constructor
    · exact hst.alike (alike_setPoint pt)
    · rw [attempts_setPoint]
      dsimp only
      split
      · exact ha
      · exact hu
  · intro j hl
    exact (isCurrentAttempt_setPoint pt).mpr (hso.live j (hh j hl))
  · intro dev hma
    obtain ⟨j, hst, hc⟩ := hso.started dev hma
    exact ⟨j, hst.alike (alike_setPoint pt), hc⟩
  · intro j hl ht
    rw [attempts_setPoint] at ht
    dsimp only at ht
    split at ht
    next hs =>
      subst hs
      exact hca ht (hh j hl)
    · exact hso.called j (hh j hl) ht

theorem Sound.carry (hs : h.Sound) (hst : ∀ dev k, h.Stands dev k → h'.Stands dev k)
    (hsta : h'.clientWatcherStartingByDeviceId = h.clientWatcherStartingByDeviceId)
    (hat : h'.attempts = h.attempts) (hn : h'.nextAttempt = h.nextAttempt)
    (hca : h.calls ⊆ h'.calls)
    (hstar : ∀ dev ∈ h'.clientWatcherStartedDeviceIds, dev ∈ h.clientWatcherStartedDeviceIds ∨
      ∃ k, h.Stands dev k ∧ (k, true) ∈ h.calls) : h'.Sound := by
  have hl : ∀ j, h'.Live j → h.Live j := by
    rintro j ⟨hm, hv, hu⟩
    rw [hat] at hv hu
    exact ⟨hn ▸ hm, hv, hu⟩
  constructor
  · intro dev j hf
    rw [hsta] at hf
    obtain ⟨hh, hu⟩ := hs.starting dev j hf
    rw [hat]
    exact ⟨hst dev j hh, hu⟩
  · intro j ha
    unfold isCurrentAttempt
    rw [hsta, hat]
    exact hs.live j (hl j ha)
  · intro dev hma
    obtain ⟨j, hh, hc⟩ := (hstar dev hma).elim (hs.started dev) id
    exact ⟨j, hst dev j hh, hca hc⟩
  · intro j ha ht
    rw [hat] at ht
    exact hca (hs.called j (hl j ha) ht)

theorem Sound.callStart (hso : h.Sound) (returns : Bool) (hb : (h.attempts k).point ≠ .settled) :
    (h.callStart k returns).Sound := by
  have hl : Sound { h with calls := h.calls ++ [(k, returns)] } :=
    hso.carry (fun _ _ hs => hs.alike ⟨rfl, rfl, rfl, fun _ => rfl⟩) rfl rfl rfl
      (subset_append_left _ _) fun _ hm => .inl hm
  cases returns with
  | true => exact hl.setPoint .returned hb nofun fun _ _ => mem_append_right _ mem_cons_self
  | false => exact hl.setPoint .leaving hb nofun nofun

theorem Sound.mark (hso : h.Sound) (hc : h.isCurrentAttempt k)
    (hr : (h.attempts k).point = .returned) :
    Sound { h with
      clientWatcherStartedDeviceIds := insertLast (h.attempts k).deviceId
        h.clientWatcherStartedDeviceIds } := by
  have hh := (hso.starting _ k hc).1
  have live : h.Live k := ⟨hh.made, hh.valid, by rw [hr]; nofun⟩
  refine hso.carry (fun _ _ hs => hs.alike ⟨rfl, rfl, rfl, fun _ => rfl⟩) rfl rfl rfl
    (List.Subset.refl _) ?_
  intro dev hm
  rcases mem_insertLast.mp hm with old | rfl
  · exact .inl old
  · exact .inr ⟨k, hh, hso.called k live hr⟩

theorem Sound.settle {starting : OrderedMap String Nat} (hso : h.Sound)
    (hg : ∀ dev, starting.get? dev ≠ some k)
    (ho : ∀ dev j, j ≠ k →
      (starting.get? dev = some j ↔ h.clientWatcherStartingByDeviceId.get? dev = some j)) :
    (WatcherHost.setPoint { h with clientWatcherStartingByDeviceId := starting } k
      .settled).Sound := by
  have hal : Alike h (WatcherHost.setPoint { h with clientWatcherStartingByDeviceId := starting } k
      .settled) :=
    ⟨rfl, rfl, rfl, fun j => by rw [attempts_setPoint]⟩
  have hu : ∀ j,
      Live (WatcherHost.setPoint { h with clientWatcherStartingByDeviceId := starting } k .settled)
        j → j ≠ k := by
    rintro j ⟨-, -, hp⟩ hs
    rw [attempts_setPoint, if_pos hs] at hp
    exact hp rfl
  constructor
  · intro dev j hf
    have ha : j ≠ k := fun hs => hg dev (hs ▸ hf)
    obtain ⟨hst, hp⟩ := hso.starting dev j ((ho dev j ha).mp hf)
    refine ⟨hst.alike hal, ?_⟩
    rw [attempts_setPoint, if_neg ha]
    exact hp
  · intro j hl
    have ha := hu j hl
    refine (isCurrentAttempt_setPoint _).mpr ((ho _ j ha).mpr ?_)
    exact hso.live j (live_setPoint hl ha)
  · intro dev hm
    obtain ⟨j, hst, hc⟩ := hso.started dev hm
    exact ⟨j, hst.alike hal, hc⟩
  · intro j hl ht
    have ha := hu j hl
    rw [attempts_setPoint, if_neg ha] at ht
    exact hso.called j (live_setPoint hl ha) ht

theorem Sound.advance (hso : h.Sound) (k : Nat) (forwarded returns : Bool) :
    (h.advance k forwarded returns).Sound := by
  -- An attempt that may not start was invalidated: while it is live it is current and the Host is
  -- attached.
  have idle : ¬ h.shouldStart k → ¬ h.Live k := by
    intro hr hl
    have hc := hso.live k hl
    exact hr ⟨(hso.starting _ k hc).1.attached, hc⟩
  unfold WatcherHost.advance
  cases hh : (h.attempts k).point with
  | queued =>
    have hb : (h.attempts k).point ≠ .settled := by rw [hh]; nofun
    dsimp only
    split
    next hr => exact hso.setPoint .returned hb nofun fun _ hl => absurd hl (idle hr)
    · split
      · exact hso.setPoint .forwarding hb nofun nofun
      · exact hso.callStart returns hb
  | forwarding =>
    have hb : (h.attempts k).point ≠ .settled := by rw [hh]; nofun
    dsimp only
    split
    · exact hso.setPoint .leaving hb nofun nofun
    · split
      next hr => exact hso.setPoint .returned hb nofun fun _ hl => absurd hl (idle hr)
      · exact hso.callStart returns hb
  | returned =>
    have hb : (h.attempts k).point ≠ .settled := by rw [hh]; nofun
    dsimp only
    split
    next hc => exact (hso.mark hc hh).setPoint .leaving hb nofun nofun
    · exact hso.setPoint .leaving hb nofun nofun
  | leaving =>
    dsimp only
    split
    next hc =>
      apply hso.settle
      · intro dev hf
        rw [OrderedMap.get?_delete] at hf
        split at hf
        · cases hf
        next ha => exact ha (hso.starting dev k hf).1.own.symm
      · intro dev j ha
        rw [OrderedMap.get?_delete]
        split
        next hs =>
          subst hs
          rw [hc]
          simp [ha.symm]
        · rfl
    next hst =>
      refine hso.settle ?_ fun _ _ _ => Iff.rfl
      intro dev hf
      apply hst
      unfold isCurrentAttempt
      rwa [(hso.starting dev k hf).1.own]
  | settled => exact hso

/- Invalidation -/

theorem Sound.of_unmarked (hu : h.Unmarked) (none : ∀ k, ¬ h.Live k) : h.Sound where
  starting := fun dev k hf => by rw [hu.2] at hf; cases hf
  live := fun k live => absurd live (none k)
  started := fun dev hm => by rw [hu.1] at hm; cases hm
  called := fun k live => absurd live (none k)

theorem unmarked_clearAll : h.clearAllClientWatcherStartState.Unmarked := ⟨rfl, fun _ => rfl⟩

theorem clearAll_sound : h.clearAllClientWatcherStartState.Sound :=
  .of_unmarked unmarked_clearAll fun _ hl => absurd hl.2.1 nofun

theorem Sound.unattached (hso : h.Sound) (hu : h.legacyOwnershipAttached = false) :
    h.Unmarked ∧ ∀ k, ¬ h.Live k := by
  have hr : ∀ dev k, ¬ h.Stands dev k := by
    intro dev k hs
    rw [hs.attached] at hu
    cases hu
  refine ⟨⟨?_, fun dev => ?_⟩, fun k hl => ?_⟩
  · rw [eq_nil_iff_forall_not_mem]
    intro dev hm
    obtain ⟨k, hs, -⟩ := hso.started dev hm
    exact hr dev k hs
  · rw [Option.eq_none_iff_forall_not_mem]
    intro k hf
    exact hr dev k (hso.starting dev k hf).1
  · exact hr _ k (hso.starting _ k (hso.live k hl)).1

section Clear
variable {devs : OrderedMap String DeviceRef}

theorem attempts_clear (ha : (h.attempts j).deviceId ≠ dev) :
    (clearClientWatcherStartState { h with devices := devs } dev).attempts j = h.attempts j :=
  if_neg ha

theorem deviceId_clear (j : Nat) :
    ((clearClientWatcherStartState { h with devices := devs } dev).attempts j).deviceId =
      (h.attempts j).deviceId := by
  unfold clearClientWatcherStartState
  dsimp only
  split <;> rfl

theorem live_clear (hl : (clearClientWatcherStartState { h with devices := devs } dev).Live j) :
    (h.attempts j).deviceId ≠ dev ∧ h.Live j := by
  obtain ⟨hm, hv, hp⟩ := hl
  have apart : (h.attempts j).deviceId ≠ dev := by
    intro hs
    unfold clearClientWatcherStartState at hv
    dsimp only at hv
    rw [if_pos hs] at hv
    cases hv
  rw [attempts_clear apart] at hv hp
  exact ⟨apart, hm, hv, hp⟩

theorem Stands.clear (hs : h.Stands sn k) (ha : sn ≠ dev)
    (hsa : devs.get? sn = h.devices.get? sn) :
    (clearClientWatcherStartState { h with devices := devs } dev).Stands sn k := by
  have kept : (clearClientWatcherStartState { h with devices := devs } dev).attempts k =
      h.attempts k := attempts_clear (by rwa [hs.own])
  constructor
  · exact hs.made
  · rw [kept, hs.own]
  · rw [kept, hs.valid]
  · exact hs.attached
  · rw [kept, ← hs.registered]
    exact hsa
  · intro j hm own
    exact hs.newest j hm ((deviceId_clear j).symm.trans own)

theorem Sound.clear (hs : h.Sound) (deviceId : String)
    (ho : ∀ sn, sn ≠ deviceId → devs.get? sn = h.devices.get? sn) :
    (clearClientWatcherStartState { h with devices := devs } deviceId).Sound := by
  constructor
  · intro sn k hf
    have hf : (h.clientWatcherStartingByDeviceId.delete deviceId).get? sn = some k := hf
    rw [get?_delete] at hf
    split at hf
    · cases hf
    next ha =>
      obtain ⟨hh, hp⟩ := hs.starting sn k hf
      refine ⟨hh.clear ha (ho sn ha), ?_⟩
      rwa [attempts_clear (by rwa [hh.own])]
  · intro j hal
    obtain ⟨ha, hal⟩ := live_clear hal
    unfold isCurrentAttempt
    rw [attempts_clear ha]
    exact (get?_delete.trans (if_neg ha)).trans (hs.live j hal)
  · intro sn hm
    obtain ⟨hm, ha⟩ := mem_filter.mp hm
    have ha : sn ≠ deviceId := by simpa using ha
    obtain ⟨k, hh, hc⟩ := hs.started sn hm
    exact ⟨k, hh.clear ha (ho sn ha), hc⟩
  · intro j hal ht
    obtain ⟨ha, hal⟩ := live_clear hal
    rw [attempts_clear ha] at ht
    exact hs.called j hal ht

end Clear

/- Devices and new attempts -/

theorem Sound.register (hso : h.Sound) (serial : String) (android : Bool)
    (hf : h.devices.get? serial = none) :
    Sound { h with
      devices := h.devices.set serial ⟨h.nextDevice, android⟩
      nextDevice := h.nextDevice + 1 } := by
  have hs : ∀ dev k, h.Stands dev k → Stands { h with
      devices := h.devices.set serial ⟨h.nextDevice, android⟩
      nextDevice := h.nextDevice + 1 } dev k := by
    intro dev k hs
    have apart : dev ≠ serial := by
      rintro rfl
      rw [hs.registered] at hf
      cases hf
    refine ⟨hs.made, hs.own, hs.valid, hs.attached, ?_, hs.newest⟩
    exact (get?_set.trans (if_neg apart)).trans hs.registered
  exact hso.carry hs rfl rfl rfl (List.Subset.refl _) fun _ hm => .inl hm

def attempted (h : WatcherHost) (deviceId : String) (device : DeviceRef) : WatcherHost :=
  { h with
    attempts := Function.update h.attempts h.nextAttempt ⟨deviceId, device, .queued, false⟩
    nextAttempt := h.nextAttempt + 1
    clientWatcherStartingByDeviceId := h.clientWatcherStartingByDeviceId.set deviceId h.nextAttempt }

theorem ensureWatcher_cases (h : WatcherHost) (dev : String) :
    h.ensureClientWatcher dev = h ∨ ∃ device, h.devices.get? dev = some device ∧
      h.legacyOwnershipAttached = true ∧ dev ∉ h.clientWatcherStartedDeviceIds ∧
      h.clientWatcherStartingByDeviceId.get? dev = none ∧
      h.ensureClientWatcher dev = h.attempted dev device := by
  unfold ensureClientWatcher
  split
  · exact .inl rfl
  next device hr =>
    split
    · exact .inl rfl
    next hat =>
      split
      · exact .inl rfl
      next hu =>
        split
        · exact .inl rfl
        next ha =>
          rw [Bool.not_eq_true, has_eq_false] at ha
          exact .inr ⟨device, hr, by simpa using hat, hu, ha, rfl⟩

theorem attempts_attempted (dv : DeviceRef) (hm : j < h.nextAttempt) :
    (h.attempted dev dv).attempts j = h.attempts j :=
  Function.update_of_ne (Nat.ne_of_lt hm) _ _

theorem attempts_attempted_new (dv : DeviceRef) :
    (h.attempted dev dv).attempts h.nextAttempt = ⟨dev, dv, .queued, false⟩ :=
  Function.update_self _ _ _

theorem Stands.attempted (hst : h.Stands sn k) (ha : sn ≠ dev)
    (dv : DeviceRef) : (h.attempted dev dv).Stands sn k := by
  have same : (h.attempted dev dv).attempts k = h.attempts k := attempts_attempted dv hst.made
  refine ⟨Nat.lt_succ_of_lt hst.made, ?_, ?_, hst.attached, ?_, ?_⟩
  · rw [same, hst.own]
  · rw [same, hst.valid]
  · rw [same]
    exact hst.registered
  · intro j hm own
    rcases Nat.lt_succ_iff_lt_or_eq.mp hm with old | rfl
    · rw [attempts_attempted dv old] at own
      exact hst.newest j old own
    · rw [attempts_attempted_new] at own
      exact absurd own.symm ha

theorem stands_attempted_new (hr : h.devices.get? dev = some dv)
    (ha : h.legacyOwnershipAttached = true) :
    (h.attempted dev dv).Stands dev h.nextAttempt := by
  refine ⟨Nat.lt_succ_self _, ?_, ?_, ha, ?_, fun j hm _ => Nat.le_of_lt_succ hm⟩
  · rw [attempts_attempted_new]
  · rw [attempts_attempted_new]
  · rw [attempts_attempted_new]
    exact hr

theorem live_attempted (hl : (h.attempted dev dv).Live j) :
    j = h.nextAttempt ∨ j < h.nextAttempt ∧ h.Live j := by
  obtain ⟨hm, hv, hp⟩ := hl
  rcases Nat.lt_succ_iff_lt_or_eq.mp hm with old | rfl
  · rw [attempts_attempted dv old] at hv hp
    exact .inr ⟨old, old, hv, hp⟩
  · exact .inl rfl

theorem Sound.attempted (hso : h.Sound) (hr : h.devices.get? dev = some dv)
    (hat : h.legacyOwnershipAttached = true) (hu : dev ∉ h.clientWatcherStartedDeviceIds)
    (hab : h.clientWatcherStartingByDeviceId.get? dev = none) :
    (h.attempted dev dv).Sound := by
  constructor
  · intro sn k hf
    have hf : (h.clientWatcherStartingByDeviceId.set dev h.nextAttempt).get? sn = some k := hf
    rw [get?_set] at hf
    split at hf
    next hs =>
      cases hf
      subst hs
      refine ⟨stands_attempted_new hr hat, ?_⟩
      rw [attempts_attempted_new]
      simp
    next apart =>
      obtain ⟨hh, hp⟩ := hso.starting sn k hf
      refine ⟨hh.attempted apart dv, ?_⟩
      rwa [attempts_attempted dv hh.made]
  · intro j ha
    rcases live_attempted ha with rfl | ⟨old, ha⟩
    · unfold isCurrentAttempt
      rw [attempts_attempted_new]
      exact get?_set.trans (if_pos rfl)
    · have hc := hso.live j ha
      have apart : (h.attempts j).deviceId ≠ dev := by
        intro hs
        unfold isCurrentAttempt at hc
        rw [hs, hab] at hc
        cases hc
      unfold isCurrentAttempt
      rw [attempts_attempted dv old]
      exact (get?_set.trans (if_neg apart)).trans hc
  · intro sn hm
    have apart : sn ≠ dev := fun hs => hu (hs ▸ hm)
    obtain ⟨k, hh, hca⟩ := hso.started sn hm
    exact ⟨k, hh.attempted apart dv, hca⟩
  · intro j ha ht
    rcases live_attempted ha with rfl | ⟨old, ha⟩
    · rw [attempts_attempted_new] at ht
      cases ht
    · rw [attempts_attempted dv old] at ht
      exact hso.called j ha ht

theorem Sound.ensureClientWatcher (hso : h.Sound) (dev : String) :
    (h.ensureClientWatcher dev).Sound := by
  rcases ensureWatcher_cases h dev with hs | ⟨device, hr, hat, hu, ha, hm⟩
  · rwa [hs]
  · rw [hm]
    exact hso.attempted hr hat hu ha

theorem Sound.registerDevice (hs : h.Sound) (sn : String) (android manualConnect : Bool) :
    (h.registerDevice sn android manualConnect).Sound := by
  unfold WatcherHost.registerDevice
  split
  · exact hs
  next hf =>
    rw [Bool.not_eq_true, OrderedMap.has_eq_false] at hf
    have known := hs.register sn android hf
    dsimp only
    split
    · exact known.ensureClientWatcher sn
    · exact known

theorem Sound.unregisterDevice (hs : h.Sound) (sn : String) : (h.unregisterDevice sn).Sound := by
  unfold WatcherHost.unregisterDevice
  split
  · exact hs
  · dsimp only
    split
    · apply hs.clear sn
      intro o ha
      rw [OrderedMap.get?_delete, if_neg ha]
    next hu =>
      -- Nothing is marked and no attempt is live, so that the device may go as it is.
      obtain ⟨hun, none⟩ := hs.unattached (by simpa using hu)
      exact .of_unmarked hun none

theorem Sound.step (hso : h.Sound) (act : WatcherAct) : (h.step act).Sound := by
  cases act with
  | ensureClientWatcher dev => exact hso.ensureClientWatcher dev
  | advance k forwarded returns => exact hso.advance k forwarded returns
  | stopWatchClient dev | disconnectDevice dev => exact hso.clear dev fun _ _ => rfl
  | registerDevice sn android manualConnect => exact hso.registerDevice sn android manualConnect
  | unregisterDevice sn => exact hso.unregisterDevice sn
  | ownershipLost =>
    simp only [WatcherHost.step, WatcherHost.ownershipLost]
    split
    · exact clearAll_sound
    · exact hso
  | ownershipAttached =>
    cases ha : h.legacyOwnershipAttached with
    | true =>
      have same : { h with legacyOwnershipAttached := true } = h := by rw [← ha]
      simp only [WatcherHost.step, same]
      exact hso
    | false =>
      obtain ⟨hu, none⟩ := hso.unattached ha
      exact .of_unmarked hu none
  | forceDisableAllClients =>
    have hs : ∀ dev k, h.Stands dev k → h.forceDisableAllClients.Stands dev k :=
      fun _ _ hh => hh.alike ⟨rfl, rfl, rfl, fun _ => rfl⟩
    constructor
    · intro dev k hf
      obtain ⟨hh, hp⟩ := hso.starting dev k hf
      exact ⟨hs dev k hh, hp⟩
    · exact hso.live
    · intro dev hm
      obtain ⟨k, hh, hc⟩ := hso.started dev hm
      exact ⟨k, hs dev k hh, hc⟩
    · exact hso.called
  | resumeDisabling i =>
    simp only [WatcherHost.step, WatcherHost.resumeDisabling]
    split
    · exact hso
    · split
      · exact clearAll_sound
      · exact hso
  | clearRuntimeState => exact clearAll_sound

/- What a step calls and marks -/

theorem calls_ensureWatcher (h : WatcherHost) (dev : String) :
    (h.ensureClientWatcher dev).calls = h.calls := by
  rcases ensureWatcher_cases h dev with hs | ⟨device, -, -, -, -, hm⟩
  · rw [hs]
  · rw [hm]
    rfl

theorem calls_advance (h : WatcherHost) (k : Nat) (forwarded returns : Bool) :
    (h.advance k forwarded returns).calls = h.calls ∨
      h.shouldStart k ∧ (h.advance k forwarded returns).calls = h.calls ++ [(k, returns)] := by
  unfold advance
  cases (h.attempts k).point with
  | queued =>
    dsimp only
    split
    · exact .inl rfl
    next ha =>
      split
      · exact .inl rfl
      · exact .inr ⟨not_not.mp ha, rfl⟩
  | forwarding =>
    dsimp only
    split
    · exact .inl rfl
    · split
      · exact .inl rfl
      next ha => exact .inr ⟨not_not.mp ha, rfl⟩
  | returned | leaving =>
    dsimp only
    split <;> exact .inl rfl
  | settled => exact .inl rfl

theorem calls_step (h : WatcherHost) (act : WatcherAct) : (h.step act).calls = h.calls ∨
      ∃ k returns, h.shouldStart k ∧ (h.step act).calls = h.calls ++ [(k, returns)] := by
  cases act with
  | ensureClientWatcher dev => exact .inl (calls_ensureWatcher h dev)
  | advance k forwarded returns =>
    rcases calls_advance h k forwarded returns with hs | ⟨ha, hm⟩
    · exact .inl hs
    · exact .inr ⟨k, returns, ha, hm⟩
  | registerDevice sn android manualConnect =>
    left
    simp only [step, registerDevice]
    split
    · rfl
    · split
      · exact calls_ensureWatcher _ sn
      · rfl
  | unregisterDevice sn =>
    left
    simp only [step, unregisterDevice]
    split
    · rfl
    · split <;> rfl
  | ownershipLost =>
    left
    simp only [step, ownershipLost]
    split <;> rfl
  | resumeDisabling i =>
    left
    simp only [step, resumeDisabling]
    split
    · rfl
    · split <;> rfl
  | _ => exact .inl rfl

theorem Sound.callsInTime (hso : h.Sound) (act : WatcherAct) : h.CallsInTime act := by
  rcases calls_step h act with hs | ⟨k, returns, ha, hm⟩
  · exact ⟨[], hs.trans (append_nil _).symm, nofun⟩
  · refine ⟨[(k, returns)], hm, ?_⟩
    intro c hi
    cases mem_singleton.mp hi
    exact (hso.starting _ k ha.2).1.valid

theorem Unmarked.ensureClientWatcher (hun : h.Unmarked)
    (hs : (h.ensureClientWatcher dev).nextAttempt = h.nextAttempt) :
    (h.ensureClientWatcher dev).Unmarked := by
  rcases ensureWatcher_cases h dev with hu | ⟨device, -, -, -, -, hm⟩
  · rwa [hu]
  · rw [hm] at hs
    have more : h.nextAttempt + 1 = h.nextAttempt := hs
    omega

theorem Unmarked.clear (hu : h.Unmarked) (dev : String) :
    (h.clearClientWatcherStartState dev).Unmarked := by
  constructor
  · simp only [clearClientWatcherStartState, hu.1, filter_nil]
  · intro sn
    simp only [clearClientWatcherStartState, get?_delete, hu.2, ite_self]

theorem Unmarked.advance (hu : h.Unmarked) (k : Nat) (forwarded returns : Bool) :
    (h.advance k forwarded returns).Unmarked := by
  have hs : ∀ k, ¬ h.isCurrentAttempt k := by
    intro k hc
    unfold isCurrentAttempt at hc
    rw [hu.2] at hc
    cases hc
  have hr : ¬ h.shouldStart k := fun ha => hs k ha.2
  unfold WatcherHost.advance
  cases (h.attempts k).point with
  | queued =>
    dsimp only
    rw [if_pos hr]
    exact hu
  | forwarding =>
    dsimp only
    rw [if_pos hr]
    split <;> exact hu
  | returned | leaving =>
    dsimp only
    rw [if_neg (hs k)]
    exact hu
  | settled => exact hu

theorem Unmarked.step (hu : h.Unmarked) (act : WatcherAct)
    (hs : (h.step act).nextAttempt = h.nextAttempt) : (h.step act).Unmarked := by
  cases act with
  | ensureClientWatcher dev => exact hu.ensureClientWatcher hs
  | advance k forwarded returns => exact hu.advance k forwarded returns
  | stopWatchClient dev | disconnectDevice dev => exact hu.clear dev
  | registerDevice sn android manualConnect =>
    simp only [WatcherHost.step, registerDevice] at hs ⊢
    split
    · exact hu
    next hf =>
      rw [if_neg hf] at hs
      split
      next hw =>
        rw [if_pos hw] at hs
        exact Unmarked.ensureClientWatcher hu hs
      · exact hu
  | unregisterDevice sn =>
    simp only [WatcherHost.step, unregisterDevice]
    split
    · exact hu
    · split
      · exact Unmarked.clear hu sn
      · exact hu
  | ownershipLost =>
    simp only [WatcherHost.step, ownershipLost]
    split
    · exact unmarked_clearAll
    · exact hu
  | ownershipAttached | forceDisableAllClients => exact hu
  | resumeDisabling i =>
    simp only [WatcherHost.step, resumeDisabling]
    split
    · exact hu
    · split
      · exact unmarked_clearAll
      · exact hu
  | clearRuntimeState => exact unmarked_clearAll

theorem disables (h : WatcherHost) (act : WatcherAct) : h.Disables act where
  ended := by
    rintro i found rfl hw hse
    simp only [step, resumeDisabling, hw, if_pos hse]
    exact unmarked_clearAll
  stays := fun hu hs => hu.step act hs

/-- The watchers of the Host over every run: one attempt a device, called and marked only while it
is valid, and no mark after `forceDisableAllClients`. -/
theorem watchers_start_once (acts : List WatcherAct) :
    Throughout step Watches initial acts ∧
      Along step (fun h act => h.CallsInTime act ∧ h.Disables act) initial acts := by
  have kept : ∀ (h : WatcherHost) (act : WatcherAct), h.Sound → (h.step act).Sound :=
    fun _ act hs => hs.step act
  constructor
  · exact throughout_mono (fun _ hs => Sound.watches hs)
      (throughout_of_invariant kept initial_sound acts)
  · apply along_of_invariant kept _ initial_sound acts
    intro h act hs
    exact ⟨hs.callsInTime act, disables h act⟩

end WatcherHost

end DebugRouter.Daemon
