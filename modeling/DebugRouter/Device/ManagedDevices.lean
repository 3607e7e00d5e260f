import DebugRouter.Library.OrderedMap
import DebugRouter.Library.Runs

/-!
The device managers that share the devices of one `PhysicalConnector`. Each keeps the devices it has
registered by serial, and unregisters what is still registered under the serial only if it is the
same object: another may have come there since `unregisterDevice` was called for the serial.
-/
namespace DebugRouter.Device

open Library List OrderedMap Function

/-- A device object. A manager registers devices that it has made. -/
structure DeviceObject where
  maker : Nat
  number : Nat
  serial : String
  deriving DecidableEq

structure SharedDevices where
  devices : OrderedMap String DeviceObject := .empty
  managedDevices : Nat → OrderedMap String DeviceObject := fun _ => .empty
  closed : Nat → Bool := fun _ => false

inductive ManagerAct where
  /-- `closes` are the managers that listeners of `device-connected` close. -/
  | register (m number : Nat) (serial : String) (closes : List Nat)
  | unregister (m : Nat) (serial : String)
  | trackerFailed (m : Nat)
  | close (m : Nat)
  | unregisterDevice (serial : String)

def ManagerAct.managers : ManagerAct → List Nat
  | .register m _ _ closes => m :: closes
  | .unregister m _ | .trackerFailed m | .close m => [m]
  | .unregisterDevice _ => []

def ManagerAct.serials : ManagerAct → List String
  | .unregisterDevice serial => [serial]
  | .register .. | .unregister .. | .trackerFailed _ | .close _ => []

namespace SharedDevices
variable (s : SharedDevices) (m : Nat)

def unregisterManagedDevice (serial : String) : SharedDevices :=
  let device := (s.managedDevices m).get? serial
  { s with
    managedDevices := update s.managedDevices m ((s.managedDevices m).delete serial)
    devices :=
      if device.isSome ∧ s.devices.get? serial = device then s.devices.delete serial else s.devices }

def unregisterManagedDevices : SharedDevices :=
  (s.managedDevices m).keys.foldl (unregisterManagedDevice · m) s

def close : SharedDevices :=
  if s.closed m then s
  else { s with closed := update s.closed m true }.unregisterManagedDevices m

/-- The listeners come last, so what they do follows the registration. -/
def registerDevice (device : DeviceObject) (closes : List Nat) : SharedDevices :=
  if s.devices.has device.serial then s
  else closes.foldl close { s with devices := s.devices.set device.serial device }

def tracking (device : DeviceObject) : Nat → OrderedMap String DeviceObject :=
  update s.managedDevices m ((s.managedDevices m).set device.serial device)

def registerManagedDevice (device : DeviceObject) (closes : List Nat) : SharedDevices :=
  if s.closed m then s
  else if (s.devices.get? device.serial).any (· ≠ device) then s
  else { s with managedDevices := s.tracking m device }.registerDevice device closes

def step : ManagerAct → SharedDevices
  | .register m number serial closes => s.registerManagedDevice m ⟨m, number, serial⟩ closes
  | .unregister m serial => s.unregisterManagedDevice m serial
  | .trackerFailed m => s.unregisterManagedDevices m
  | .close m => s.close m
  | .unregisterDevice serial => { s with devices := s.devices.delete serial }

/-- A registered device is tracked by its maker; a manager tracks its own devices, and none once it
is closed. -/
structure Owned : Prop where
  tracked : ∀ serial d, s.devices.get? serial = some d →
    (s.managedDevices d.maker).get? serial = some d
  own : ∀ m serial d, (s.managedDevices m).get? serial = some d → d.maker = m
  released : ∀ m, s.closed m = true → ∀ serial, (s.managedDevices m).get? serial = none

/-- Devices of other managers and under other serials stay registered, and who is closed stays so. -/
structure Spares (among : List Nat) (named : List String) (s t : SharedDevices) : Prop where
  owned : t.Owned
  kept : ∀ serial d, s.devices.get? serial = some d → d.maker ∉ among → serial ∉ named →
    t.devices.get? serial = some d
  closed : ∀ m, s.closed m = true → t.closed m = true

variable {s m} {t u : SharedDevices} {among : List Nat} {named : List String}

theorem Owned.spares (h : s.Owned) : Spares among named s s :=
  ⟨h, fun _ _ found _ _ => found, fun _ done => done⟩

theorem Spares.trans (x : Spares among named s t) (hs : Spares among named t u) :
    Spares among named s u where
  owned := hs.owned
  kept := fun sn d found other apart => hs.kept sn d (x.kept sn d found other apart) other apart
  closed := fun m done => hs.closed m (x.closed m done)

theorem spares_foldl {A : Type} {act : SharedDevices → A → SharedDevices} {l : List A}
    (he : ∀ s, s.Owned → ∀ a ∈ l, Spares among named s (act s a)) (ho : s.Owned) :
    Spares among named s (l.foldl act s) := by
  induction l generalizing s with
  | nil => exact ho.spares
  | cons a l ih =>
    have first := he s ho a mem_cons_self
    exact first.trans (ih (fun s ho b hl => he s ho b (mem_cons_of_mem a hl)) first.owned)

variable (sn : String)

theorem managedDevices_unregister (m' : Nat) (k : String) :
    ((s.unregisterManagedDevice m sn).managedDevices m').get? k =
      if m' = m ∧ k = sn then none else (s.managedDevices m').get? k := by
  simp only [unregisterManagedDevice, update_apply]
  by_cases hs : m' = m
  · subst hs
    simp
  · simp [hs]

theorem devices_unregister (sn k : String) (d : DeviceObject) :
    (s.unregisterManagedDevice m sn).devices.get? k = some d ↔
      s.devices.get? k = some d ∧ ¬ (k = sn ∧ (s.managedDevices m).get? sn = some d) := by
  simp only [unregisterManagedDevice]
  split
  next hf =>
    rw [get?_delete]
    split
    next hs =>
      subst hs
      simp [← hf.2]
    next ho => simp [ho]
  next hk =>
    refine (and_iff_left_of_imp ?_).symm
    rintro hf ⟨rfl, hm⟩
    exact hk ⟨by simp [hm], by rw [hf, hm]⟩

theorem Owned.unregister (owned : s.Owned) (sn : String) :
    Spares [m] [] s (s.unregisterManagedDevice m sn) where
  owned := by
    constructor
    · intro k d hf
      rw [devices_unregister] at hf
      rw [managedDevices_unregister, if_neg]
      · exact owned.tracked k d hf.1
      · rintro ⟨rfl, rfl⟩
        exact hf.2 ⟨rfl, owned.tracked k d hf.1⟩
    · intro m' k d hf
      rw [managedDevices_unregister] at hf
      split at hf
      · cases hf
      · exact owned.own m' k d hf
    · intro m' done k
      rw [managedDevices_unregister]
      split
      · rfl
      · exact owned.released m' done k
  kept := by
    intro k d hf ho _
    rw [devices_unregister]
    refine ⟨hf, ?_⟩
    rintro ⟨rfl, hm⟩
    exact ho (by simp [owned.own m k d hm])
  closed := fun _ done => done

theorem Owned.unregisterAll (h : s.Owned) : Spares [m] [] s (s.unregisterManagedDevices m) :=
  spares_foldl (fun _ h sn _ => h.unregister sn) h

theorem managedDevices_unregisterAll :
    ((s.unregisterManagedDevices m).managedDevices m).get? sn = none := by
  have he : ∀ (keys : List String) (s : SharedDevices),
      (keys.foldl (unregisterManagedDevice · m) s).managedDevices m =
        keys.foldl delete (s.managedDevices m) := by
    intro keys
    induction keys with
    | nil => exact fun _ => rfl
    | cons k keys ih =>
      intro s
      rw [foldl_cons, ih, foldl_cons]
      simp [unregisterManagedDevice]
  rw [unregisterManagedDevices, he, foldl_delete_keys, get?_empty]

theorem unregisterAll_closed (c : Nat → Bool) :
    { s with closed := c }.unregisterManagedDevices m =
      { s.unregisterManagedDevices m with closed := c } := by
  have he : ∀ (keys : List String) (s : SharedDevices),
      keys.foldl (unregisterManagedDevice · m) { s with closed := c } =
        { keys.foldl (unregisterManagedDevice · m) s with closed := c } := by
    intro keys
    induction keys with
    | nil => exact fun _ => rfl
    | cons k keys ih => exact fun s => ih (s.unregisterManagedDevice m k)
  exact he _ s

theorem Owned.close (h : s.Owned) : Spares [m] [] s (s.close m) := by
  unfold SharedDevices.close
  split
  · exact h.spares
  · rw [unregisterAll_closed]
    have hs : Spares [m] [] s (s.unregisterManagedDevices m) := h.unregisterAll
    refine ⟨⟨hs.owned.tracked, hs.owned.own, fun m' done sn => ?_⟩, hs.kept, fun m' done => ?_⟩
    · simp only [update_apply] at done
      split at done
      next hsa =>
        subst hsa
        exact managedDevices_unregisterAll sn
      · exact hs.owned.released m' (hs.closed m' done) sn
    · simp only [update_apply]
      split
      · rfl
      · exact done

theorem closed_close : (s.close m).closed m = true := by
  unfold SharedDevices.close
  split
  · assumption
  · rw [unregisterAll_closed]
    exact update_self ..

theorem close_close : (s.close m).close m = s.close m := by
  rw [SharedDevices.close.eq_def (s.close m), if_pos closed_close]

theorem Spares.mono {more : List Nat} (hs : Spares among named s t) (hw : ∀ m ∈ among, m ∈ more) :
    Spares more named s t :=
  ⟨hs.owned, fun sn d found other => hs.kept sn d found fun hm => other (hw _ hm), hs.closed⟩

theorem Owned.track (ho : s.Owned) {dv : DeviceObject} {devs : OrderedMap String DeviceObject}
    (ha : s.closed dv.maker = false)
    (hf : ∀ k d, devs.get? k = some d →
      if k = dv.serial then d = dv else s.devices.get? k = some d) :
    Owned ⟨devs, s.tracking dv.maker dv, s.closed⟩ := by
  constructor
  · intro k d hr
    have hh := hf k d hr
    simp only [tracking, update_apply]
    split at hh
    next hs => simp [hs, hh]
    next hot =>
      split
      next hm =>
        rw [get?_set, if_neg hot, ← hm]
        exact ho.tracked k d hh
      · exact ho.tracked k d hh
  · intro m k d ht
    simp only [tracking, update_apply] at ht
    split at ht
    next hm =>
      rw [get?_set] at ht
      split at ht
      · cases ht
        exact hm.symm
      · exact hm ▸ ho.own _ k d ht
    · exact ho.own m k d ht
  · intro m done k
    have hot : m ≠ dv.maker := by
      rintro rfl
      simp [ha] at done
    simp only [tracking, update_apply, if_neg hot]
    exact ho.released m done k

theorem Owned.register (h : s.Owned) (device : DeviceObject) (closes : List Nat) :
    Spares (device.maker :: closes) [] s (s.registerManagedDevice device.maker device closes) := by
  unfold registerManagedDevice
  split
  · exact h.spares
  rename_i ha
  split
  · exact h.spares
  rename_i hu
  have he : ∀ d, s.devices.get? device.serial = some d → d = device := by
    intro d hf
    simpa [hf] using hu
  unfold registerDevice
  split
  · refine ⟨h.track (by simpa using ha) fun k d hf => ?_, fun _ _ found _ _ => found,
      fun _ done => done⟩
    split
    next hs => exact he d (hs ▸ hf)
    · exact hf
  next hm =>
    have hr : Spares (device.maker :: closes) [] s
        ⟨s.devices.set device.serial device, s.tracking device.maker device, s.closed⟩ := by
      refine ⟨h.track (by simpa using ha) fun k d hf => ?_, fun k d hf _ _ => ?_, fun _ done => done⟩
      · rw [get?_set] at hf
        split at hf
        · rw [if_pos ‹_›]
          cases hf
          rfl
        · rwa [if_neg ‹_›]
      · rw [get?_set, if_neg]
        · exact hf
        · rintro rfl
          exact hm (has_iff.mpr ⟨d, hf⟩)
    refine hr.trans (spares_foldl (fun s h a ham => ?_) hr.owned)
    exact h.close.mono fun _ hs => mem_cons_of_mem _ (mem_singleton.mp hs ▸ ham)

theorem Owned.unregisterDevice (h : s.Owned) (named : String) :
    Spares [] [named] s { s with devices := s.devices.delete named } where
  owned := by
    refine ⟨fun serial d found => h.tracked serial d ?_, h.own, h.released⟩
    rw [get?_delete] at found
    split at found
    · cases found
    · exact found
  kept := fun serial d found _ apart => by
    rw [get?_delete, if_neg (by simpa using apart)]
    exact found
  closed := fun _ done => done

theorem Owned.step (h : s.Owned) (act : ManagerAct) :
    Spares act.managers act.serials s (s.step act) := by
  cases act with
  | register m number sn closes => exact h.register ⟨m, number, sn⟩ closes
  | unregister m sn => exact h.unregister sn
  | trackerFailed m => exact h.unregisterAll
  | close m => exact h.close
  | unregisterDevice named => exact h.unregisterDevice named

/-- A manager that is closed has no device in the registry, over every run; no act takes a device out
of the registry but one of a manager that takes part in it or one whose serial it unregisters; and
closing is for good and idempotent. -/
theorem managers_own_devices (acts : List ManagerAct) :
    Throughout step (fun s => ∀ m, s.closed m = true →
      ∀ serial d, s.devices.get? serial = some d → d.maker ≠ m) {} acts ∧
    Along step (fun s act =>
      (∀ serial d, s.devices.get? serial = some d → d.maker ∉ act.managers → serial ∉ act.serials →
        (s.step act).devices.get? serial = some d) ∧
      (∀ m, s.closed m = true → (s.step act).closed m = true) ∧
      ∀ m, (s.close m).closed m = true ∧ (s.close m).close m = s.close m) {} acts := by
  have start : Owned {} := ⟨nofun, nofun, nofun⟩
  have kept : ∀ s act, Owned s → Owned (step s act) := fun s act owned => (owned.step act).owned
  constructor
  · refine throughout_mono (fun s owned m done serial d found made => ?_)
      (throughout_of_invariant kept start acts)
    have tracked := owned.tracked serial d found
    rw [made, owned.released m done] at tracked
    cases tracked
  · refine along_of_invariant kept (fun s act owned => ?_) start acts
    have spares := owned.step act
    exact ⟨spares.kept, spares.closed, fun m => ⟨closed_close, close_close⟩⟩

end SharedDevices

end DebugRouter.Device
