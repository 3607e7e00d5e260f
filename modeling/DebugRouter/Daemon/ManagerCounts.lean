import DebugRouter.Daemon.Managers

/-!
The device managers are counted by control. `Demand` says what the controls ask for, without a
table: who is connected and who wants which manager. The Host follows it, and asks
`PhysicalConnector` for a manager when the first control wants it and closes it when the last one
leaves.
-/
namespace DebugRouter.Daemon

open Library List DeviceManager PhysicalRequest

/- What the controls ask for -/

structure Demand where
  next : Nat
  connected : Set Nat
  auto : Set Nat
  wants : Set (Nat × ManagerKey)

def ConnectorFacadeOption.managers (option : ConnectorFacadeOption) : List DeviceManager :=
  (if option.enableAndroid then [.android option.adbHostPort] else []) ++
  (if option.enableHarmony then [.harmony option.hdcHostPort] else []) ++
  (if option.enableIOS then [.ios] else []) ++
  (if option.enableDesktop then [.desktop] else []) ++
  (if option.enableNetworkDevice then (option.networkDeviceOpt.map .network).toList else [])

namespace Demand

def initial : Demand := ⟨1, ∅, ∅, ∅⟩

def step (d : Demand) : ControlAct → Demand
  | .connect _ option =>
    { next := d.next + 1
      connected := {id | id ∈ d.connected ∨ id = d.next}
      auto := {id | id ∈ d.auto ∨ (id = d.next ∧ (option.getD .standard).manualConnect = false)}
      wants := {p | p ∈ d.wants ∨ (p.1 = d.next ∧ p.2 ∈ (option.getD .standard).managers.map key)} }
  | .watchNetworkDeviceAtIp controlId option =>
    { d with wants := {p | p ∈ d.wants ∨
      (controlId ∈ d.connected ∧ p = (controlId, (network option).key))} }
  | .disconnect controlId =>
    { d with
      connected := {id | id ∈ d.connected ∧ id ≠ controlId}
      auto := {id | id ∈ d.auto ∧ id ≠ controlId}
      wants := {p | p ∈ d.wants ∧ p.1 ≠ controlId} }
  | .connectDevices _ | .startWSServer _ | .startWSServerFailed _ => d

end Demand

def Demand.Wanted (d : Demand) (key : ManagerKey) : Prop := ∃ id, (id, key) ∈ d.wants

def DeviceManager.closing : DeviceManager → CloseRequest
  | .android options => .android (HostPort.hostOf options) (HostPort.adbPort options)
  | .harmony options => .harmony (HostPort.hostOf options) (HostPort.hdcPort options)
  | .ios => .ios
  | .desktop => .desktop
  | .network options => .network options.ip

theorem DeviceManager.key_closing (mgr : DeviceManager) : mgr.closing.key = mgr.key := by
  cases mgr <;> rfl

/-- What a request says about a key: a manager comes, or it goes. -/
def PhysicalRequest.change : PhysicalRequest → ManagerKey × Bool
  | .add manager _ => (manager.key, true)
  | .close request => (request.key, false)

namespace ManagerHost

def track (s : ManagerHost × Demand) (act : ControlAct) : ManagerHost × Demand :=
  (s.1.step act, s.2.step act)

def available (h : ManagerHost) (key : ManagerKey) : Bool :=
  h.iosPlatform || decide (key.platform ≠ .ios)

structure Counts (h : ManagerHost) (d : Demand) : Prop where
  distinct : (h.enabledManagers.map Held.key).Nodup
  /-- An entry has the connected controls that asked for it, and at least one. -/
  nonempty : ∀ e ∈ h.enabledManagers, e.holders ≠ []
  active : ∀ e ∈ h.enabledManagers, ∀ id ∈ e.holders, id ∈ h.activeControlIds
  exactly : ∀ e ∈ h.enabledManagers, ∀ id, id ∈ e.holders ↔ (id, e.key) ∈ d.wants
  enabled : ∀ key, key ∈ h.enabledManagers.map Held.key ↔ d.Wanted key
  connected : ∀ id, id ∈ h.activeControlIds ↔ id ∈ d.connected
  manual : h.manualConnect = true ↔ ∀ id ∈ d.connected, id ∉ d.auto
  auto_active : ∀ id ∈ h.autoConnectControlIds, id ∈ h.activeControlIds
  report_active : ∀ id ∈ h.reportControlIds, id ∈ h.activeControlIds
  requester_active : ∀ id ∈ h.webSocketRequesterControlIds, id ∈ h.activeControlIds
  /-- The managers of the connector are those of the entries, in the same order. -/
  open_managers : h.devicesManager.map key = (h.enabledManagers.map Held.key).filter h.available

/-- The step asks for exactly the managers whose first control came, and closes, once, those whose
last control left. -/
def AsksExactly (s : ManagerHost × Demand) (act : ControlAct) : Prop :=
  ∃ asked, (s.1.step act).asked = s.1.asked ++ asked ∧ ∀ key,
    ((s.2.Wanted key ↔ (s.2.step act).Wanted key) → changesOf change key asked = []) ∧
    (¬ s.2.Wanted key → (s.2.step act).Wanted key → changesOf change key asked = [true]) ∧
    (s.2.Wanted key → ¬ (s.2.step act).Wanted key → changesOf change key asked = [false])

/- The table of managers -/

variable {h : ManagerHost}

def present (h : ManagerHost) (key : ManagerKey) : Bool :=
  decide (key ∈ h.enabledManagers.map Held.key)

abbrev Tells (kind : Bool) (h h' : ManagerHost) : Prop :=
  Announces ManagerHost.asked present change (fun request => request.change.2 = kind) h h'

structure Tabled (h : ManagerHost) : Prop where
  well : WellHeld h.enabledManagers
  closes : ∀ e ∈ h.enabledManagers, e.resource.key = e.key
  open_managers : h.devicesManager.map key = (h.enabledManagers.map Held.key).filter h.available

structure SameSets (h h' : ManagerHost) : Prop where
  next : h'.nextControlId = h.nextControlId
  active : h'.activeControlIds = h.activeControlIds
  auto : h'.autoConnectControlIds = h.autoConnectControlIds
  report : h'.reportControlIds = h.reportControlIds
  requesters : h'.webSocketRequesterControlIds = h.webSocketRequesterControlIds
  manual : h'.manualConnect = h.manualConnect

theorem SameSets.refl (h : ManagerHost) : SameSets h h := ⟨rfl, rfl, rfl, rfl, rfl, rfl⟩

theorem SameSets.trans {h₁ h₂ h₃ : ManagerHost} (x : SameSets h₁ h₂) (hs : SameSets h₂ h₃) :
    SameSets h₁ h₃ where
  next := hs.next.trans x.next
  active := hs.active.trans x.active
  auto := hs.auto.trans x.auto
  report := hs.report.trans x.report
  requesters := hs.requesters.trans x.requesters
  manual := hs.manual.trans x.manual

/- One manager is added -/

variable {ctrl : Nat} {mgr : DeviceManager} {close : CloseRequest} {autoListen : Bool}

theorem addManager_eq :
    h.addManager ctrl mgr close autoListen = if mgr.key ∈ h.enabledManagers.map Held.key then
        { h with enabledManagers := (hold mgr.key ctrl close h.enabledManagers).1 }
      else
        { h with
          enabledManagers := (hold mgr.key ctrl close h.enabledManagers).1 }.addDeviceManager mgr
            autoListen := by
  have new : (hold mgr.key ctrl close h.enabledManagers).2 = true ↔
      mgr.key ∉ h.enabledManagers.map Held.key := hold_new
  unfold addManager
  cases ha : hold mgr.key ctrl close h.enabledManagers with
  | mk es made =>
    rw [ha] at new
    cases made with
    | true => rw [if_neg (new.mp rfl)]
    | false =>
      have inside : mgr.key ∈ h.enabledManagers.map Held.key := by
        by_contra ho
        exact Bool.false_ne_true (new.mpr ho)
      rw [if_pos inside]

theorem enabledManagers_addManager : (h.addManager ctrl mgr close autoListen).enabledManagers =
      (hold mgr.key ctrl close h.enabledManagers).1 := by
  rw [addManager_eq]
  split <;> rfl

theorem sameSets_addManager : SameSets h (h.addManager ctrl mgr close autoListen) := by
  rw [addManager_eq]
  split <;> exact ⟨rfl, rfl, rfl, rfl, rfl, rfl⟩

theorem holds_addManager {id : Nat} {key : ManagerKey} :
    Holds (h.addManager ctrl mgr close autoListen).enabledManagers id key ↔
      Holds h.enabledManagers id key ∨ (key = mgr.key ∧ id = ctrl) := by
  rw [enabledManagers_addManager]
  exact holds_hold

theorem keys_addDeviceManager :
    (h.addDeviceManager mgr autoListen).devicesManager.map key =
      h.devicesManager.map key ++ [mgr.key].filter h.available := by
  cases mgr with
  | ios => cases hp : h.iosPlatform <;> simp [addDeviceManager, available, hp, key]
  | android opts | harmony opts | desktop | network opts => simp [addDeviceManager, available, key]

theorem Tabled.addManager (ht : h.Tabled) (hc : close.key = mgr.key) :
    (h.addManager ctrl mgr close autoListen).Tabled := by
  have he : (h.addManager ctrl mgr close autoListen).enabledManagers = _ := enabledManagers_addManager
  constructor
  · rw [he]
    exact ht.well.hold
  · rw [he]
    exact resources_hold (P := fun key req => CloseRequest.key req = key) ht.closes hc
  · rw [he, keys_hold, addManager_eq]
    split
    · exact ht.open_managers
    · rw [keys_addDeviceManager, filter_append]
      exact congrArg (· ++ _) ht.open_managers

theorem tells_addManager : Tells true h (h.addManager ctrl mgr close autoListen) := by
  have he : (h.addManager ctrl mgr close autoListen).enabledManagers = _ := enabledManagers_addManager
  by_cases hi : mgr.key ∈ h.enabledManagers.map Held.key
  · refine announces_nothing ?_ ?_
    · rw [addManager_eq, if_pos hi]
    · intro key
      simp only [present, he, keys_hold, if_pos hi]
  · refine announces_flips [.add mgr autoListen] ?_ ?_ ?_ ?_ ?_
    · rw [addManager_eq, if_neg hi]
      rfl
    · simp [change]
    · simp
    · simp only [mem_singleton, forall_eq, change, present, he, keys_hold, if_neg hi]
      simpa using hi
    · intro key ho
      have apart : key ≠ mgr.key := by simpa [change] using ho
      simp only [present, he, keys_hold, if_neg hi]
      simp [apart]

/- The managers of an option -/

def addOwn (controlId : Nat) (h : ManagerHost) (manager : DeviceManager) : ManagerHost :=
  h.addManager controlId manager manager.closing !h.manualConnect

theorem addPhysicalDeviceManagers_eq (opt : ConnectorFacadeOption) :
    h.addPhysicalDeviceManagers ctrl opt = opt.managers.foldl (addOwn ctrl) h := by
  have own : ∀ (enabled : Bool) (mgr : DeviceManager) (h : ManagerHost),
      (if enabled then [mgr] else []).foldl (addOwn ctrl) h = if enabled then h.addOwn ctrl mgr
        else h := by
    intro enabled mgr h
    cases enabled <;> rfl
  simp only [ConnectorFacadeOption.managers, foldl_append, own]
  unfold addPhysicalDeviceManagers
  cases opt.enableNetworkDevice with
  | false => rfl
  | true =>
    cases opt.networkDeviceOpt with
    | none => rfl
    | some network => rfl

structure AddedOwn (controlId : Nat) (keys : List ManagerKey) (h h' : ManagerHost) : Prop where
  tabled : h.Tabled → h'.Tabled
  holds : ∀ id key, Holds h'.enabledManagers id key ↔
    Holds h.enabledManagers id key ∨ (id = controlId ∧ key ∈ keys)
  sets : SameSets h h'
  tells : Tells true h h'

theorem addedOwn_foldl (ctrl : Nat) (h : ManagerHost) (managers : List DeviceManager) :
    AddedOwn ctrl (managers.map key) h (managers.foldl (addOwn ctrl) h) := by
  induction managers generalizing h with
  | nil => exact ⟨id, by simp, .refl h, announces_nothing rfl fun _ => rfl⟩
  | cons mgr xs ih =>
    have hl := ih (h.addOwn ctrl mgr)
    refine ⟨?_, ?_, sameSets_addManager.trans hl.sets, announces_trans tells_addManager hl.tells⟩
    · intro ht
      exact hl.tabled (ht.addManager mgr.key_closing)
    · intro id key
      rw [foldl_cons, hl.holds, addOwn, holds_addManager, map_cons, mem_cons]
      tauto

/- A control leaves -/

variable (req : CloseRequest) (report : Bool)

theorem matches_iff (mgr : DeviceManager) : req.matches mgr = true ↔ mgr.key = req.key := by
  cases req <;> cases mgr <;> simp [CloseRequest.matches, key, CloseRequest.key]

theorem keys_closeMatching :
    (h.closeMatchingDeviceManager req).devicesManager.map key =
      (h.devicesManager.map key).erase req.key := by
  change (h.devicesManager.eraseP req.matches).map key = _
  induction h.devicesManager with
  | nil => rfl
  | cons mgr xs ih =>
    by_cases hs : mgr.key = req.key
    · have found : req.matches mgr = true := (matches_iff req mgr).mpr hs
      simp [found, hs]
    · have missed : req.matches mgr = false := by
        rw [← Bool.not_eq_true, matches_iff]
        exact hs
      simp [missed, hs, ih]

theorem foldl_close (gone : List (Held ManagerKey Nat CloseRequest)) (h : ManagerHost) :
    let after := gone.foldl (fun h mgr => h.closeMatchingDeviceManager mgr.resource) h
    after.enabledManagers = h.enabledManagers ∧ SameSets h after ∧ after.iosPlatform = h.iosPlatform ∧
      after.asked = h.asked ++ gone.map (fun mgr => .close mgr.resource) ∧
      after.devicesManager.map DeviceManager.key =
        (gone.map fun mgr => mgr.resource.key).foldl List.erase
          (h.devicesManager.map DeviceManager.key) := by
  induction gone generalizing h with
  | nil => exact ⟨rfl, .refl h, rfl, by simp, rfl⟩
  | cons mgr xs ih =>
    obtain ⟨he, hs, hp, ha, hm⟩ := ih (h.closeMatchingDeviceManager mgr.resource)
    have x : SameSets h (h.closeMatchingDeviceManager mgr.resource) := ⟨rfl, rfl, rfl, rfl, rfl, rfl⟩
    refine ⟨he, x.trans hs, hp, ha.trans ?_, hm.trans ?_⟩
    · simp [closeMatchingDeviceManager]
    · rw [keys_closeMatching]
      rfl

theorem foldl_erase {ks l : List ManagerKey} (h : l.Nodup) :
    ks.foldl List.erase l = l.filter (· ∉ ks) := by
  induction ks generalizing l with
  | nil => simp
  | cons k xs ih =>
    rw [List.foldl_cons, ih (h.erase k), h.erase_eq_filter, List.filter_filter]
    refine List.filter_congr ?_
    intro key _
    by_cases hs : key = k <;> simp [hs]

/-- The managers whose last control leaves go, and no others. -/
structure Released (controlId : Nat) (h h' : ManagerHost) : Prop where
  tabled : h'.Tabled
  holds : ∀ id key, Holds h'.enabledManagers id key ↔ Holds h.enabledManagers id key ∧ id ≠ controlId
  sets : SameSets h h'
  tells : Tells false h h'

theorem Tabled.closes_gone (ht : h.Tabled) (ctrl : Nat) :
    (letGo ctrl h.enabledManagers).2.map (fun mgr => mgr.resource.key) =
      (letGo ctrl h.enabledManagers).2.map Held.key := by
  refine map_congr_left ?_
  intro e hg
  exact ht.closes e (mem_filter.mp hg).1

theorem Tabled.tells_release {h' : ManagerHost} (hta : h.Tabled) (ctrl : Nat)
    (he : h'.enabledManagers = (letGo ctrl h.enabledManagers).1)
    (ha : h'.asked = h.asked ++
      (letGo ctrl h.enabledManagers).2.map fun mgr => .close mgr.resource) :
    Tells false h h' := by
  have kept := hta.well.keys_letGo (a := ctrl)
  have told : ((letGo ctrl h.enabledManagers).2.map fun mgr =>
      close mgr.resource).map (fun req => req.change.1) =
      (letGo ctrl h.enabledManagers).2.map Held.key := by
    rw [← hta.closes_gone, map_map]
    rfl
  refine announces_flips _ ha ?_ ?_ ?_ ?_
  · simp [change]
  · rw [told]
    exact hta.well.distinct.sublist (filter_sublist.map _)
  · intro req hi
    have gone : req.change.1 ∈ (letGo ctrl h.enabledManagers).2.map Held.key := by
      rw [← told]
      exact mem_map_of_mem hi
    have before : req.change.1 ∈ h.enabledManagers.map Held.key :=
      (filter_sublist.map Held.key).subset gone
    obtain ⟨mgr, -, rfl⟩ := mem_map.mp hi
    constructor
    · simpa [present, change] using before
    · simp only [present, he, kept, change, decide_eq_false_iff_not]
      intro hs
      have out : mgr.resource.key ∉ (letGo ctrl h.enabledManagers).2.map Held.key := by
        simpa only [decide_eq_true_eq] using (mem_filter.mp hs).2
      exact out gone
  · intro key ho
    rw [told] at ho
    simp only [present, he, kept, mem_filter, ho, not_false_eq_true, decide_true, and_true]

theorem Tabled.release (tabled : h.Tabled) (ctrl : Nat) :
    Released ctrl h (h.releasePhysicalDeviceManagers ctrl) := by
  obtain ⟨he, sets, hp, ha, hm⟩ := foldl_close (letGo ctrl h.enabledManagers).2
    { h with enabledManagers := (letGo ctrl h.enabledManagers).1 }
  change (h.releasePhysicalDeviceManagers ctrl).enabledManagers = _ at he
  change SameSets _ (h.releasePhysicalDeviceManagers ctrl) at sets
  change (h.releasePhysicalDeviceManagers ctrl).iosPlatform = _ at hp
  change (h.releasePhysicalDeviceManagers ctrl).asked = _ at ha
  change (h.releasePhysicalDeviceManagers ctrl).devicesManager.map _ = _ at hm
  constructor
  case tabled =>
    constructor
    · rw [he]
      exact tabled.well.letGo
    · rw [he]
      exact resources_letGo (P := fun key req => CloseRequest.key req = key) tabled.closes
    · have nodup : (h.devicesManager.map DeviceManager.key).Nodup := by
        rw [tabled.open_managers]
        exact tabled.well.distinct.filter _
      have same : (h.releasePhysicalDeviceManagers ctrl).available = h.available := by
        funext key
        simp [available, hp]
      rw [hm, tabled.closes_gone, foldl_erase nodup, tabled.open_managers, he,
        tabled.well.keys_letGo, same, List.filter_filter, List.filter_filter]
      simp only [Bool.and_comm]
  case holds =>
    intro id key
    rw [he]
    exact holds_letGo
  case sets => exact ⟨sets.next, sets.active, sets.auto, sets.report, sets.requesters, sets.manual⟩
  case tells => exact tabled.tells_release ctrl he ha

/- The steps -/

structure SetsFollow (h : ManagerHost) (d : Demand) : Prop where
  next : h.nextControlId = d.next
  connected : ∀ id, id ∈ h.activeControlIds ↔ id ∈ d.connected
  auto : ∀ id, id ∈ h.autoConnectControlIds ↔ id ∈ d.auto
  manual : h.manualConnect = h.autoConnectControlIds.isEmpty
  auto_active : ∀ id ∈ h.autoConnectControlIds, id ∈ h.activeControlIds
  report_active : ∀ id ∈ h.reportControlIds, id ∈ h.activeControlIds
  requester_active : ∀ id ∈ h.webSocketRequesterControlIds, id ∈ h.activeControlIds

structure Follows (h : ManagerHost) (d : Demand) : Prop extends h.SetsFollow d where
  tabled : h.Tabled
  holds : ∀ id key, Holds h.enabledManagers id key ↔ (id, key) ∈ d.wants
  wants_connected : ∀ id key, (id, key) ∈ d.wants → id ∈ d.connected

theorem SetsFollow.congr {h' : ManagerHost} {d : Demand} (hf : h.SetsFollow d) (hs : SameSets h h') :
    h'.SetsFollow d where
  next := hs.next.trans hf.next
  connected := hs.active ▸ hf.connected
  auto := hs.auto ▸ hf.auto
  manual := by
    rw [hs.manual, hs.auto]
    exact hf.manual
  auto_active := by
    rw [hs.auto, hs.active]
    exact hf.auto_active
  report_active := by
    rw [hs.report, hs.active]
    exact hf.report_active
  requester_active := by
    rw [hs.requesters, hs.active]
    exact hf.requester_active

variable {d : Demand}

theorem initial_follows (iosPlatform ws : Bool) : (initial iosPlatform ws).Follows .initial where
  tabled := ⟨⟨nodup_nil, by simp [initial]⟩, by simp [initial], rfl⟩
  holds id key := by simp [initial, Holds, Demand.initial]
  next := rfl
  connected id := by simp [initial, Demand.initial]
  auto id := by simp [initial, Demand.initial]
  manual := rfl
  wants_connected := nofun
  auto_active := nofun
  report_active := nofun
  requester_active := nofun

theorem Follows.present_iff (hf : h.Follows d) (key : ManagerKey) :
    h.present key = true ↔ d.Wanted key := by
  rw [present, decide_eq_true_eq, hf.tabled.well.mem_keys_iff]
  exact exists_congr fun id => hf.holds id key

theorem Follows.counts (hf : h.Follows d) : h.Counts d where
  distinct := hf.tabled.well.distinct
  nonempty := hf.tabled.well.held
  active e here id holder := by
    have wanted := (hf.holds id e.key).mp ⟨e, here, rfl, holder⟩
    exact (hf.connected id).mpr (hf.wants_connected id e.key wanted)
  exactly e here id := by
    rw [← hf.holds]
    constructor
    · exact fun holder => ⟨e, here, rfl, holder⟩
    · rintro ⟨e', here', hs, holder⟩
      cases List.inj_on_of_nodup_map hf.tabled.well.distinct here' here hs
      exact holder
  enabled key := by rw [← hf.present_iff, present, decide_eq_true_eq]
  connected := hf.connected
  manual := by
    rw [hf.manual, List.isEmpty_iff, List.eq_nil_iff_forall_not_mem]
    constructor
    · exact fun none id _ ha => none id ((hf.auto id).mpr ha)
    · intro none id ha
      exact none id ((hf.connected id).mp (hf.auto_active id ha)) ((hf.auto id).mp ha)
  auto_active := hf.auto_active
  report_active := hf.report_active
  requester_active := hf.requester_active
  open_managers := hf.tabled.open_managers

theorem asksExactly_of_tells {act : ControlAct} {kind : Bool} (hf : h.Follows d)
    (ha : (h.step act).Follows (d.step act)) (hte : Tells kind h (h.step act)) :
    AsksExactly (h, d) act := by
  obtain ⟨asked, hg, hk, hr⟩ := hte
  refine ⟨asked, hg, ?_⟩
  intro key
  have same : ∀ change ∈ changesOf PhysicalRequest.change key asked, change = kind := by
    intro change hi
    obtain ⟨req, hh, ht⟩ := List.mem_filterMap.mp hi
    split at ht
    · cases ht
      exact hk req hh
    · cases ht
  have hc := replay_of_same same (hr key)
  have before := hf.present_iff key
  have later := ha.present_iff key
  rw [hc, ← before, ← later]
  cases h.present key <;> cases (h.step act).present key <;> simp

theorem Follows.addNetworkManager {opt : NetworkDeviceOption} (hf : h.Follows d)
    (hc : ctrl ∈ h.activeControlIds) :
    (h.addNetworkManager ctrl opt true).Follows (d.step (.watchNetworkDeviceAtIp ctrl opt)) := by
  have there : ctrl ∈ d.connected := (hf.connected ctrl).mp hc
  have hw : ∀ id key, (id, key) ∈ (d.step (.watchNetworkDeviceAtIp ctrl opt)).wants ↔
      (id, key) ∈ d.wants ∨ (key = (network opt).key ∧ id = ctrl) := by
    intro id key
    simp [Demand.step, there, and_comm]
  have sets : SetsFollow h (d.step (.watchNetworkDeviceAtIp ctrl opt)) := { hf.toSetsFollow with }
  refine { sets.congr sameSets_addManager with tabled := ?_, holds := ?_, wants_connected := ?_ }
  · exact hf.tabled.addManager rfl
  · intro id key
    rw [hw, ← hf.holds]
    exact holds_addManager
  · intro id key hwa
    rcases (hw id key).mp hwa with old | ⟨-, rfl⟩
    · exact hf.wants_connected id key old
    · exact there

def enrolled (h : ManagerHost) (report : Bool) (option : ConnectorFacadeOption) : ManagerHost :=
  let auto := if option.manualConnect then h.autoConnectControlIds
    else insertLast h.nextControlId h.autoConnectControlIds
  { h with
    nextControlId := h.nextControlId + 1
    activeControlIds := insertLast h.nextControlId h.activeControlIds
    autoConnectControlIds := auto
    manualConnect := auto.isEmpty
    reportControlIds :=
      if report then insertLast h.nextControlId h.reportControlIds else h.reportControlIds
    enableWebSocket := h.enableWebSocket || option.enableWebSocket }

/-- Up to `connectDevices`, which is called for an automatic control. -/
def joined (h : ManagerHost) (report : Bool) (option : ConnectorFacadeOption) : ManagerHost :=
  option.managers.foldl (addOwn h.nextControlId) (h.enrolled report option)

theorem step_connect (opt : Option ConnectorFacadeOption) :
    h.step (.connect report opt) =
      if (opt.getD .standard).manualConnect then h.joined report (opt.getD .standard)
      else (h.joined report (opt.getD .standard)).connectDevices := by
  have added : (h.enrolled report (opt.getD .standard)).addPhysicalDeviceManagers h.nextControlId
      (opt.getD .standard) = h.joined report (opt.getD .standard) := addPhysicalDeviceManagers_eq _
  rw [← added]
  rfl

theorem Tabled.connectDevices (t : h.Tabled) : h.connectDevices.Tabled :=
  ⟨t.well, t.closes, t.open_managers⟩

theorem Follows.connectDevices (hf : h.Follows d) : h.connectDevices.Follows d :=
  { hf with tabled := hf.tabled.connectDevices }

theorem Follows.enrolled (hf : h.Follows d) (report : Bool) (opt : Option ConnectorFacadeOption) :
    (h.enrolled report (opt.getD .standard)).SetsFollow (d.step (.connect report opt)) := by
  constructor
  case next => exact congrArg (· + 1) hf.next
  case connected =>
    intro id
    simp [ManagerHost.enrolled, Demand.step, hf.connected, hf.next]
  case auto =>
    intro id
    cases manual : (opt.getD .standard).manualConnect <;>
      simp [ManagerHost.enrolled, Demand.step, hf.auto, hf.next, manual]
  case manual => rfl
  case auto_active =>
    intro id hi
    have ha := hf.auto_active id
    simp only [ManagerHost.enrolled, mem_insertLast] at hi ⊢
    split at hi
    · exact .inl (ha hi)
    · exact (mem_insertLast.mp hi).imp_left ha
  case report_active =>
    intro id hi
    have ha := hf.report_active id
    simp only [ManagerHost.enrolled, mem_insertLast] at hi ⊢
    split at hi
    · exact (mem_insertLast.mp hi).imp_left ha
    · exact .inl (ha hi)
  case requester_active =>
    intro id hi
    exact mem_insertLast.mpr (.inl (hf.requester_active id hi))

theorem Follows.joined (hf : h.Follows d) (report : Bool) (opt : Option ConnectorFacadeOption) :
    (h.joined report (opt.getD .standard)).Follows (d.step (.connect report opt)) := by
  have added := addedOwn_foldl h.nextControlId (h.enrolled report (opt.getD .standard))
    (opt.getD .standard).managers
  have sets := (hf.enrolled report opt).congr added.sets
  have same : (h.enrolled report (opt.getD .standard)).enabledManagers = h.enabledManagers := rfl
  refine { sets with tabled := added.tabled ?_, holds := ?_, wants_connected := ?_ }
  · exact ⟨hf.tabled.well, hf.tabled.closes, hf.tabled.open_managers⟩
  · intro id key
    rw [ManagerHost.joined, added.holds, same, hf.holds, hf.next]
    rfl
  · intro id key wanted
    rcases wanted with old | ⟨rfl, -⟩
    · exact .inl (hf.wants_connected id key old)
    · exact .inr rfl

theorem Follows.connect (hf : h.Follows d) (report : Bool) (opt : Option ConnectorFacadeOption) :
    (h.step (.connect report opt)).Follows (d.step (.connect report opt)) := by
  rw [step_connect]
  split
  · exact hf.joined report opt
  · exact (hf.joined report opt).connectDevices

def departed (h : ManagerHost) (controlId : Nat) : ManagerHost :=
  { h with
    activeControlIds := h.activeControlIds.filter (· ≠ controlId)
    autoConnectControlIds := h.autoConnectControlIds.filter (· ≠ controlId)
    manualConnect := (h.autoConnectControlIds.filter (· ≠ controlId)).isEmpty
    reportControlIds := h.reportControlIds.filter (· ≠ controlId)
    webSocketRequesterControlIds := h.webSocketRequesterControlIds.filter (· ≠ controlId) }

theorem mem_filter_of {l active : List Nat} (h : ∀ id ∈ l, id ∈ active) :
    ∀ id ∈ l.filter (· ≠ ctrl), id ∈ active.filter (· ≠ ctrl) := by
  intro id hi
  obtain ⟨hh, ha⟩ := mem_filter.mp hi
  exact mem_filter.mpr ⟨h id hh, ha⟩

theorem Follows.departed (hf : h.Follows d) (ctrl : Nat) :
    (h.departed ctrl).SetsFollow (d.step (.disconnect ctrl)) := by
  constructor
  case next => exact hf.next
  case connected =>
    intro id
    simp [ManagerHost.departed, Demand.step, hf.connected]
  case auto =>
    intro id
    simp [ManagerHost.departed, Demand.step, hf.auto]
  case manual => rfl
  case auto_active => exact mem_filter_of hf.auto_active
  case report_active => exact mem_filter_of hf.report_active
  case requester_active => exact mem_filter_of hf.requester_active

theorem Follows.disconnect (hf : h.Follows d) (ctrl : Nat) :
    (h.step (.disconnect ctrl)).Follows (d.step (.disconnect ctrl)) ∧
      Tells false h (h.step (.disconnect ctrl)) := by
  have tabled : (h.departed ctrl).Tabled :=
    ⟨hf.tabled.well, hf.tabled.closes, hf.tabled.open_managers⟩
  have hr := tabled.release ctrl
  change Released ctrl _ (h.step (.disconnect ctrl)) at hr
  constructor
  · refine { (hf.departed ctrl).congr hr.sets with
      tabled := hr.tabled, holds := ?_, wants_connected := ?_ }
    · intro id key
      rw [hr.holds]
      exact and_congr (hf.holds id key) Iff.rfl
    · rintro id key ⟨hw, ha⟩
      exact ⟨hf.wants_connected id key hw, ha⟩
  · exact hr.tells

theorem Follows.requesters {ids : List Nat} (hf : h.Follows d)
    (hw : ∀ id ∈ ids, id ∈ h.activeControlIds) :
    Follows { h with webSocketRequesterControlIds := ids } d :=
  { hf with
    requester_active := hw
    tabled := ⟨hf.tabled.well, hf.tabled.closes, hf.tabled.open_managers⟩ }

theorem tells_connect (opt : Option ConnectorFacadeOption) :
    Tells true h (h.step (.connect report opt)) := by
  have told : Tells true h (h.joined report (opt.getD .standard)) :=
    (addedOwn_foldl h.nextControlId (h.enrolled report (opt.getD .standard)) _).tells
  rw [step_connect]
  split <;> exact told

theorem demand_unconnected (opt : NetworkDeviceOption) (h : ctrl ∉ d.connected) :
    d.step (.watchNetworkDeviceAtIp ctrl opt) = d := by
  simp [Demand.step, h]

theorem Follows.step (hf : h.Follows d) (act : ControlAct) :
    (h.step act).Follows (d.step act) ∧ AsksExactly (h, d) act := by
  suffices hm : (h.step act).Follows (d.step act) ∧ ∃ kind, Tells kind h (h.step act) by
    obtain ⟨ha, kind, ht⟩ := hm
    exact ⟨ha, asksExactly_of_tells hf ha ht⟩
  cases act with
  | connect report opt => exact ⟨hf.connect report opt, true, tells_connect report opt⟩
  | watchNetworkDeviceAtIp ctrl opt =>
    by_cases hc : ctrl ∈ h.activeControlIds
    · simp only [ManagerHost.step, if_pos hc]
      exact ⟨hf.addNetworkManager hc, true, tells_addManager⟩
    · have absent : ctrl ∉ d.connected := fun hth => hc ((hf.connected ctrl).mpr hth)
      rw [demand_unconnected opt absent]
      simp only [ManagerHost.step, if_neg hc]
      exact ⟨hf, true, announces_nothing rfl fun _ => rfl⟩
  | connectDevices ctrl =>
    simp only [ManagerHost.step]
    split
    · exact ⟨hf.connectDevices, true, announces_nothing rfl fun _ => rfl⟩
    · exact ⟨hf, true, announces_nothing rfl fun _ => rfl⟩
  | startWSServer ctrl =>
    simp only [ManagerHost.step, ManagerHost.startWSServer]
    split
    next hc =>
      split
      · refine ⟨hf.requesters ?_, true, announces_nothing rfl fun _ => rfl⟩
        intro id hi
        rcases mem_insertLast.mp hi with old | rfl
        · exact hf.requester_active id old
        · exact hc
      · exact ⟨hf, true, announces_nothing rfl fun _ => rfl⟩
    · exact ⟨hf, true, announces_nothing rfl fun _ => rfl⟩
  | startWSServerFailed ctrl =>
    refine ⟨hf.requesters ?_, true, announces_nothing rfl fun _ => rfl⟩
    intro id hi
    exact hf.requester_active id (mem_filter.mp hi).1
  | disconnect ctrl =>
    obtain ⟨ha, ht⟩ := hf.disconnect ctrl
    exact ⟨ha, false, ht⟩

/-- The device managers are counted by control, over every run: the entries, the sets of control ids
and the managers of the connector are those of the demand in every state, and every step asks for
exactly the managers whose first control came and closes, once, those whose last control left. -/
theorem managers_counted (iosPlatform enableWebSocket : Bool) (acts : List ControlAct) :
    Throughout track (fun s => s.1.Counts s.2) (initial iosPlatform enableWebSocket, .initial) acts ∧
      Along track AsksExactly (initial iosPlatform enableWebSocket, .initial) acts := by
  have start := initial_follows iosPlatform enableWebSocket
  have kept : ∀ (s : ManagerHost × Demand) (act : ControlAct), s.1.Follows s.2 →
      (track s act).1.Follows (track s act).2 := fun _ act hf => (hf.step act).1
  constructor
  · exact throughout_mono (fun _ hf => Follows.counts hf) (throughout_of_invariant kept start acts)
  · exact along_of_invariant kept (fun _ act hf => (Follows.step hf act).2) start acts

end ManagerHost

end DebugRouter.Daemon
