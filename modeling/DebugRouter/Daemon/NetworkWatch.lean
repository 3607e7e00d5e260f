import DebugRouter.Daemon.ManagerCounts

/-!
`watchNetworkDeviceAtIp`: an open manager for the address is left as it is, so whether it watches was
settled when it was made, or by an automatic control that came since.
-/
namespace DebugRouter.Daemon

open Library List

def networkKey (ip : String) : ManagerKey := ⟨.network, none, none, some ip⟩

def about (key : ManagerKey) (asked : List PhysicalRequest) : List PhysicalRequest :=
  asked.filter (·.change.1 = key)

namespace ManagerHost
variable {h : ManagerHost} {d : Demand} {ip : String}

def opened (h : ManagerHost) (ip : String) : Prop :=
  networkKey ip ∈ h.devicesManager.map DeviceManager.key

theorem Follows.opened_iff (hf : h.Follows d) : h.opened ip ↔ d.Wanted (networkKey ip) := by
  rw [opened, hf.tabled.open_managers, mem_filter, ← hf.present_iff]
  simp [present, available, networkKey]

theorem watching_addNetworkManager (ctrl : Nat) (opt : NetworkDeviceOption) :
    networkKey opt.ip ∈ (h.addNetworkManager ctrl opt true).watching ↔
      h.present (networkKey opt.ip) = false ∨ networkKey opt.ip ∈ h.watching := by
  have same : (DeviceManager.network opt).key = networkKey opt.ip := rfl
  rw [addNetworkManager, addManager_eq, same]
  split
  next present => simp [ManagerHost.present, present]
  next missing =>
    refine iff_of_true ?_ (.inl (decide_eq_false missing))
    simp [addDeviceManager, same, networkKey]

variable {key : ManagerKey}

theorem about_of_changesOf {asked : List PhysicalRequest}
    (h : changesOf PhysicalRequest.change key asked = []) : about key asked = [] := by
  rw [about, filter_eq_nil_iff]
  intro req ha hs
  have hu := filterMap_eq_nil_iff.mp h req ha
  rw [if_pos (of_decide_eq_true hs)] at hu
  cases hu

theorem about_of_wanted {s : ManagerHost × Demand} (hf : s.1.Follows s.2)
    (hw : s.2.Wanted key) {later : List ControlAct}
    (hs : Along track (fun s act => (s.2.step act).Wanted key) s later) :
    about key (later.foldl track s).1.asked = about key s.1.asked ∧
      (later.foldl track s).2.Wanted key ∧
      (later.foldl track s).1.Follows (later.foldl track s).2 := by
  induction later generalizing s with
  | nil => exact ⟨rfl, hw, hf⟩
  | cons act later ih =>
    obtain ⟨next, hs⟩ := hs
    obtain ⟨hfo, asked, hg, he⟩ := hf.step act
    obtain ⟨hsa, hl⟩ := ih hfo next hs
    refine ⟨?_, hl⟩
    rw [foldl_cons, hsa]
    change about key (s.1.step act).asked = _
    rw [hg, about, filter_append]
    have hq := about_of_changesOf ((he key).1 (iff_of_true hw next))
    rw [about] at hq
    rw [hq, append_nil, about]

/-- After a request that succeeded the open manager of the address watches, unless it was open
before and did not; and it stays open while a control that asked for it is connected. -/
theorem network_device_watched_iff (iosPlatform enableWebSocket : Bool) (acts : List ControlAct)
    (controlId : Nat) (option : NetworkDeviceOption) :
    let s := acts.foldl track (initial iosPlatform enableWebSocket, .initial)
    let t := track s (.watchNetworkDeviceAtIp controlId option)
    controlId ∈ s.1.activeControlIds →
      ((t.1.opened option.ip ∧ networkKey option.ip ∈ t.1.watching) ↔
        (s.1.opened option.ip → networkKey option.ip ∈ s.1.watching)) ∧
      ∀ later, Along track (fun s act => (s.2.step act).Wanted (networkKey option.ip)) t later →
        (later.foldl track t).1.opened option.ip ∧
          about (networkKey option.ip) (later.foldl track t).1.asked =
            about (networkKey option.ip) t.1.asked := by
  intro s t hc
  have hk : ∀ (s : ManagerHost × Demand) (act : ControlAct), s.1.Follows s.2 →
      (track s act).1.Follows (track s act).2 := fun _ act hf => (hf.step act).1
  have hf : s.1.Follows s.2 := invariant_foldl hk (initial_follows iosPlatform enableWebSocket) acts
  have hfo : t.1.Follows t.2 := hk s _ hf
  have hw : t.2.Wanted (networkKey option.ip) :=
    ⟨controlId, .inr ⟨(hf.connected controlId).mp hc, rfl⟩⟩
  refine ⟨?_, fun later hst => ?_⟩
  · have added : t.1.watching = (s.1.addNetworkManager controlId option true).watching := by
      change (s.1.step _).watching = _
      rw [step, if_pos hc]
    rw [added, watching_addNetworkManager, hfo.opened_iff, hf.opened_iff, ← hf.present_iff,
      and_iff_right hw]
    cases s.1.present (networkKey option.ip) <;> simp
  · obtain ⟨hs, hh, hl⟩ := about_of_wanted hfo hw hst
    exact ⟨hl.opened_iff.mpr hh, hs⟩

theorem first_request_watched :
    let s := [ControlAct.connect false none].foldl track (initial false false, .initial)
    let t := track s (.watchNetworkDeviceAtIp 1 ⟨"10.0.0.2", none⟩)
    t.1.opened "10.0.0.2" ∧ networkKey "10.0.0.2" ∈ t.1.watching :=
  (network_device_watched_iff false false [.connect false none] 1 ⟨"10.0.0.2", none⟩
    (by decide)).1.mpr
    fun ht => absurd ht (by unfold opened; decide)

theorem manual_manager_not_watched :
    let option : ConnectorFacadeOption :=
      { ConnectorFacadeOption.standard with
        manualConnect := true, enableNetworkDevice := true,
        networkDeviceOpt := some ⟨"10.0.0.2", none⟩ }
    let h := ((initial false false).step (.connect false (some option))).step
      (.watchNetworkDeviceAtIp 1 ⟨"10.0.0.2", none⟩)
    1 ∈ h.activeControlIds ∧ h.opened "10.0.0.2" ∧ networkKey "10.0.0.2" ∉ h.watching := by
  unfold opened
  decide

end ManagerHost

end DebugRouter.Daemon
