import DebugRouter.Connector.Facade

/-!
The mirrors after a run, against the last snapshot received. Snapshots are applied at once
and results later, so a result can bring back what that snapshot removed.
-/
namespace DebugRouter.Connector
open Library Protocol List

namespace Mirror

structure Converged (m : Mirror) (snapshot : Snapshot) : Prop where
  devices : ∀ serial, m.devices.has serial = true ↔ m.EnabledSerial snapshot serial
  clients : ∀ id, m.usbClients.has id = true ↔ m.SelectedClient snapshot id

structure Covers (m : Mirror) (snapshot : Snapshot) : Prop where
  devices : ∀ serial, m.EnabledSerial snapshot serial → m.devices.has serial = true
  clients : ∀ id, m.SelectedClient snapshot id → m.usbClients.has id = true

structure NoExtra (m : Mirror) (snapshot : Snapshot) : Prop where
  devices : ∀ serial, m.devices.has serial = true → m.EnabledSerial snapshot serial
  clients : ∀ id, m.usbClients.has id = true → m.SelectedClient snapshot id

/-- A result that lists no entry the snapshot leaves out. -/
def Harmless (m : Mirror) (snapshot : Snapshot) : Continuation → Prop
  | .devices ds => ∀ d ∈ ds, m.isDeviceSnapshotEnabled d = true → m.EnabledSerial snapshot d.serial
  | .clients cs => ∀ c ∈ cs, m.EnabledSerial snapshot c.query.deviceId →
      m.SelectedClient snapshot c.id

variable {m : Mirror} {snapshot : Snapshot}

theorem converged_iff (h : m.Covers snapshot) : m.Converged snapshot ↔ m.NoExtra snapshot := by
  constructor
  · intro he
    exact ⟨fun sn => (he.devices sn).mp,
      fun id => (he.clients id).mp⟩
  · intro hn
    exact ⟨fun sn => ⟨hn.devices sn, h.devices sn⟩,
      fun id => ⟨hn.clients id, h.clients id⟩⟩

/- Selection only reads the enable flags. -/

variable {n : Mirror}

theorem enabledSerial_settings (h : n.settings = m.settings) (serial : String) :
    n.EnabledSerial snapshot serial ↔ m.EnabledSerial snapshot serial := by
  unfold EnabledSerial
  simp only [deviceEnabled_settings h]

theorem selectedClient_settings (h : n.settings = m.settings) (id : JsNumber) :
    n.SelectedClient snapshot id ↔ m.SelectedClient snapshot id := by
  unfold SelectedClient
  simp only [enabledSerial_settings h]

theorem harmless_settings (h : n.settings = m.settings) (k : Continuation) :
    n.Harmless snapshot k ↔ m.Harmless snapshot k := by
  cases k <;> simp only [Harmless, deviceEnabled_settings h,
    enabledSerial_settings h, selectedClient_settings h]

variable (k : Continuation)

theorem continuation_settings : (Facade.runContinuation m k).settings = m.settings := by
  cases k with
  | devices ds => exact congrArg (fun p => p.1) (m.upsertDevices_frame ds)
  | clients cs => exact congrArg (fun p => p.1) (m.upsertClients_frame cs)

theorem continuation_devices_has (serial : String) :
    (Facade.runContinuation m k).devices.has serial = true ↔ m.devices.has serial = true ∨
      ∃ ds, k = .devices ds ∧ ∃ d ∈ ds, m.isDeviceSnapshotEnabled d = true ∧ d.serial = serial := by
  cases k with
  | devices ds =>
    rw [Facade.runContinuation, upsertDevices_has]
    simp
  | clients cs =>
    have hs : (m.upsertClientSnapshots cs).devices = m.devices :=
      congrArg (fun p => p.2.1) (m.upsertClients_frame cs)
    simp [Facade.runContinuation, hs]

theorem continuation_clients_has (id : JsNumber) :
    (Facade.runContinuation m k).usbClients.has id = true ↔ m.usbClients.has id = true ∨
      ∃ cs, k = .clients cs ∧ ∃ c ∈ cs, m.devices.has c.query.deviceId = true ∧ c.id = id := by
  cases k with
  | devices ds =>
    have hs : (m.upsertDeviceSnapshots ds).usbClients = m.usbClients :=
      congrArg (fun p => p.2.1) (m.upsertDevices_frame ds)
    simp [Facade.runContinuation, hs]
  | clients cs =>
    rw [Facade.runContinuation, upsertClients_has]
    simp

theorem covers_continuation (h : m.Covers snapshot) (k : Continuation) :
    (Facade.runContinuation m k).Covers snapshot := by
  have hs := continuation_settings (m := m) k
  constructor
  · intro serial he
    rw [enabledSerial_settings hs] at he
    exact (continuation_devices_has k serial).mpr (.inl (h.devices serial he))
  · intro id hse
    rw [selectedClient_settings hs] at hse
    exact (continuation_clients_has k id).mpr (.inl (h.clients id hse))

theorem noExtra_continuation (h : m.Covers snapshot) (k : Continuation) :
    (Facade.runContinuation m k).NoExtra snapshot ↔ m.NoExtra snapshot ∧ m.Harmless snapshot k := by
  have hs := continuation_settings (m := m) k
  constructor
  · intro ha
    have hb : m.NoExtra snapshot := by
      constructor
      · intro serial ht
        rw [← enabledSerial_settings hs]
        exact ha.devices serial ((continuation_devices_has k serial).mpr (.inl ht))
      · intro id ht
        rw [← selectedClient_settings hs]
        exact ha.clients id ((continuation_clients_has k id).mpr (.inl ht))
    refine ⟨hb, ?_⟩
    cases k with
    | devices ds =>
      intro d mem he
      rw [← enabledSerial_settings hs]
      exact ha.devices d.serial ((continuation_devices_has _ _).mpr
        (.inr ⟨ds, rfl, d, mem, he, rfl⟩))
    | clients cs =>
      intro c mem he
      rw [← selectedClient_settings hs]
      exact ha.clients c.id ((continuation_clients_has _ _).mpr
        (.inr ⟨cs, rfl, c, mem, h.devices _ he, rfl⟩))
  · rintro ⟨hb, hh⟩
    constructor
    · intro serial ht
      rw [enabledSerial_settings hs]
      rcases (continuation_devices_has k serial).mp ht with ht | ⟨ds, rfl, d, mem, on, rfl⟩
      · exact hb.devices serial ht
      · exact hh d mem on
    · intro id ht
      rw [selectedClient_settings hs]
      rcases (continuation_clients_has k id).mp ht with ht | ⟨cs, rfl, c, mem, on, rfl⟩
      · exact hb.clients id ht
      · exact hh c mem (hb.devices _ on)

theorem converged_foldl (h : m.Covers snapshot) (ks : List Continuation) :
    (ks.foldl Facade.runContinuation m).Converged snapshot ↔
      m.NoExtra snapshot ∧ ∀ k ∈ ks, m.Harmless snapshot k := by
  induction ks generalizing m with
  | nil => simp [converged_iff h]
  | cons k xs ih =>
    have same := continuation_settings (m := m) k
    rw [foldl_cons, ih (covers_continuation h k), noExtra_continuation h k]
    simp only [harmless_settings same, forall_mem_cons, and_assoc]

theorem covers_apply : (m.applySnapshot snapshot).Covers snapshot := by
  have hs := m.apply_settings snapshot
  constructor
  · intro sn he
    rw [enabledSerial_settings hs] at he
    exact (m.apply_devices_has snapshot sn).mpr he
  · intro id hse
    rw [selectedClient_settings hs] at hse
    obtain ⟨c, mem, hsa, he⟩ := hse
    exact (m.apply_clients_has snapshot id).mpr ⟨c, mem, .inr he, hsa⟩

theorem noExtra_apply : (m.applySnapshot snapshot).NoExtra snapshot ↔ m.NoStaleClient snapshot := by
  have hs := m.apply_settings snapshot
  rw [← converged_iff covers_apply, ← clients_selected_iff]
  constructor
  · intro he id
    rw [← selectedClient_settings hs]
    exact he.clients id
  · intro hse
    constructor
    · intro sn
      rw [enabledSerial_settings hs]
      exact m.apply_devices_has snapshot sn
    · intro id
      rw [selectedClient_settings hs]
      exact hse id

end Mirror

namespace Facade

variable {f : Facade}

theorem handle_mirror {frame : Frame} (h : frame.carriesSnapshot = false) :
    (f.handleTransportMessage frame).mirror = f.mirror := by
  cases frame with
  | response id result =>
    simp only [handleTransportMessage, handleRpcResponse]
    split <;> rfl
  | failure id => rfl
  | snapshot snapshot => cases h
  | otherEvent => rfl

theorem frames_mirror {frames : List Frame} (h : ∀ frame ∈ frames, frame.carriesSnapshot = false) :
    (frames.foldl handleTransportMessage f).mirror = f.mirror := by
  induction frames generalizing f with
  | nil => rfl
  | cons frame xs ih =>
    rw [foldl_cons, ih fun g mem => h g (by simp [mem])]
    exact handle_mirror (h frame (by simp))

theorem turns_mirror {turns : List Turn} (h : ∀ turn ∈ turns, turn.carriesSnapshot = false) :
    (turns.foldl step f).mirror = (f.applied turns).foldl runContinuation f.mirror := by
  induction turns generalizing f with
  | nil => rfl
  | cons turn rest ih =>
    have later := ih (f := f.step turn) fun t mem => h t (by simp [mem])
    rw [foldl_cons, later]
    cases turn with
    | call call => rfl
    | timeout id => rfl
    | chunk frames =>
      have first := h (.chunk frames) (by simp)
      simp only [Turn.carriesSnapshot, any_eq_false, Bool.not_eq_true] at first
      have same := frames_mirror (f := f) first
      simp only [applied, foldl_append, step, runContinuations, same]

theorem applied_chunk (f : Facade) (frames : List Frame) (after : List Turn) :
    f.applied (.chunk frames :: after) =
      (frames.foldl handleTransportMessage f).continuations ++
        (f.step (.chunk frames)).applied after := rfl

/-- The mirrors end as the last snapshot has them exactly when that snapshot listed no
client of a stale device and every result applied after it, those answered in its own
chunk included, lists only what it selects. -/
theorem converged_iff_results_agree (f : Facade) (before : List Turn) (front back : List Frame)
    (snapshot : Snapshot) (after : List Turn)
    (last_in_chunk : ∀ frame ∈ back, frame.carriesSnapshot = false)
    (last_chunk : ∀ turn ∈ after, turn.carriesSnapshot = false) :
    let start := before.foldl step f
    let applying := (front.foldl handleTransportMessage start).mirror
    let turns := .chunk (front ++ .snapshot snapshot :: back) :: after
    (turns.foldl step start).mirror.Converged snapshot ↔ applying.NoStaleClient snapshot ∧
        ∀ result ∈ start.applied turns, applying.Harmless snapshot result := by
  intro start applying turns
  have hr : ((front ++ .snapshot snapshot :: back).foldl handleTransportMessage start).mirror =
      applying.applySnapshot snapshot := by
    rw [foldl_append, foldl_cons, frames_mirror last_in_chunk]
    rfl
  have final : (turns.foldl step start).mirror =
      (start.applied turns).foldl runContinuation (applying.applySnapshot snapshot) := by
    have later :=
      turns_mirror (f := start.step (.chunk (front ++ .snapshot snapshot :: back))) last_chunk
    rw [applied_chunk, foldl_append, ← hr]
    exact later
  rw [final, Mirror.converged_foldl Mirror.covers_apply, Mirror.noExtra_apply]
  simp only [Mirror.harmless_settings (applying.apply_settings snapshot)]

/- A device that a result brings back -/

def idle : Facade where
  mirror := .emptyMirror
  pendingRpc := .empty
  nextRpcId := 0
  continuations := []

def noDevices : Snapshot := ⟨[], [], none, none⟩

def deviceResult : RpcResult := ⟨some [Mirror.phone], none⟩

/-- The answer to `connectDevices` and the snapshot that takes the device away again
arrive in one chunk: the device stays in the mirror. -/
theorem result_outlives_snapshot :
    let turns := [.call .connectDevices, .chunk [.response 0 deviceResult, .snapshot noDevices]]
    (turns.foldl step idle).mirror.devices.has "d" = true ∧
      ¬ (turns.foldl step idle).mirror.Converged noDevices := by
  intro turns
  have stays : (turns.foldl step idle).mirror.devices.has "d" = true := by decide +kernel
  refine ⟨stays, ?_⟩
  intro hc
  obtain ⟨d, hl, -⟩ := (hc.devices "d").mp stays
  cases hl

theorem converged_with_two_chunks :
    let turns :=
      [.call .connectDevices, .chunk [.response 0 deviceResult], .chunk [.snapshot noDevices]]
    (turns.foldl step idle).mirror.Converged noDevices := by
  intro turns
  have law :=
    converged_iff_results_agree idle [.call .connectDevices, .chunk [.response 0 deviceResult]]
    [] [] noDevices [] (by simp) (by simp)
  refine law.mpr ⟨?_, ?_⟩
  · intro c mem
    cases mem
  · intro result mem
    cases mem

end Facade

end DebugRouter.Connector
