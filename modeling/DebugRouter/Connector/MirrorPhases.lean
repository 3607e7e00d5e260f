import DebugRouter.Connector.MirrorSteps

/-!
The phases of a reconciliation: upserting and dropping whole collections. Each phase has
its exact effect on the keys, and leaves the other collections alone.
-/
namespace DebugRouter.Connector
open Library Protocol Event

namespace Mirror

/- What the phases leave alone. -/

structure Settings where
  enable : EnableFlags
  exposed : Bool

def settings (m : Mirror) : Settings := ⟨m.enable, m.shouldExposeWebSocketState⟩

theorem deviceEnabled_settings {m n : Mirror} (h : n.settings = m.settings)
    (snapshot : DeviceSnapshot) :
    n.isDeviceSnapshotEnabled snapshot = m.isDeviceSnapshotEnabled snapshot := by
  have hf : n.enable = m.enable := congrArg Settings.enable h
  unfold isDeviceSnapshotEnabled
  rw [hf]

def besidesDevices (m : Mirror) :=
  (m.settings, m.usbClients, m.websocketAppClients, m.websocketWebClients)

def besidesClients (m : Mirror) :=
  (m.settings, m.devices, m.websocketAppClients, m.websocketWebClients)

def besidesWebSockets (target : WebSocketTarget) (m : Mirror) :=
  match target with
  | .app => (m.settings, m.devices, m.usbClients, m.websocketWebClients)
  | .web => (m.settings, m.devices, m.usbClients, m.websocketAppClients)

theorem upsertDevice_frame (m : Mirror) (snap : DeviceSnapshot) :
    (m.upsertDeviceSnapshot snap).besidesDevices = m.besidesDevices := by
  rcases m.upsertDevice_cases snap with ⟨-, hs⟩ | ⟨-, hs⟩
  · rw [hs]
  · rw [hs]
    rfl

theorem unregisterInternal_frame (m : Mirror) (sn : String) :
    (m.unregisterDeviceInternal sn).besidesDevices = m.besidesDevices := by
  rcases m.unregisterInternal_cases sn with ⟨-, hs⟩ | ⟨_, -, hs⟩
  · rw [hs]
  · rw [hs]
    rfl

theorem upsertClient_frame (m : Mirror) (snap : ClientSnapshot) :
    (m.upsertClientSnapshot snap).besidesClients = m.besidesClients := by
  rcases m.upsertClient_cases snap with ⟨-, hs⟩ | ⟨-, hs⟩
  · rw [hs]
  · rw [hs]
    rfl

theorem unregisterUsbInternal_frame (m : Mirror) (id : JsNumber) :
    (m.unregisterUsbClientInternal id).besidesClients = m.besidesClients := by
  rcases m.unregisterUsbInternal_cases id with ⟨-, hs⟩ | ⟨-, hs⟩
  · rw [hs]
  · rw [hs]
    rfl

theorem upsertWebSocket_frame (target : WebSocketTarget) (m : Mirror)
    (snap : WebSocketClientSnapshot) :
    (m.upsertWebSocketSnapshot target snap).besidesWebSockets target =
      m.besidesWebSockets target := by
  unfold upsertWebSocketSnapshot
  cases (m.websocketClients target).get? snap.id with
  | some _ => rfl
  | none => cases target <;> rfl

theorem removeWebSocket_frame (target : WebSocketTarget) (m : Mirror) (id : JsNumber) :
    (m.removeWebSocketClient target id).besidesWebSockets target = m.besidesWebSockets target := by
  cases target <;> rfl

/- The phases. -/

section DevicePhases
variable (m : Mirror) (snaps : List DeviceSnapshot) (active : List String)

theorem upsertDevices_has (k : String) : (m.upsertDeviceSnapshots snaps).devices.has k = true ↔
      m.devices.has k = true ∨ ∃ d ∈ snaps, m.isDeviceSnapshotEnabled d = true ∧ d.serial = k := by
  unfold upsertDeviceSnapshots
  rw [foldl_inserts Mirror.devices upsertDevice_upserts]
  simp [and_assoc]

variable {k : String} {p : Proxy DeviceSnapshot}

theorem upsertDevices_keeps (h : m.devices.get? k = some p) :
    (m.upsertDeviceSnapshots snaps).devices.get? k = some p :=
  foldl_keeps Mirror.devices upsertDevice_upserts h _

theorem upsertDevices_frame : (m.upsertDeviceSnapshots snaps).besidesDevices = m.besidesDevices :=
  foldl_same besidesDevices upsertDevice_frame m _

theorem upsertDevices_tells : Tells entersDevice m (m.upsertDeviceSnapshots snaps) :=
  announces_foldl upsertDevice_tells m _

theorem staleDevices_has (k : String) :
    (m.removeStaleDevices active).devices.has k = true ↔ m.devices.has k = true ∧ k ∈ active :=
  foldl_dropStale_keys Mirror.devices devices_unregisterInternal m k

theorem staleDevices_shrinks (h : (m.removeStaleDevices active).devices.get? k = some p) :
    m.devices.get? k = some p :=
  foldl_dropStale_shrinks Mirror.devices devices_unregisterInternal h

theorem staleDevices_frame : (m.removeStaleDevices active).besidesDevices = m.besidesDevices :=
  foldl_same besidesDevices (dropStale_same _ _ _ unregisterInternal_frame) m _

theorem staleDevices_tells : Tells leavesDevice m (m.removeStaleDevices active) :=
  announces_foldl (announces_dropStale unregisterInternal_tells) m _

end DevicePhases

section ClientPhases
variable (m : Mirror) (snaps : List ClientSnapshot)

theorem upsertClients_has (k : JsNumber) : (m.upsertClientSnapshots snaps).usbClients.has k = true ↔
      m.usbClients.has k = true ∨ ∃ c ∈ snaps, m.devices.has c.query.deviceId = true ∧ c.id = k := by
  unfold upsertClientSnapshots
  rw [foldl_inserts Mirror.usbClients upsertClient_upserts]
  simp [filterClientSnapshots, isClientSnapshotEnabled, and_assoc]

variable {k : JsNumber} {p : Proxy ClientSnapshot}

theorem upsertClients_keeps (h : m.usbClients.get? k = some p) :
    (m.upsertClientSnapshots snaps).usbClients.get? k = some p :=
  foldl_keeps Mirror.usbClients upsertClient_upserts h _

theorem upsertClients_frame : (m.upsertClientSnapshots snaps).besidesClients = m.besidesClients :=
  foldl_same besidesClients upsertClient_frame m _

theorem upsertClients_tells : Tells entersClient m (m.upsertClientSnapshots snaps) :=
  announces_foldl upsertClient_tells m _

def dropInactiveClients (m : Mirror) (active : List JsNumber) : Mirror :=
  m.usbClients.keys.foldl (dropStale unregisterUsbClientInternal active) m

theorem syncClients_eq : m.syncClientSnapshots snaps =
    (m.upsertClientSnapshots (m.filterClientSnapshots snaps)).dropInactiveClients
      ((m.filterClientSnapshots snaps).map ClientSnapshot.id) := rfl

/-- Which clients are there after `syncClientSnapshots`: the filter reads the device mirror
as it is at that moment, stale devices included. -/
theorem syncClients_has (k : JsNumber) :
    (m.syncClientSnapshots snaps).usbClients.has k = true ↔
      ∃ c ∈ snaps, m.devices.has c.query.deviceId = true ∧ c.id = k := by
  rw [syncClients_eq, dropInactiveClients,
    foldl_dropStale_keys Mirror.usbClients usbClients_unregisterUsbInternal, upsertClients_has]
  simp only [filterClientSnapshots, isClientSnapshotEnabled, List.mem_filter, List.mem_map]
  constructor
  · rintro ⟨-, c, ⟨mem, ht⟩, hs⟩
    exact ⟨c, mem, ht, hs⟩
  · rintro ⟨c, mem, ht, hs⟩
    exact ⟨.inr ⟨c, ⟨mem, ht⟩, ht, hs⟩, c, ⟨mem, ht⟩, hs⟩

theorem syncClients_same {q : Proxy ClientSnapshot} (hb : m.usbClients.get? k = some p)
    (ha : (m.syncClientSnapshots snaps).usbClients.get? k = some q) : q = p := by
  have hk := m.upsertClients_keeps (m.filterClientSnapshots snaps) hb
  have hl := foldl_dropStale_shrinks Mirror.usbClients usbClients_unregisterUsbInternal ha
  rw [hk] at hl
  exact (Option.some.inj hl).symm

theorem syncClients_frame : (m.syncClientSnapshots snaps).besidesClients = m.besidesClients := by
  have hd := foldl_same besidesClients (dropStale_same unregisterUsbClientInternal
    ((m.filterClientSnapshots snaps).map ClientSnapshot.id) besidesClients
    unregisterUsbInternal_frame)
  rw [syncClients_eq, dropInactiveClients, hd, upsertClients_frame]

theorem dropInactive_tells (active : List JsNumber) :
    Tells leavesClient m (m.dropInactiveClients active) :=
  announces_foldl (announces_dropStale unregisterUsbInternal_tells) m _

end ClientPhases

section WebSocketPhases
variable (m : Mirror) (snaps : List WebSocketClientSnapshot) (target : WebSocketTarget)

def dropInactiveWebSockets (m : Mirror) (active : List JsNumber) : Mirror :=
  (m.websocketClients target).keys.foldl (dropStale (removeWebSocketClient target) active) m

theorem syncWebSockets_eq : m.syncWebSocketSnapshots snaps target =
    dropInactiveWebSockets target (snaps.foldl (upsertWebSocketSnapshot target) m)
      (snaps.map WebSocketClientSnapshot.id) := rfl

theorem syncWebSockets_has (k : JsNumber) :
    ((m.syncWebSocketSnapshots snaps target).websocketClients target).has k = true ↔
      ∃ c ∈ snaps, c.id = k := by
  rw [syncWebSockets_eq, dropInactiveWebSockets,
    foldl_dropStale_keys (websocketClients target) (websocketClients_removeWebSocket target),
    foldl_inserts (websocketClients target) (upsertWebSocket_upserts target)]
  simp only [List.mem_map]
  tauto

variable {k : JsNumber} {p q : Proxy WebSocketClientSnapshot}

theorem syncWebSockets_same (hb : (m.websocketClients target).get? k = some p)
    (ha : ((m.syncWebSocketSnapshots snaps target).websocketClients target).get? k = some q) :
    q = p := by
  have hk := foldl_keeps (websocketClients target) (upsertWebSocket_upserts target) hb snaps
  have hl :=
    foldl_dropStale_shrinks (websocketClients target) (websocketClients_removeWebSocket target) ha
  exact Option.some.inj (hl.symm.trans hk)

theorem syncWebSockets_frame : (m.syncWebSocketSnapshots snaps target).besidesWebSockets target =
      m.besidesWebSockets target := by
  have hd := foldl_same (besidesWebSockets target) (dropStale_same (removeWebSocketClient target)
      (snaps.map WebSocketClientSnapshot.id) (besidesWebSockets target)
      (removeWebSocket_frame target))
  have hi := foldl_same (besidesWebSockets target) (upsertWebSocket_frame target) m snaps
  rw [syncWebSockets_eq, dropInactiveWebSockets, hd, hi]

theorem syncWebSockets_tells : Tells ofWebSocket m (m.syncWebSocketSnapshots snaps target) := by
  rw [syncWebSockets_eq]
  refine announces_trans (announces_foldl (upsertWebSocket_tells target) m snaps) ?_
  refine announces_dropStale_keys (websocketClients target) (removeWebSocket_tells target)
    (websocketClients_removeWebSocket target) _ (OrderedMap.nodup _) ?_
  exact fun key mem => OrderedMap.mem_keys_iff_has.mp mem

variable (sent : Option (List WebSocketClientSnapshot))

theorem syncExposed_cases : m.syncExposed sent target = m ∨
      ∃ snaps, sent = some snaps ∧ m.shouldExposeWebSocketState = true ∧
        m.syncExposed sent target = m.syncWebSocketSnapshots snaps target := by
  cases sent with
  | none => exact .inl rfl
  | some snaps =>
    cases he : m.shouldExposeWebSocketState with
    | false => exact .inl (by simp [syncExposed, he])
    | true => exact .inr ⟨snaps, rfl, rfl, by simp [syncExposed, he]⟩

theorem syncExposed_frame :
    (m.syncExposed sent target).besidesWebSockets target = m.besidesWebSockets target := by
  rcases m.syncExposed_cases target sent with hs | ⟨snaps, -, -, hs⟩
  · rw [hs]
  · rw [hs, syncWebSockets_frame]

theorem syncExposed_tells : Tells ofWebSocket m (m.syncExposed sent target) := by
  rcases m.syncExposed_cases target sent with hs | ⟨snaps, -, -, hs⟩
  · rw [hs]
    exact announces_nothing rfl (fun _ => rfl)
  · rw [hs]
    exact m.syncWebSockets_tells snaps target

theorem syncExposed_same (hb : (m.websocketClients target).get? k = some p)
    (ha : ((m.syncExposed sent target).websocketClients target).get? k = some q) : q = p := by
  rcases m.syncExposed_cases target sent with hs | ⟨snaps, -, -, hs⟩
  · rw [hs] at ha
    exact Option.some.inj (ha.symm.trans hb)
  · rw [hs] at ha
    exact m.syncWebSockets_same snaps target hb ha

end WebSocketPhases

end Mirror

end DebugRouter.Connector
