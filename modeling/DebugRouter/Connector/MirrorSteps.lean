import DebugRouter.Connector.Mirror
import DebugRouter.Library.Registry
import DebugRouter.Library.Runs

/-!
The steps a reconciliation is made of, one key at a time: what each does to its
collection, to the proxies already there and to the event log.
-/
namespace DebugRouter.Connector
open Library Protocol OrderedMap Event

inductive MirrorKey where
  | device (serial : String)
  | client (id : JsNumber)
  | websocket (target : WebSocketTarget) (id : JsNumber)
  | app (source : AppSource) (id : JsNumber)
  deriving DecidableEq

def Mirror.present (m : Mirror) : MirrorKey → Bool
  | .device serial => m.devices.has serial
  | .client id => m.usbClients.has id
  | .websocket target id => (m.websocketClients target).has id
  | .app .usb id => m.usbClients.has id
  | .app .websocket id => m.websocketAppClients.has id

def Event.change : Event → MirrorKey × Bool
  | .deviceConnected serial _ => (.device serial, true)
  | .deviceDisconnected serial _ => (.device serial, false)
  | .clientConnected id _ => (.client id, true)
  | .clientDisconnected id => (.client id, false)
  | .websocketClientConnected target id _ => (.websocket target id, true)
  | .websocketClientDisconnected target id => (.websocket target id, false)
  | .appClientConnected source id _ => (.app source id, true)
  | .appClientDisconnected source id => (.app source id, false)

/- The phases of an application, by the events they may emit. -/

def Event.entersDevice : Event → Prop
  | .deviceConnected .. => True
  | _ => False

def Event.entersClient : Event → Prop
  | .clientConnected .. => True
  | .appClientConnected .usb .. => True
  | _ => False

def Event.leavesClient : Event → Prop
  | .clientDisconnected .. => True
  | .appClientDisconnected .usb .. => True
  | _ => False

def Event.ofWebSocket : Event → Prop
  | .websocketClientConnected .. | .websocketClientDisconnected .. => True
  | .appClientConnected .websocket .. | .appClientDisconnected .websocket .. => True
  | _ => False

def Event.leavesDevice : Event → Prop
  | .deviceDisconnected .. => True
  | _ => False

abbrev Tells (allowed : Event → Prop) (m n : Mirror) : Prop :=
  Announces Mirror.events Mirror.present change allowed m n

namespace Mirror

/- Each step of the reconciliation is a case split on one key: it is there, or it is not. -/

section Devices
variable (m : Mirror) (snap : DeviceSnapshot) (serial : String)

theorem upsertDevice_cases : (m.devices.has snap.serial = true ∧ m.upsertDeviceSnapshot snap = m) ∨
    (m.devices.has snap.serial = false ∧ m.upsertDeviceSnapshot snap = { m with
        devices := m.devices.set snap.serial ⟨m.nextHandle, snap⟩
        nextHandle := m.nextHandle + 1
        events := m.events ++ [.deviceConnected snap.serial m.nextHandle] }) := by
  cases hf : m.devices.get? snap.serial with
  | some p => exact .inl ⟨by simp [has, hf], by simp [upsertDeviceSnapshot, hf]⟩
  | none => exact .inr ⟨by simp [has, hf], by simp [upsertDeviceSnapshot, registerDevice, emit, hf]⟩

theorem upsertDevice_upserts :
    m.devices.Upserts snap.serial (m.upsertDeviceSnapshot snap).devices := by
  rcases m.upsertDevice_cases snap with ⟨ht, hs⟩ | ⟨ha, hs⟩ <;> rw [hs]
  · exact .kept ht
  · exact .added ha

theorem upsertDevice_tells : Tells entersDevice m (m.upsertDeviceSnapshot snap) := by
  rcases m.upsertDevice_cases snap with ⟨-, hs⟩ | ⟨ha, hs⟩ <;> rw [hs]
  · exact announces_nothing rfl (fun _ => rfl)
  · refine announces_flips [.deviceConnected snap.serial m.nextHandle] rfl ?_ (by simp) ?_ ?_
    · simp [entersDevice]
    · simp [change, present, ha, has_set]
    · rintro (k | k | ⟨_ | _, k⟩ | ⟨_ | _, k⟩) ho <;> simp [present, websocketClients, has_set]
      rintro rfl
      simp [change] at ho

theorem unregisterInternal_cases :
    (m.devices.has serial = false ∧ m.unregisterDeviceInternal serial = m) ∨
    (∃ dv, m.devices.get? serial = some dv ∧ m.unregisterDeviceInternal serial = { m with
        devices := m.devices.delete serial
        events := m.events ++ [.deviceDisconnected serial dv.handle] }) := by
  cases hf : m.devices.get? serial with
  | none => exact .inl ⟨by simp [has, hf], by simp [unregisterDeviceInternal, hf]⟩
  | some dv => exact .inr ⟨dv, rfl, by simp [unregisterDeviceInternal, emit, hf]⟩

theorem devices_unregisterInternal :
    (m.unregisterDeviceInternal serial).devices = m.devices.delete serial := by
  rcases m.unregisterInternal_cases serial with ⟨ha, hs⟩ | ⟨dv, -, hs⟩ <;> rw [hs]
  exact (delete_of_missing (has_eq_false.mp ha)).symm

theorem unregisterInternal_tells : Tells leavesDevice m (m.unregisterDeviceInternal serial) := by
  rcases m.unregisterInternal_cases serial with ⟨-, hs⟩ | ⟨dv, hf, hs⟩ <;> rw [hs]
  · exact announces_nothing rfl (fun _ => rfl)
  · have ht : m.devices.has serial = true := has_iff.mpr ⟨dv, hf⟩
    refine announces_flips [.deviceDisconnected serial dv.handle] rfl ?_ (by simp) ?_ ?_
    · simp [leavesDevice]
    · simp [change, present, ht, has_delete]
    · rintro (k | k | ⟨_ | _, k⟩ | ⟨_ | _, k⟩) ho <;> simp [present, websocketClients, has_delete]
      rintro - rfl
      simp [change] at ho

end Devices

section Clients
variable (m : Mirror) (snap : ClientSnapshot) (id : JsNumber)

theorem upsertClient_cases : (m.usbClients.has snap.id = true ∧ m.upsertClientSnapshot snap = m) ∨
    (m.usbClients.has snap.id = false ∧ m.upsertClientSnapshot snap = { m with
        usbClients := m.usbClients.set snap.id ⟨m.nextHandle, snap⟩
        nextHandle := m.nextHandle + 1
        events := m.events ++ [.clientConnected snap.id m.nextHandle,
          .appClientConnected .usb snap.id m.nextHandle] }) := by
  cases hf : m.usbClients.get? snap.id with
  | some p => exact .inl ⟨by simp [has, hf], by simp [upsertClientSnapshot, hf]⟩
  | none => exact .inr ⟨by simp [has, hf], by simp [upsertClientSnapshot, regiserUsbClient, emit, hf]⟩

theorem upsertClient_upserts :
    m.usbClients.Upserts snap.id (m.upsertClientSnapshot snap).usbClients := by
  rcases m.upsertClient_cases snap with ⟨ht, hs⟩ | ⟨ha, hs⟩ <;> rw [hs]
  · exact .kept ht
  · exact .added ha

theorem upsertClient_tells : Tells entersClient m (m.upsertClientSnapshot snap) := by
  rcases m.upsertClient_cases snap with ⟨-, hs⟩ | ⟨hab, hs⟩ <;> rw [hs]
  · exact announces_nothing rfl (fun _ => rfl)
  · refine announces_flips [.clientConnected snap.id m.nextHandle,
      .appClientConnected .usb snap.id m.nextHandle] rfl ?_ (by simp [change]) ?_ ?_
    · simp [entersClient]
    · simp [change, present, hab, has_set]
    · rintro (k | k | ⟨_ | _, k⟩ | ⟨_ | _, k⟩) ho <;> simp [present, websocketClients, has_set] <;>
        rintro rfl <;> simp [change] at ho

theorem unregisterUsbInternal_cases :
    (m.usbClients.has id = false ∧ m.unregisterUsbClientInternal id = m) ∨
    (m.usbClients.has id = true ∧ m.unregisterUsbClientInternal id = { m with
        selectedClient := if m.selectedClient = some id then none else m.selectedClient
        usbClients := m.usbClients.delete id
        events := m.events ++ [.clientDisconnected id, .appClientDisconnected .usb id] }) := by
  cases hf : m.usbClients.get? id with
  | none => exact .inl ⟨by simp [has, hf], by simp [unregisterUsbClientInternal, hf]⟩
  | some cl => exact .inr ⟨by simp [has, hf], by simp [unregisterUsbClientInternal, emit, hf]⟩

theorem usbClients_unregisterUsbInternal :
    (m.unregisterUsbClientInternal id).usbClients = m.usbClients.delete id := by
  rcases m.unregisterUsbInternal_cases id with ⟨ha, hs⟩ | ⟨-, hs⟩ <;> rw [hs]
  exact (delete_of_missing (has_eq_false.mp ha)).symm

theorem unregisterUsbInternal_tells : Tells leavesClient m (m.unregisterUsbClientInternal id) := by
  rcases m.unregisterUsbInternal_cases id with ⟨-, hs⟩ | ⟨ht, hs⟩ <;> rw [hs]
  · exact announces_nothing rfl (fun _ => rfl)
  · refine announces_flips [.clientDisconnected id, .appClientDisconnected .usb id] rfl ?_
      (by simp [change]) ?_ ?_
    · simp [leavesClient]
    · simp [change, present, ht, has_delete]
    · rintro (k | k | ⟨_ | _, k⟩ | ⟨_ | _, k⟩) ho <;> simp [present, websocketClients, has_delete] <;>
        rintro - rfl <;> simp [change] at ho

end Clients

section WebSockets
variable (tgt : WebSocketTarget) (m : Mirror) (snap : WebSocketClientSnapshot) (id : JsNumber)

theorem upsertWebSocket_upserts : (m.websocketClients tgt).Upserts snap.id
    ((m.upsertWebSocketSnapshot tgt snap).websocketClients tgt) := by
  unfold upsertWebSocketSnapshot
  cases hf : (m.websocketClients tgt).get? snap.id with
  | some p => exact .kept (has_iff.mpr ⟨p, hf⟩)
  | none => cases tgt <;> exact .added (has_eq_false.mpr hf)

theorem upsertWebSocket_tells : Tells ofWebSocket m (m.upsertWebSocketSnapshot tgt snap) := by
  unfold upsertWebSocketSnapshot
  cases hf : (m.websocketClients tgt).get? snap.id with
  | some p => exact announces_nothing rfl (fun _ => rfl)
  | none =>
    have hab : (m.websocketClients tgt).has snap.id = false := has_eq_false.mpr hf
    cases tgt with
    | app =>
      refine announces_flips [.websocketClientConnected .app snap.id m.nextHandle,
        .appClientConnected .websocket snap.id m.nextHandle] (by simp [emit, setWebsocketClients])
        ?_ (by simp [change]) ?_ ?_
      · simp [ofWebSocket]
      · simpa [change, present, emit, setWebsocketClients, websocketClients, has_set] using hab
      · rintro (k | k | ⟨_ | _, k⟩ | ⟨_ | _, k⟩) ho <;>
          simp [present, emit, setWebsocketClients, websocketClients, has_set] <;>
          rintro rfl <;> simp [change] at ho
    | web =>
      refine announces_flips [.websocketClientConnected .web snap.id m.nextHandle]
        (by simp [emit, setWebsocketClients]) ?_ (by simp) ?_ ?_
      · simp [ofWebSocket]
      · simpa [change, present, emit, setWebsocketClients, websocketClients, has_set] using hab
      · rintro (k | k | ⟨_ | _, k⟩ | ⟨_ | _, k⟩) ho <;>
          simp [present, emit, setWebsocketClients, websocketClients, has_set]
        rintro rfl
        simp [change] at ho

theorem websocketClients_removeWebSocket :
    (m.removeWebSocketClient tgt id).websocketClients tgt = (m.websocketClients tgt).delete id := by
  cases tgt <;> rfl

theorem removeWebSocket_tells (h : (m.websocketClients tgt).has id = true) :
    Tells ofWebSocket m (m.removeWebSocketClient tgt id) := by
  cases tgt with
  | app =>
    refine announces_flips [.websocketClientDisconnected .app id,
      .appClientDisconnected .websocket id]
      (by simp [removeWebSocketClient, emit, setWebsocketClients]) ?_ (by simp [change]) ?_ ?_
    · simp [ofWebSocket]
    · simpa [change, present, removeWebSocketClient, emit, setWebsocketClients, websocketClients,
        has_delete] using h
    · rintro (k | k | ⟨_ | _, k⟩ | ⟨_ | _, k⟩) ho <;>
        simp [present, removeWebSocketClient, emit, setWebsocketClients, websocketClients,
          has_delete] <;>
        rintro - rfl <;> simp [change] at ho
  | web =>
    refine announces_flips [.websocketClientDisconnected .web id]
      (by simp [removeWebSocketClient, emit, setWebsocketClients]) ?_ (by simp) ?_ ?_
    · simp [ofWebSocket]
    · simpa [change, present, removeWebSocketClient, emit, setWebsocketClients, websocketClients,
        has_delete] using h
    · rintro (k | k | ⟨_ | _, k⟩ | ⟨_ | _, k⟩) ho <;>
        simp [present, removeWebSocketClient, emit, setWebsocketClients, websocketClients, has_delete]
      rintro - rfl
      simp [change] at ho

end WebSockets

end Mirror

end DebugRouter.Connector
