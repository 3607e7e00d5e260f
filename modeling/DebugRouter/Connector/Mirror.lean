import DebugRouter.Protocol.Snapshot

/-!
The facade's mirrors of devices and clients (`DebugRouterConnector`): how a snapshot and
an RPC result are reconciled with them, and the events emitted on the way. Listeners are
taken not to call back into the facade.
-/
namespace DebugRouter.Connector
open Library Protocol

inductive DeviceOS where
  | android | iOS | harmony | mac | windows | linux | network
  deriving DecidableEq

def DeviceOS.ofString? : String → Option DeviceOS
  | "Android" => some .android
  | "iOS" => some .iOS
  | "Harmony" => some .harmony
  | "Mac" => some .mac
  | "Windows" => some .windows
  | "Linux" => some .linux
  | "Network" => some .network
  | _ => none

inductive WebSocketTarget where
  | app | web
  deriving DecidableEq

/-- A proxy object: `handle` is its identity, `snapshot` what it was made from. -/
structure Proxy (α : Type) where
  handle : Nat
  snapshot : α
  deriving DecidableEq

/- The unified app-client events carry the client or its id; the collection it belongs to
is kept beside it, since ids of the two collections are not compared by the facade. -/

inductive AppSource where
  | usb | websocket
  deriving DecidableEq

inductive Event where
  | deviceConnected (serial : String) (handle : Nat)
  | deviceDisconnected (serial : String) (handle : Nat)
  | clientConnected (id : JsNumber) (handle : Nat)
  | clientDisconnected (id : JsNumber)
  | websocketClientConnected (target : WebSocketTarget) (id : JsNumber) (handle : Nat)
  | websocketClientDisconnected (target : WebSocketTarget) (id : JsNumber)
  | appClientConnected (source : AppSource) (id : JsNumber) (handle : Nat)
  | appClientDisconnected (source : AppSource) (id : JsNumber)
  deriving DecidableEq

structure EnableFlags where
  enableAndroid : Bool
  enableIOS : Bool
  enableHarmony : Bool
  enableDesktop : Bool
  enableNetworkDevice : Bool
  deriving DecidableEq

structure Mirror where
  enable : EnableFlags
  closed : Bool
  enableWebSocket : Bool
  wssStarted : Bool
  desiredWSServerStarted : Bool
  devices : OrderedMap String (Proxy DeviceSnapshot)
  usbClients : OrderedMap JsNumber (Proxy ClientSnapshot)
  websocketAppClients : OrderedMap JsNumber (Proxy WebSocketClientSnapshot)
  websocketWebClients : OrderedMap JsNumber (Proxy WebSocketClientSnapshot)
  selectedClient : Option JsNumber
  nextHandle : Nat
  events : List Event
  deriving DecidableEq

namespace Mirror

def emit (m : Mirror) (event : Event) : Mirror := { m with events := m.events ++ [event] }

def shouldExposeWebSocketState (m : Mirror) : Bool :=
  !m.closed && m.enableWebSocket && (m.wssStarted || m.desiredWSServerStarted)

def isDeviceSnapshotEnabled (m : Mirror) (snapshot : DeviceSnapshot) : Bool :=
  match DeviceOS.ofString? snapshot.os with
  | some .android => m.enable.enableAndroid
  | some .iOS => m.enable.enableIOS
  | some .harmony => m.enable.enableHarmony
  | some .mac | some .windows | some .linux => m.enable.enableDesktop
  | some .network => m.enable.enableNetworkDevice
  | none => true

def isClientSnapshotEnabled (m : Mirror) (snapshot : ClientSnapshot) : Bool :=
  m.devices.has snapshot.query.deviceId

def registerDevice (m : Mirror) (device : Proxy DeviceSnapshot) : Mirror :=
  match m.devices.get? device.snapshot.serial with
  | some _ => m
  | none =>
    { m with devices := m.devices.set device.snapshot.serial device }.emit
      (.deviceConnected device.snapshot.serial device.handle)

def upsertDeviceSnapshot (m : Mirror) (snapshot : DeviceSnapshot) : Mirror :=
  match m.devices.get? snapshot.serial with
  | some _ => m
  | none => { m with nextHandle := m.nextHandle + 1 }.registerDevice ⟨m.nextHandle, snapshot⟩

def upsertDeviceSnapshots (m : Mirror) (snapshots : List DeviceSnapshot) : Mirror :=
  (snapshots.filter m.isDeviceSnapshotEnabled).foldl upsertDeviceSnapshot m

/-- Returns the serials that stay active beside the new mirror. -/
def upsertDeviceSnapshotState (m : Mirror) (snapshots : List DeviceSnapshot) : List String × Mirror :=
  let enabledSnapshots := snapshots.filter m.isDeviceSnapshotEnabled
  (enabledSnapshots.map DeviceSnapshot.serial, m.upsertDeviceSnapshots enabledSnapshots)

def filterClientSnapshots (m : Mirror) (snapshots : List ClientSnapshot) : List ClientSnapshot :=
  snapshots.filter m.isClientSnapshotEnabled

def regiserUsbClient (m : Mirror) (client : Proxy ClientSnapshot) : Mirror :=
  match m.usbClients.get? client.snapshot.id with
  | some _ => m
  | none =>
    ({ m with usbClients := m.usbClients.set client.snapshot.id client }.emit
      (.clientConnected client.snapshot.id client.handle)).emit
      (.appClientConnected .usb client.snapshot.id client.handle)

def upsertClientSnapshot (m : Mirror) (snapshot : ClientSnapshot) : Mirror :=
  match m.usbClients.get? snapshot.id with
  | some _ => m
  | none => { m with nextHandle := m.nextHandle + 1 }.regiserUsbClient ⟨m.nextHandle, snapshot⟩

def upsertClientSnapshots (m : Mirror) (snapshots : List ClientSnapshot) : Mirror :=
  (m.filterClientSnapshots snapshots).foldl upsertClientSnapshot m

def unregisterUsbClientInternal (m : Mirror) (id : JsNumber) : Mirror :=
  match m.usbClients.get? id with
  | none => m
  | some _ =>
    ({ m with
        selectedClient := if m.selectedClient = some id then none else m.selectedClient
        usbClients := m.usbClients.delete id }.emit
      (.clientDisconnected id)).emit (.appClientDisconnected .usb id)

def syncClientSnapshots (m : Mirror) (snapshots : List ClientSnapshot) : Mirror :=
  let enabledSnapshots := m.filterClientSnapshots snapshots
  let activeIds := enabledSnapshots.map ClientSnapshot.id
  let m := m.upsertClientSnapshots enabledSnapshots
  m.usbClients.keys.foldl (fun m id => if id ∈ activeIds then m
    else m.unregisterUsbClientInternal id) m

/- App and Driver collections have their own maps; only app runtimes also take part in the
unified app-client events. -/

def websocketClients (target : WebSocketTarget) (m : Mirror) :
    OrderedMap JsNumber (Proxy WebSocketClientSnapshot) :=
  match target with
  | .app => m.websocketAppClients
  | .web => m.websocketWebClients

def setWebsocketClients (m : Mirror) (target : WebSocketTarget)
    (clients : OrderedMap JsNumber (Proxy WebSocketClientSnapshot)) : Mirror :=
  match target with
  | .app => { m with websocketAppClients := clients }
  | .web => { m with websocketWebClients := clients }

def upsertWebSocketSnapshot (target : WebSocketTarget) (m : Mirror)
    (snapshot : WebSocketClientSnapshot) : Mirror :=
  match (m.websocketClients target).get? snapshot.id with
  | some _ => m
  | none =>
    let clients := (m.websocketClients target).set snapshot.id ⟨m.nextHandle, snapshot⟩
    let connected := ({ m with nextHandle := m.nextHandle + 1 }.setWebsocketClients
      target clients).emit (.websocketClientConnected target snapshot.id m.nextHandle)
    match target with
    | .app => connected.emit (.appClientConnected .websocket snapshot.id m.nextHandle)
    | .web => connected

def removeWebSocketClient (target : WebSocketTarget) (m : Mirror) (id : JsNumber) : Mirror :=
  let removed := (m.setWebsocketClients target ((m.websocketClients target).delete id)).emit
    (.websocketClientDisconnected target id)
  match target with
  | .app => removed.emit (.appClientDisconnected .websocket id)
  | .web => removed

def syncWebSocketSnapshots (m : Mirror) (snapshots : List WebSocketClientSnapshot)
    (target : WebSocketTarget) : Mirror :=
  let activeIds := snapshots.map WebSocketClientSnapshot.id
  let m := snapshots.foldl (upsertWebSocketSnapshot target) m
  (m.websocketClients target).keys.foldl
    (fun m id => if id ∈ activeIds then m else m.removeWebSocketClient target id) m

/-- `device.disconnect()` is only called when forced, which no snapshot does. -/
def unregisterDeviceInternal (m : Mirror) (serial : String) : Mirror :=
  match m.devices.get? serial with
  | none => m
  | some device =>
    { m with devices := m.devices.delete serial }.emit (.deviceDisconnected serial device.handle)

def removeStaleDevices (m : Mirror) (activeSerials : List String) : Mirror :=
  m.devices.keys.foldl (fun m serial => if serial ∈ activeSerials then m
    else m.unregisterDeviceInternal serial) m

/-- A collection is reconciled when the facade exposes it and the Host sent it. -/
def syncExposed (m : Mirror) (snapshots : Option (List WebSocketClientSnapshot))
    (target : WebSocketTarget) : Mirror :=
  match snapshots with
  | some snapshots =>
    if m.shouldExposeWebSocketState then m.syncWebSocketSnapshots snapshots target else m
  | none => m

def applySnapshot (m : Mirror) (snapshot : Snapshot) : Mirror :=
  let (activeDeviceSerials, m) := m.upsertDeviceSnapshotState snapshot.devices
  let m := m.syncClientSnapshots snapshot.clients
  let m := m.syncExposed snapshot.websocketAppClients .app
  let m := m.syncExposed snapshot.websocketWebClients .web
  m.removeStaleDevices activeDeviceSerials

end Mirror

end DebugRouter.Connector
