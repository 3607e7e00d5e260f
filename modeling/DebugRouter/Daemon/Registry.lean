import DebugRouter.Daemon.Message

/-!
What the Host knows of its peers: devices, USB and WebSocket clients, connected controls and
the legacy ownership that decides what they may see. What runtimes and devices report about
themselves is kept as it arrived, so it can be any JSON value.
-/
namespace DebugRouter.Daemon

open Library OrderedMap

inductive LegacyOwnershipStatus where
  | attached | unattached | unInit
  deriving DecidableEq

structure Device where
  os : String
  title : Option Json
  serial : String
  ports : List Double
  host : String
  deriving DecidableEq

structure ClientQuery where
  app : Json
  os : String
  device : Option Json
  deviceModel : Json
  deviceId : String
  sdkVersion : Json
  rawInfo : Json
  deriving DecidableEq

structure UsbClient where
  port : UInt16
  id : Int
  query : ClientQuery
  deriving DecidableEq

structure WebSocketClientInfo where
  id : Int
  app : Json
  debugRouterVersion : Json
  deviceModel : Json
  osVersion : Json
  sdkVersion : Json
  type : Option Json
  rawInfo : Option Json
  deriving DecidableEq

def WebSocketClientInfo.isDriver (info : WebSocketClientInfo) : Bool :=
  info.type = some (.str "Driver")

/-- `webClients` are the Drivers; every other client is an app. -/
structure WebSocketController where
  appClients : OrderedMap Int WebSocketClientInfo
  webClients : OrderedMap Int WebSocketClientInfo
  apps : appClients.All fun id info => info.id = id ∧ info.isDriver = false
  drivers : webClients.All fun id info => info.id = id ∧ info.isDriver = true

namespace WebSocketController

def empty : WebSocketController := ⟨.empty, .empty, all_empty, all_empty⟩

def add (controller : WebSocketController) (info : WebSocketClientInfo) : WebSocketController :=
  if driver : info.isDriver then
    { controller with
        webClients := controller.webClients.set info.id info
        drivers := controller.drivers.set ⟨rfl, driver⟩ }
  else
    { controller with
        appClients := controller.appClients.set info.id info
        apps := controller.apps.set ⟨rfl, by simpa using driver⟩ }

def removeApp (controller : WebSocketController) (id : Int) : WebSocketController :=
  { controller with
      appClients := controller.appClients.delete id
      apps := controller.apps.delete id }

def removeWeb (controller : WebSocketController) (id : Int) : WebSocketController :=
  { controller with
      webClients := controller.webClients.delete id
      drivers := controller.drivers.delete id }

end WebSocketController

structure WebSocketServerInfo where
  port : UInt16
  host : String
  roomId : Option String
  deriving DecidableEq

/-- The Host's `webSocketController`, `webSocketServerStarting`, `webSocketServerStarted` and
`webSocketServerInfo`. A starting server has the calls that wait for it and a controller from the
moment it is `created` until the start fails; clients connect once it is started. Sockets that were
given an id and have not registered yet are `unregistered`. -/
inductive WebSocketServer where
  | stopped
  | starting (waiting : List (Nat × Nat)) (created : Bool)
  | started (info : WebSocketServerInfo) (controller : WebSocketController) (unregistered : List Int)

/-- `createSnapshot` before serialization; the collections are absent without a controller. -/
structure HostSnapshot where
  devices : List Device
  clients : List UsbClient
  websocketAppClients : Option (List WebSocketClientInfo)
  websocketWebClients : Option (List WebSocketClientInfo)
  deriving DecidableEq

/-- `connectDevices` and `connectUsbClients` wait for the physical layer, then answer. -/
inductive PendingCall where
  | connectDevices (serial : Option String) (found : Option (List Device))
  | connectUsbClients (deviceId : String) (found : Option (List UsbClient))

/-- `controls` are the open control connections, each with the last snapshot sent to it. -/
structure Registry where
  ownership : LegacyOwnershipStatus
  enableWebSocket : Bool
  devices : OrderedMap String Device
  usbClients : OrderedMap Int UsbClient
  nextClientId : Nat
  server : WebSocketServer
  controls : OrderedMap Nat (Option HostSnapshot)
  nextControlId : Nat
  webSocketRequesterControlIds : List Nat
  calls : OrderedMap (Nat × Nat) PendingCall
  devicesBySerial : devices.All fun serial device => device.serial = serial
  usbClientsById : usbClients.All fun id client => client.id = id

structure RpcError where
  code : String
  message : String
  deriving DecidableEq

inductive MessageSource where
  | usbRuntime | websocketRuntime | websocketDriver
  deriving DecidableEq

inductive ControlEvent where
  | snapshot (snapshot : HostSnapshot)
  | clientMessage (source : MessageSource) (id : Int) (message : String)
  | legacyOwnershipChanged (attached : Bool)
  deriving DecidableEq

inductive RpcResult where
  | devices (devices : List Device)
  | clients (clients : List UsbClient)
  | serverInfo (info : WebSocketServerInfo)
  | done
  deriving DecidableEq

structure ClientListEntry where
  id : Int
  type : Option Json
  info : Json
  network : String
  deriving DecidableEq

/-- What the Host sends. `settled` answers a control's `sendMessageWithReply` call. -/
inductive Output where
  | event (controlId : Nat) (event : ControlEvent)
  | response (controlId rpcId : Nat) (result : Except RpcError RpcResult)
  | web (webClientId : Int) (message : String)
  | clientList (webClientId : Int) (entries : List ClientListEntry)
  | runtime (clientId : Int) (message : Json)
  | settled (controlId promise : Nat) (result : Except RpcError Json)

namespace Registry
variable (r : Registry)

theorem byId_empty : (empty : OrderedMap Int UsbClient).All fun id cl => cl.id = id := all_empty

def initial (enableWebSocket : Bool) : Registry where
  ownership := .unInit
  enableWebSocket := enableWebSocket
  devices := .empty
  usbClients := .empty
  nextClientId := 0
  server := .stopped
  controls := .empty
  nextControlId := 1
  webSocketRequesterControlIds := []
  calls := .empty
  devicesBySerial := all_empty
  usbClientsById := byId_empty

def legacyOwnershipAttached : Bool := r.ownership = .attached

def webSocketController : Option WebSocketController :=
  match r.server with
  | .stopped | .starting _ false => none
  | .starting _ true => some .empty
  | .started _ controller _ => some controller

def webSocketServerStarted : Bool :=
  match r.server with
  | .started _ _ _ => true
  | _ => false

def appClients : OrderedMap Int WebSocketClientInfo :=
  (r.webSocketController.map WebSocketController.appClients).getD .empty

def webClients : OrderedMap Int WebSocketClientInfo :=
  (r.webSocketController.map WebSocketController.webClients).getD .empty

def createSnapshot : HostSnapshot where
  devices := if r.legacyOwnershipAttached then r.devices.values else []
  clients := if r.legacyOwnershipAttached then r.usbClients.values else []
  websocketAppClients := r.webSocketController.map fun controller =>
    if r.legacyOwnershipAttached then controller.appClients.values else []
  websocketWebClients := r.webSocketController.map fun controller => controller.webClients.values

def getAllUsbClients : List UsbClient :=
  if r.legacyOwnershipAttached then r.usbClients.values else []

def wifiEntry (info : WebSocketClientInfo) : ClientListEntry where
  id := info.id
  type := info.type
  info := .obj ((info.rawInfo.map spread).getD [] ++ [("network", .str "WiFi")])
  network := "WiFi"

def usbEntry (client : UsbClient) : ClientListEntry where
  id := client.id
  type := some (.str "runtime")
  info := .obj (spread client.query.rawInfo ++
    (client.query.device.map fun title => ("deviceName", title)).toList ++
    [("osType", .str client.query.os), ("deviceModel", client.query.deviceModel),
      ("network", .str "USB")])
  network := "USB"

/-- `handleListClients` of one Driver: all runtimes but a client with its own id. -/
def clientList (webClientId : Int) : List ClientListEntry :=
  (r.appClients.values.map wifiEntry ++ r.getAllUsbClients.map usbEntry).filter (·.id ≠ webClientId)

def sendClientList : List Output :=
  (r.webClients.values.filter WebSocketClientInfo.isDriver).map fun info =>
    .clientList info.id (r.clientList info.id)

/-- `sendSnapshot(controlIds)`; a control without a connection gets nothing. -/
def sendSnapshot (controlIds : List Nat) : Registry × List Output :=
  ({ r with
      controls := r.controls.mapEntries fun id last =>
        if id ∈ controlIds then some r.createSnapshot else last },
    (controlIds.filter r.controls.has).map fun id => .event id (.snapshot r.createSnapshot))

def broadcastSnapshot : Registry × List Output := r.sendSnapshot r.controls.keys

def publishClientSnapshot : Registry × List Output :=
  let (sent, events) := r.broadcastSnapshot
  (sent, r.sendClientList ++ events)

def broadcast (event : ControlEvent) : List Output := r.controls.keys.map fun id => .event id event

def sendToControl (controlId : Nat) (event : ControlEvent) : List Output :=
  if r.controls.has controlId then [.event controlId event] else []

/-- The answer to an RPC, if its control is still connected. -/
def respond (controlId rpcId : Nat) (result : Except RpcError RpcResult) : List Output :=
  if r.controls.has controlId then [.response controlId rpcId result] else []

def sendToWebSocketRequesters (event : ControlEvent) : List Output :=
  r.webSocketRequesterControlIds.flatMap fun id => r.sendToControl id event

def sendMessageToWeb (message : String) : List Output :=
  if r.enableWebSocket then r.webClients.keys.map fun id => .web id message else []

def sendMessageToWebClient (webClientId : Int) (message : String) : List Output :=
  if r.enableWebSocket ∧ r.webClients.has webClientId = true then [.web webClientId message] else []

/-- The id counter stops at its limit; every later client gets `-1`. -/
def createClientId : Registry × Int :=
  if 4294967294 < r.nextClientId then (r, -1)
  else ({ r with nextClientId := r.nextClientId + 1 }, r.nextClientId + 1)

end Registry

/- What a snapshot lists -/

namespace HostSnapshot

def serials (s : HostSnapshot) : List String := s.devices.map Device.serial

def clientIds (s : HostSnapshot) : List Int := s.clients.map UsbClient.id

def appIds (s : HostSnapshot) : List Int := (s.websocketAppClients.getD []).map WebSocketClientInfo.id

def webIds (s : HostSnapshot) : List Int := (s.websocketWebClients.getD []).map WebSocketClientInfo.id

end HostSnapshot

namespace Registry
variable (r : Registry)

theorem serials_snapshot :
    r.createSnapshot.serials = if r.legacyOwnershipAttached then r.devices.keys else [] := by
  unfold HostSnapshot.serials createSnapshot
  split
  · exact r.devicesBySerial.map_values
  · rfl

theorem clientIds_snapshot :
    r.createSnapshot.clientIds = if r.legacyOwnershipAttached then r.usbClients.keys else [] := by
  unfold HostSnapshot.clientIds createSnapshot
  split
  · exact r.usbClientsById.map_values
  · rfl

theorem map_id_appClients : r.appClients.values.map WebSocketClientInfo.id = r.appClients.keys := by
  unfold appClients
  cases r.webSocketController with
  | none => rfl
  | some ctl => exact OrderedMap.All.map_values fun id i hf => (ctl.apps id i hf).1

theorem appIds_snapshot :
    r.createSnapshot.appIds = if r.legacyOwnershipAttached then r.appClients.keys else [] := by
  rw [← map_id_appClients]
  unfold HostSnapshot.appIds createSnapshot appClients
  cases r.webSocketController <;> split <;> rfl

theorem webIds_snapshot : r.createSnapshot.webIds = r.webClients.keys := by
  unfold HostSnapshot.webIds createSnapshot webClients
  cases r.webSocketController with
  | none => rfl
  | some ctl => exact OrderedMap.All.map_values fun id i hf => (ctl.drivers id i hf).1

variable {r}

theorem clients_not_started (h : r.webSocketServerStarted = false) :
    r.appClients = .empty ∧ r.webClients = .empty := by
  unfold webSocketServerStarted at h
  unfold appClients webClients webSocketController
  cases hs : r.server with
  | stopped => exact ⟨rfl, rfl⟩
  | starting waiting created => cases created <;> exact ⟨rfl, rfl⟩
  | started i ctl unreg => simp [hs] at h

end Registry

end DebugRouter.Daemon
