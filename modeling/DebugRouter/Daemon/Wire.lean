import DebugRouter.Daemon.Registry
import DebugRouter.Protocol.Validation

/-!
The Host's snapshots and results as the JSON that a control receives, and what its validators
say of them: a message is accepted exactly when every device and client in it is presentable.
-/
namespace DebugRouter.Daemon

open Library Protocol Json

structure DebugInfo where
  clientVersion : Option String
  daemonVersion : Option String

structure Stamp where
  protocolVersion : Double
  processId : Double
  generatedAt : Double
  sentAt : Double
  debugInfo : Option DebugInfo

def number (x : Double) : Json := .num (.finite x)

def createDebugInfo (stamp : Stamp) (timestamp : Double) : Option Json :=
  stamp.debugInfo.map fun info => mk
    [("clientVersion", info.clientVersion.map .str), ("daemonVersion", info.daemonVersion.map .str),
      ("protocolVersion", some (number stamp.protocolVersion)),
      ("processId", some (number stamp.processId)), ("timestamp", some (number timestamp))]

def serializeDevice (device : Device) : Json := mk
  [("os", some (.str device.os)), ("title", device.title), ("serial", some (.str device.serial)),
    ("ports", some (.arr (device.ports.map number))), ("host", some (.str device.host))]

def serializeQuery (query : ClientQuery) : Json := mk
  [("app", some query.app), ("os", some (.str query.os)), ("device", query.device),
    ("device_model", some query.deviceModel), ("device_id", some (.str query.deviceId)),
    ("sdk_version", some query.sdkVersion), ("raw_info", some query.rawInfo)]

def serializeClient (client : UsbClient) : Json := mk
  [("port", some (ofInt client.port.toNat)), ("id", some (ofInt client.id)),
    ("query", some (serializeQuery client.query))]

/-- A copy of `raw_info` that went through its text, or `null`. -/
def serializeWebSocketClient (info : WebSocketClientInfo) : Json := mk
  [("id", some (ofInt info.id)), ("app", some info.app),
    ("debugRouterVersion", some info.debugRouterVersion), ("deviceModel", some info.deviceModel),
    ("network", some (.str "WiFi")), ("osVersion", some info.osVersion),
    ("sdkVersion", some info.sdkVersion), ("type", info.type),
    ("raw_info", some ((info.rawInfo.map normalize).getD .null))]

def serializeSnapshot (stamp : Stamp) (s : HostSnapshot) : Json := mk
  [("protocolVersion", some (number stamp.protocolVersion)),
    ("generatedAt", some (number stamp.generatedAt)),
    ("devices", some (.arr (s.devices.map serializeDevice))),
    ("clients", some (.arr (s.clients.map serializeClient))),
    ("debugInfo", createDebugInfo stamp stamp.generatedAt),
    ("websocketAppClients",
      s.websocketAppClients.map fun apps => .arr (apps.map serializeWebSocketClient)),
    ("websocketWebClients",
      s.websocketWebClients.map fun web => .arr (web.map serializeWebSocketClient))]

def serializeServerInfo (info : WebSocketServerInfo) : Json := mk
  [("port", some (ofInt info.port.toNat)), ("host", some (.str info.host)),
    ("roomId", info.roomId.map .str)]

def snapshotEvent (stamp : Stamp) (s : HostSnapshot) : Json := mk
  [("kind", some (.str "event")), ("event", some (.str "snapshot")),
    ("data", some (serializeSnapshot stamp s)), ("debugInfo", createDebugInfo stamp stamp.sentAt)]

def rpcResponse (stamp : Stamp) (id : Double) (result : Json) : Json := mk
  [("kind", some (.str "rpc-response")), ("id", some (number id)), ("ok", some (.bool true)),
    ("result", some result), ("debugInfo", createDebugInfo stamp stamp.sentAt)]

def received (guard : Json → Bool) (message : Json) : Bool :=
  (JsonText.parse (JsonText.stringify message)).any guard

/- What the validators look at -/

def Device.presentable (device : Device) : Bool := device.title.any isString

def ClientQuery.presentable (query : ClientQuery) : Bool :=
  isString query.app && query.device.any isString && isString query.deviceModel &&
    isString query.sdkVersion

def WebSocketClientInfo.presentable (info : WebSocketClientInfo) : Bool :=
  isString info.app && isString info.debugRouterVersion && isString info.deviceModel &&
    isString info.osVersion && isString info.sdkVersion && info.type.any isString

theorem isRecord_mk (fs : List (String × Option Json)) : isRecord (mk fs) = true := rfl

theorem isNumber_number (x : Double) : isNumber (number x) = true := rfl

theorem isDevice_serializeDevice (dv : Device) :
    isDeviceSnapshot (serializeDevice dv) = dv.presentable := by
  simp [isDeviceSnapshot, serializeDevice, isRecord_mk, required, isNumberArray, isArrayOf, isString,
    isNumber_number, Device.presentable]

theorem isQuery_serializeQuery (q : ClientQuery) : isQuery (serializeQuery q) = q.presentable := by
  simp [isQuery, serializeQuery, isRecord_mk, required, Protocol.optional, ClientQuery.presentable,
    isString]

theorem isNumber_port (port : UInt16) : isNumber (ofInt port.toNat) = true := by
  apply isNumber_ofInt
  have bound := port.toNat_lt
  omega

variable {port id : Json} {α : Type*} {guard : Json → Bool} {s : HostSnapshot}
variable {serialize : α → Json} {p : α → Bool}

theorem isClient_mk (hp : isNumber port = true) (hi : isNumber id = true) (q : ClientQuery) :
    isClientSnapshot (mk [("port", some port), ("id", some id), ("query", some (serializeQuery q))]) =
      q.presentable := by
  simp [isClientSnapshot, isRecord_mk, required, hp, hi, isQuery_serializeQuery]

theorem isClient_serializeClient {cl : UsbClient} (h : cl.id.natAbs < 2 ^ 53) :
    isClientSnapshot (serializeClient cl) = cl.query.presentable :=
  isClient_mk (isNumber_port cl.port) (isNumber_ofInt h) cl.query

theorem isWebSocketClient_mk (h : isNumber id = true) (i : WebSocketClientInfo) (rawInfo : Json) :
    isWebSocketClientSnapshot (mk
      [("id", some id), ("app", some i.app), ("debugRouterVersion", some i.debugRouterVersion),
        ("deviceModel", some i.deviceModel), ("network", some (.str "WiFi")),
        ("osVersion", some i.osVersion), ("sdkVersion", some i.sdkVersion),
        ("type", i.type), ("raw_info", some rawInfo)]) = i.presentable := by
  simp [isWebSocketClientSnapshot, isRecord_mk, required, isText, hasOwn, h,
    WebSocketClientInfo.presentable]

theorem isWebSocketClient_serialize {i : WebSocketClientInfo} (h : i.id.natAbs < 2 ^ 53) :
    isWebSocketClientSnapshot (serializeWebSocketClient i) = i.presentable :=
  isWebSocketClient_mk (isNumber_ofInt h) i _

theorem isServerInfo_mk (h : isNumber port = true) (host : String) (roomId : Option String) :
    isWebSocketServerInfo (mk
      [("port", some port), ("host", some (.str host)), ("roomId", roomId.map .str)]) = true := by
  cases roomId <;> simp [isWebSocketServerInfo, isRecord_mk, required, Protocol.optional, isString, h]

theorem isServerInfo_serialize (i : WebSocketServerInfo) :
    isWebSocketServerInfo (serializeServerInfo i) = true :=
  isServerInfo_mk (isNumber_port i.port) i.host i.roomId

variable (stamp : Stamp)

theorem optional_debugInfo (timestamp : Double) :
    (createDebugInfo stamp timestamp).all isMultiplexerDebugInfo = true := by
  unfold createDebugInfo
  cases stamp.debugInfo with
  | none => rfl
  | some i =>
    obtain ⟨clientVersion, daemonVersion⟩ := i
    cases clientVersion <;> cases daemonVersion <;>
      simp [isMultiplexerDebugInfo, isRecord_mk, Protocol.optional, isNumber_number, isString]

/-- Every client of a list has an id that is a number in JSON. -/
def HostSnapshot.Numbered (s : HostSnapshot) : Prop :=
  (∀ client ∈ s.clients, client.id.natAbs < 2 ^ 53) ∧
    (∀ apps, s.websocketAppClients = some apps → ∀ info ∈ apps, info.id.natAbs < 2 ^ 53) ∧
    ∀ web, s.websocketWebClients = some web → ∀ info ∈ web, info.id.natAbs < 2 ^ 53

def HostSnapshot.presentable (s : HostSnapshot) : Bool :=
  s.devices.all Device.presentable && s.clients.all (·.query.presentable) &&
    s.websocketAppClients.all (·.all WebSocketClientInfo.presentable) &&
    s.websocketWebClients.all (·.all WebSocketClientInfo.presentable)

theorem isArrayOf_map {l : List α} (h : ∀ item ∈ l, guard (serialize item) = p item) :
    isArrayOf guard (.arr (l.map serialize)) = l.all p := by
  simp only [isArrayOf, List.all_map]
  rw [Bool.eq_iff_iff, List.all_eq_true, List.all_eq_true]
  exact forall₂_congr fun item hi => by rw [Function.comp_apply, h item hi]

theorem all_serialized {l : Option (List α)}
    (h : ∀ list, l = some list → ∀ item ∈ list, guard (serialize item) = p item) :
    (l.map fun list => arr (list.map serialize)).all (isArrayOf guard) = l.all (·.all p) := by
  cases l with
  | none => rfl
  | some list => exact isArrayOf_map (h list rfl)

theorem isSnapshot_serializeSnapshot (h : s.Numbered) :
    isSnapshot (serializeSnapshot stamp s) = s.presentable := by
  obtain ⟨hc, ha, web⟩ := h
  have devices' : isArrayOf isDeviceSnapshot (.arr (s.devices.map serializeDevice)) =
      s.devices.all Device.presentable :=
    isArrayOf_map fun dv _ => isDevice_serializeDevice dv
  have clients' : isArrayOf isClientSnapshot (.arr (s.clients.map serializeClient)) =
      s.clients.all (·.query.presentable) :=
    isArrayOf_map fun cl hi => isClient_serializeClient (hc cl hi)
  have apps' := all_serialized fun list hf i hi => isWebSocketClient_serialize (ha list hf i hi)
  have web' := all_serialized fun list hf i hi => isWebSocketClient_serialize (web list hf i hi)
  have hd := optional_debugInfo stamp stamp.generatedAt
  simp [isSnapshot, serializeSnapshot, isRecord_mk, required, Protocol.optional, isNumber_number,
    devices', clients', isWebSocketClientSnapshotArray, apps', web', hd,
    HostSnapshot.presentable]

/- What a control accepts -/

theorem received_eq (guard : Json → Bool) (msg : Json) :
    received guard msg = guard msg.normalize := by
  simp [received, JsonText.parse_stringify]

theorem received_snapshotEvent (h : s.Numbered) :
    received isControlEvent (snapshotEvent stamp s) = s.presentable := by
  have hd := optional_debugInfo stamp stamp.sentAt
  have kept : (snapshotEvent stamp s).normalize.get? "event" = some (.str "snapshot") := by
    rw [get?_normalize]
    simp [snapshotEvent, Json.normalize]
  rw [received_eq, isControlEvent, kept]
  simp only [Option.bind_some, asString?, eventGuard, Option.any_some, isRecord_normalize,
    required_normalize (stable_isText _), optional_normalize stable_isDebugInfo,
    required_normalize stable_isSnapshot]
  simp [snapshotEvent, isRecord_mk, required, Protocol.optional, isText, hd,
    isSnapshot_serializeSnapshot stamp h]

theorem received_rpcResponse (id : Double) (method : ResultMethod) (result : Json) :
    received (isControlRpcResponse · method) (rpcResponse stamp id result) =
      isControlRpcResult method result := by
  have hd := optional_debugInfo stamp stamp.sentAt
  have ok : (rpcResponse stamp id result).normalize.get? "ok" = some (.bool true) := by
    rw [get?_normalize]
    simp [rpcResponse, Json.normalize]
  have hb : required (rpcResponse stamp id result).normalize "ok" isBoolean = true := by
    simp [required, ok, isBoolean]
  have above : required (rpcResponse stamp id result).normalize "ok" truthy = true := by
    simp [required, ok, truthy]
  rw [received_eq, isControlRpcResponse, hb, above]
  simp only [isRecord_normalize, required_normalize (stable_isText _),
    required_normalize stable_isNumber, optional_normalize stable_isDebugInfo,
    required_normalize (stable_isControlRpcResult method), if_true]
  simp [rpcResponse, isRecord_mk, required, Protocol.optional, isText, isNumber_number, hd]

end DebugRouter.Daemon
