import DebugRouter.Library.Coercion
import DebugRouter.Library.Runs
import DebugRouter.Daemon.Routing
import DebugRouter.Peer.Register

/-!
The Host as a machine. An act is one synchronous stretch of the daemon: an event of the
physical layer, of a control or of a WebSocket, a timer, or the continuation of an RPC. Which
acts follow each other is left open.
-/
namespace DebugRouter.Daemon

open Library Registry

structure Host where
  registry : Registry
  traffic : Traffic

inductive HostAct where
  | registerDevice (device : Device)
  | unregisterDevice (serial : String) (closed : List Int)
  | registerUsbClient (port : UInt16) (device : Device) (info : Json)
  | unregisterUsbClient (id : Int)
  | usbClientMessage (id : Int) (message : String)
  | ownershipAttached (announced : Bool)
  | ownershipLost
  | controlConnected (enableWebSocket : Bool)
  | controlDisconnected (controlId : Nat)
  | connectDevices (controlId rpcId : Nat) (serial : Option String)
  | connectUsbClients (controlId rpcId : Nat) (deviceId : String)
  | physicalFound (controlId rpcId : Nat) (selected : UsbClient → Bool)
  | physicalAnswered (controlId rpcId : Nat)
  | physicalFailed (controlId rpcId : Nat) (message : String)
  | watchersStarted (controlId rpcId : Nat)
  | forceDisableAllClients (controlId rpcId : Nat) (closed : List Int)
  | startWSServer (controlId rpcId : Nat)
  | webSocketControllerCreated
  | webSocketServerStarted (info : WebSocketServerInfo)
  | webSocketStartFailed
  | webSocketStartRejected (message : String)
  | webSocketOpened
  | webSocketRegistered (id : Int) (data : Json)
  | webSocketClosed (id : Int)
  | webSocketMessage (id : Int) (message : String) (sendFails : Bool)
  | sendMessageWithReply (controlId rpcId : Nat) (clientId : Int) (message : Json) (sendFails : Bool)
  | sendMessageWithoutReply (controlId rpcId : Nat) (toWeb : Bool) (clientId : Int) (message : Json)
      (sendFails : Bool)
  | routeTimeout (globalMessageId : Nat)
  | memoRetry (clientId : Int) (requestType : String) (retried : Bool)
  | tick (elapsed : Nat)

namespace Host
variable (h : Host)

def initial (enableWebSocket : Bool) : Host := ⟨.initial enableWebSocket, .empty⟩

def still : Host × List Output := (h, [])

def seq (first : Host × List Output) (next : Host → Host × List Output) : Host × List Output :=
  ((next first.1).1, first.2 ++ (next first.1).2)

def onRegistry (f : Registry → Registry × List Output) : Host × List Output :=
  (⟨(f h.registry).1, h.traffic⟩, (f h.registry).2)

def onTraffic (f : Registry → Traffic → Traffic × List Output) : Host × List Output :=
  (⟨h.registry, (f h.registry h.traffic).1⟩, (f h.registry h.traffic).2)

def say (f : Registry → List Output) : Host × List Output := (h, f h.registry)

def setRegistry (f : Registry → Registry) : Host × List Output := (⟨f h.registry, h.traffic⟩, [])

def broadcastSnapshot : Host × List Output := h.onRegistry Registry.broadcastSnapshot

def snapshotTo (controlIds : List Nat) : Host × List Output :=
  h.onRegistry fun r => r.sendSnapshot controlIds

def snapshotToRequesters : Host × List Output :=
  h.onRegistry fun r => r.sendSnapshot r.webSocketRequesterControlIds

def forgetRuntime (clientId : Int) : Host × List Output := h.onTraffic fun _ t =>
  let (routes, removed) := t.routes.clearByClientId clientId
  { t with memo := t.memo.clearClient clientId, routes := routes }.rejectRoutes removed
    (rpcFailed ("Multiplexer runtime client " ++ toString clientId ++ " disconnected"))

/- The physical layer -/

def registerDevice (device : Device) : Host × List Output :=
  if h.registry.devices.has device.serial then h.still
  else
    let registered := (h.setRegistry fun r =>
      { r with
          devices := r.devices.set device.serial device
          devicesBySerial := r.devicesBySerial.set rfl })
    seq registered fun h => if h.registry.legacyOwnershipAttached then h.broadcastSnapshot
      else h.still

def handleClientDisconnected (id : Int) : Host × List Output :=
  if h.registry.legacyOwnershipAttached then
    seq (h.forgetRuntime id) fun h => h.onRegistry publishClientSnapshot
  else h.still

def unregisterUsbClient (id : Int) : Host × List Output :=
  if h.registry.usbClients.has id then
    seq (h.setRegistry fun r =>
        { r with usbClients := r.usbClients.delete id, usbClientsById := r.usbClientsById.delete id })
      (handleClientDisconnected · id)
  else h.still

def unregisterUsbClients : List Int → Host → Host × List Output
  | [], h => h.still
  | id :: ids, h => seq (h.unregisterUsbClient id) (unregisterUsbClients ids)

/-- The device is forgotten first; its clients close while it disconnects. -/
def unregisterDevice (serial : String) (closed : List Int) : Host × List Output :=
  if h.registry.devices.has serial then
    let deleted := h.setRegistry fun r =>
      { r with
          devices := r.devices.delete serial
          devicesBySerial := r.devicesBySerial.delete serial }
    seq (seq deleted (unregisterUsbClients closed)) fun h =>
      if h.registry.legacyOwnershipAttached then h.broadcastSnapshot else h.still
  else h.still

def registerUsbClient (port : UInt16) (query : ClientQuery) : Host × List Output :=
  let (r, id) := h.registry.createClientId
  if r.usbClients.has id then (⟨r, h.traffic⟩, [])
  else
    let registered := h.setRegistry fun _ =>
      { r with
          usbClients := r.usbClients.set id ⟨port, id, query⟩
          usbClientsById := r.usbClientsById.set rfl }
    seq registered fun h =>
      if h.registry.legacyOwnershipAttached then h.onRegistry publishClientSnapshot else h.still

def handleUsbClientMessage (id : Int) (message : String) : Host × List Output :=
  if h.registry.legacyOwnershipAttached then
    h.onTraffic fun r t => t.handleRuntimeMessage r id message .usbRuntime
  else h.still

/- Legacy ownership. The guard has set its status before it tells the Host. -/

def ownershipAttached (announced : Bool) : Host × List Output :=
  seq (h.setRegistry fun r => { r with ownership := .attached }) fun h =>
    h.say fun r => if announced then r.broadcast (.legacyOwnershipChanged true) else []

def handleLegacyOwnershipLost : Host × List Output :=
  let cleared := h.onTraffic fun _ t =>
    let (routes, removed) := t.routes.clear
    { t with memo := t.memo.clear, routes := routes }.rejectRoutes removed
      (rpcFailed "Multiplexer legacy owner was preempted")
  let disabled := seq cleared (setRegistry · fun r =>
    { r with usbClients := .empty, usbClientsById := byId_empty })
  seq (seq disabled broadcastSnapshot) (say · sendClientList)

def ownershipLost : Host × List Output :=
  if h.registry.legacyOwnershipAttached then
    let lost := h.setRegistry fun r => { r with ownership := .unattached }
    seq (seq lost handleLegacyOwnershipLost) (say · (·.broadcast (.legacyOwnershipChanged false)))
  else h.still

/- Controls -/

def controlConnected (enableWebSocket : Bool) : Host × List Output :=
  let id := h.registry.nextControlId
  let registered := h.setRegistry fun r =>
    { r with controls := r.controls.set id none, nextControlId := id + 1 }
  let welcomed := seq (seq registered (snapshotTo · [id])) (say · fun r =>
    if r.ownership = .unInit then []
    else r.sendToControl id (.legacyOwnershipChanged r.legacyOwnershipAttached))
  seq welcomed (setRegistry · fun r =>
    { r with enableWebSocket := r.enableWebSocket || enableWebSocket })

def controlDisconnected (id : Nat) : Host × List Output :=
  let removed := h.setRegistry fun r =>
    { r with
        controls := r.controls.delete id
        webSocketRequesterControlIds := r.webSocketRequesterControlIds.filter (· ≠ id) }
  seq removed (onTraffic · fun _ t =>
    let (routes, removed) := t.routes.clearByControlId id
    { t with routes := routes }.rejectRoutes removed
      (rpcFailed ("Multiplexer control " ++ toString id ++ " disconnected")))

/- RPCs that wait for the physical layer. The found devices and clients are those of the moment
in which the wait ends; the answer is sent in a later turn. -/

def connectDevices (controlId rpcId : Nat) (serial : Option String) : Host × List Output :=
  h.setRegistry fun r =>
    { r with calls := r.calls.set (controlId, rpcId) (.connectDevices serial none) }

def legacyOwnerNotAttached : RpcError := rpcFailed "Multiplexer legacy owner is not attached"

def connectUsbClients (controlId rpcId : Nat) (deviceId : String) : Host × List Output :=
  if h.registry.devices.has deviceId then
    if h.registry.legacyOwnershipAttached then
      h.setRegistry fun r =>
        { r with calls := r.calls.set (controlId, rpcId) (.connectUsbClients deviceId none) }
    else h.say (·.respond controlId rpcId (.error legacyOwnerNotAttached))
  else h.say (·.respond controlId rpcId (.ok (.clients [])))

def findDevice (r : Registry) : Option String → List Device
  | none => r.devices.values
  | some serial => (r.devices.get? serial).toList

def found (r : Registry) (selected : UsbClient → Bool) : PendingCall → PendingCall
  | .connectDevices serial none => .connectDevices serial (some (findDevice r serial))
  | .connectUsbClients deviceId none =>
    .connectUsbClients deviceId (some (r.usbClients.values.filter selected))
  | answered => answered

def physicalFound (controlId rpcId : Nat) (selected : UsbClient → Bool) : Host × List Output :=
  match h.registry.calls.get? (controlId, rpcId) with
  | some call => h.setRegistry fun r =>
    { r with calls := r.calls.set (controlId, rpcId) (found r selected call) }
  | none => h.still

def endCall (controlId rpcId : Nat) : Host × List Output :=
  h.setRegistry fun r => { r with calls := r.calls.delete (controlId, rpcId) }

def physicalAnswered (controlId rpcId : Nat) : Host × List Output :=
  match h.registry.calls.get? (controlId, rpcId) with
  | some (.connectDevices _ (some devices)) =>
    seq (h.endCall controlId rpcId) (say · (·.respond controlId rpcId (.ok (.devices devices))))
  | some (.connectUsbClients _ (some clients)) =>
    let published := seq (h.endCall controlId rpcId) (onRegistry · publishClientSnapshot)
    seq published (say · (·.respond controlId rpcId (.ok (.clients clients))))
  | _ => h.still

def physicalFailed (controlId rpcId : Nat) (message : String) : Host × List Output :=
  if h.registry.calls.has (controlId, rpcId) then
    seq (h.endCall controlId rpcId) (say · (·.respond controlId rpcId (.error (rpcFailed message))))
  else h.still

def watchersStarted (controlId rpcId : Nat) : Host × List Output :=
  seq (h.onRegistry publishClientSnapshot) (say · (·.respond controlId rpcId (.ok .done)))

def forceDisableAllClients (controlId rpcId : Nat) (closed : List Int) : Host × List Output :=
  seq (unregisterUsbClients closed h) (watchersStarted · controlId rpcId)

/- The WebSocket server -/

def webSocketDisabled : RpcError :=
  ⟨"websocket-disabled",
    "The multiplexer daemon does not support WebSocket because enableWebSocket is disabled"⟩

def addRequester (r : Registry) (controlId : Nat) : Registry :=
  if controlId ∈ r.webSocketRequesterControlIds then r
  else { r with webSocketRequesterControlIds := r.webSocketRequesterControlIds ++ [controlId] }

def startWSServer (controlId rpcId : Nat) : Host × List Output :=
  if h.registry.enableWebSocket then
    seq (h.setRegistry (addRequester · controlId)) fun h =>
      match h.registry.server with
      | .started info _ _ =>
        seq (h.snapshotTo [controlId]) (say · (·.respond controlId rpcId (.ok (.serverInfo info))))
      | .starting waiting created =>
        h.setRegistry ({ · with server := .starting (waiting ++ [(controlId, rpcId)]) created })
      | .stopped => h.setRegistry ({ · with server := .starting [(controlId, rpcId)] false })
  else h.say (·.respond controlId rpcId (.error webSocketDisabled))

def webSocketControllerCreated : Host × List Output :=
  match h.registry.server with
  | .starting waiting _ => h.setRegistry ({ · with server := .starting waiting true })
  | _ => h.still

def answerStarted (info : WebSocketServerInfo) : List (Nat × Nat) → Host → Host × List Output
  | [], h => h.still
  | (controlId, rpcId) :: waiting, h =>
    let answered :=
      seq (h.snapshotTo [controlId]) (say · (·.respond controlId rpcId (.ok (.serverInfo info))))
    seq answered (answerStarted info waiting)

def webSocketServerStarted (info : WebSocketServerInfo) : Host × List Output :=
  match h.registry.server with
  | .starting waiting true =>
    seq (h.setRegistry ({ · with server := .started info .empty [] })) (answerStarted info waiting)
  | _ => h.still

/-- A failed start drops the controller, and rejects its callers once that is closed. -/
def webSocketStartFailed : Host × List Output :=
  match h.registry.server with
  | .starting waiting _ => h.setRegistry ({ · with server := .starting waiting false })
  | _ => h.still

def webSocketStartRejected (message : String) : Host × List Output :=
  match h.registry.server with
  | .starting waiting false =>
    let rejected := h.setRegistry fun r =>
      { r with
          server := .stopped
          webSocketRequesterControlIds := r.webSocketRequesterControlIds.filter
            (· ∉ waiting.map Prod.fst) }
    seq rejected (say · fun r =>
      waiting.flatMap fun call => r.respond call.1 call.2 (.error (rpcFailed message)))
  | _ => h.still

/- WebSocket clients. Ids are taken from the same sequence as those of USB clients. -/

def webSocketOpened : Host × List Output :=
  match h.registry.server with
  | .started info controller unregistered => h.setRegistry fun r =>
    let (r, id) := r.createClientId
    { r with server := .started info controller (unregistered ++ [id]) }
  | _ => h.still

def webSocketRegistered (info : WebSocketClientInfo) : Host × List Output :=
  match h.registry.server with
  | .started server controller unregistered =>
    if info.id ∈ unregistered then
      let registered := h.setRegistry
        ({ · with server := .started server (controller.add info) (unregistered.erase info.id) })
      seq (seq registered snapshotToRequesters) (say · sendClientList)
    else h.still
  | _ => h.still

def updateController (f : WebSocketController → WebSocketController) (r : Registry) : Registry :=
  match r.server with
  | .started info controller unregistered =>
    { r with server := .started info (f controller) unregistered }
  | _ => r

def removeAppClient (id : Int) : Host × List Output :=
  if h.registry.appClients.has id then
    let removed := h.setRegistry (updateController (·.removeApp id))
    seq (seq removed (forgetRuntime · id)) snapshotToRequesters
  else h.still

def removeWebClient (id : Int) : Host × List Output :=
  if h.registry.webClients.has id then
    let removed := h.setRegistry (updateController (·.removeWeb id))
    let cleared := seq removed (onTraffic · fun _ t =>
      ({ t with routes := (t.routes.clearByWebClientId id).1 }, []))
    seq cleared snapshotToRequesters
  else h.still

def webSocketClosed (id : Int) : Host × List Output :=
  seq (seq (h.removeAppClient id) (removeWebClient · id)) (say · sendClientList)

/-- What a message is announced as to the controls that asked for the server. Reading `event` of
`null` throws; a Driver's message has been announced by then. -/
def announce (info : WebSocketClientInfo) (value : Json) (message : String) (r : Registry) :
    List Output :=
  if info.isDriver then r.sendToWebSocketRequesters (.clientMessage .websocketDriver info.id message)
  else if value = .null ∨ value.get? "event" = some (.str "Customized") then []
  else r.sendToWebSocketRequesters (.clientMessage .websocketRuntime info.id message)

/-- A Driver names the runtime it means by `client_id`, and only a number is the id of one. -/
def handleCustomizedMessage (info : WebSocketClientInfo) (data : Json) (message : String)
    (sendFails : Bool) : Host × List Output :=
  if info.isDriver then
    match (orElse (prop (innerData data) "client_id") (Json.ofInt (-1))).safeInteger? with
    | some id =>
      if id = -1 then h.still
      else h.onTraffic fun r t => t.handleWebSocketDriverMessage r info.id id message sendFails
    | none => h.still
  else
    let sender := orElse (prop (data.get? "data") "sender") (Json.ofInt (-1))
    if looselyEqual sender (JsNumber.ofInt (-1)) = some false then
      h.onTraffic fun r t => t.handleRuntimeMessage r info.id message .websocketRuntime
    else h.still

def pong : String := JsonText.stringify (.obj [("event", .str "Pong")])

def handleMessage (info : WebSocketClientInfo) (message : String) (sendFails : Bool) :
    Host × List Output :=
  match JsonText.parse message with
  | none => h.still
  | some value => seq (h.say (announce info value message)) fun h =>
    if value.get? "event" = some (.str "ListClients") then
      h.say fun r => if info.isDriver then [.clientList info.id (r.clientList info.id)] else []
    else if value.get? "event" = some (.str "Ping") then
      h.say fun _ => if info.isDriver then [.web info.id pong] else []
    else if value.get? "event" = some (.str "Customized") then
      h.handleCustomizedMessage info value message sendFails
    else h.still

def webSocketMessage (id : Int) (message : String) (sendFails : Bool) : Host × List Output :=
  match (h.registry.webClients.get? id).or (h.registry.appClients.get? id) with
  | some info => h.handleMessage info message sendFails
  | none => h.still

def fromControl (controlId : Nat) (handled : Host × List Output) : Host × List Output :=
  if h.registry.controls.has controlId then handled else h.still

def respond : HostAct → Host × List Output
  | .registerDevice device => h.registerDevice device
  | .unregisterDevice serial closed => h.unregisterDevice serial closed
  | .registerUsbClient port device info => h.registerUsbClient port (Peer.registerQuery device info)
  | .unregisterUsbClient id => h.unregisterUsbClient id
  | .usbClientMessage id message => h.handleUsbClientMessage id message
  | .ownershipAttached announced => h.ownershipAttached announced
  | .ownershipLost => h.ownershipLost
  | .controlConnected enableWebSocket => h.controlConnected enableWebSocket
  | .controlDisconnected id => h.controlDisconnected id
  | .connectDevices controlId rpcId serial =>
    h.fromControl controlId (h.connectDevices controlId rpcId serial)
  | .connectUsbClients controlId rpcId deviceId =>
    h.fromControl controlId (h.connectUsbClients controlId rpcId deviceId)
  | .physicalFound controlId rpcId selected => h.physicalFound controlId rpcId selected
  | .physicalAnswered controlId rpcId => h.physicalAnswered controlId rpcId
  | .physicalFailed controlId rpcId message => h.physicalFailed controlId rpcId message
  | .watchersStarted controlId rpcId => h.watchersStarted controlId rpcId
  | .forceDisableAllClients controlId rpcId closed => h.forceDisableAllClients controlId rpcId closed
  | .startWSServer controlId rpcId => h.fromControl controlId (h.startWSServer controlId rpcId)
  | .webSocketControllerCreated => h.webSocketControllerCreated
  | .webSocketServerStarted info => h.webSocketServerStarted info
  | .webSocketStartFailed => h.webSocketStartFailed
  | .webSocketStartRejected message => h.webSocketStartRejected message
  | .webSocketOpened => h.webSocketOpened
  | .webSocketRegistered id data => h.webSocketRegistered (Peer.registerInfo id data)
  | .webSocketClosed id => h.webSocketClosed id
  | .webSocketMessage id message sendFails => h.webSocketMessage id message sendFails
  | .sendMessageWithReply controlId rpcId clientId message sendFails =>
    h.fromControl controlId (h.onTraffic fun r t =>
      t.sendMessageWithReply r controlId rpcId clientId message sendFails)
  | .sendMessageWithoutReply controlId rpcId toWeb clientId message sendFails =>
    h.fromControl controlId (h.onTraffic fun r t =>
      t.sendMessageWithoutReply r controlId rpcId toWeb clientId message sendFails)
  | .routeTimeout globalMessageId => h.onTraffic fun _ t => t.onRouteTimeout globalMessageId
  | .memoRetry clientId requestType retried =>
    h.onTraffic fun _ t => t.onRetryTimer clientId requestType retried
  | .tick elapsed => h.onTraffic fun _ t => ({ t with clock := t.clock + elapsed }, [])

def step (act : HostAct) : Host := (h.respond act).1

def outputs (act : HostAct) : List Output := (h.respond act).2

end Host

end DebugRouter.Daemon
