import DebugRouter.Daemon.Registry
import DebugRouter.Daemon.Tables

/-!
Requests on their way to a runtime and messages on their way back. These functions read the
registry and change the traffic only. Whether the runtime's socket takes a message is decided
outside: `sendFails` is a throwing `sendMessage`.
-/
namespace DebugRouter.Daemon

open Library Json JsonText

/-- Routes and promises. `settled` lists the promises in the order in which `resolve` or `reject`
was called. -/
structure Ledger where
  routes : PendingRouteTable
  nextPromise : Nat
  settled : List Nat

structure Traffic extends Ledger where
  memo : MemoizedQueryTable
  clock : Nat

/-- `PendingTargetSeed`: who asks, and the promise that awaits the answer. -/
structure Target where
  requester : Requester
  promise : Option Nat

structure Sent where
  traffic : Traffic
  outputs : List Output
  error : Option RpcError

inductive OutboundMessage where
  | text (message : String)
  | value (message : Json)

def cloneJsonValue (v : Json) : Json := parseJsonMessageOrNull (stringify v)

def OutboundMessage.decode : OutboundMessage → Option Json
  | .text message => parse message
  | .value v => some (cloneJsonValue v)

/-- `sendMessageWithoutReply` sends a string as it is. -/
def outboundText (message : Json) : String := message.asString?.getD (stringify message)

def clientNotFound (clientId : Int) : RpcError :=
  ⟨"multiplexer-client-not-found", "Multiplexer client was not found: " ++ toString clientId⟩

/-- The engine's own description of the parse error is appended to the message. -/
def invalidJsonMessage : RpcError :=
  ⟨"invalid-json-message", "Invalid JSON message for multiplexer app client: "⟩

def messageNotRoutable : RpcError :=
  ⟨"multiplexer-message-not-routable",
    "sendMessageWithReply requires a Customized message with a safe integer inner message id"⟩

def rpcFailed (message : String) : RpcError := ⟨"control-rpc-failed", message⟩

def messageType (data : Json) : Option Json := prop (data.get? "data") "type"

/-- The legacy USB handshake, which is never sent on. -/
def isLegacyHandshake (data : Json) : Bool :=
  messageType data = some (.str "UsbConnect") || messageType data = some (.str "UsbConnectAck")

theorem messageType_of_customized {data : Json} {type : String}
    (h : getCustomizedType data = some type) :
    data.get? "event" = some (.str "Customized") ∧ messageType data = some (.str type) := by
  unfold getCustomizedType at h
  split at h
  next ev =>
    refine ⟨ev, ?_⟩
    obtain ⟨found, hh, hn⟩ := Option.bind_eq_some_iff.mp h
    cases found with
    | str text =>
      cases hn
      exact hh
    | null | bool _ | num _ | arr _ | obj _ => cases hn
  · cases h

def rewriteClientId (data : Json) (clientId : Int) : Json :=
  if isTruthy (prop (innerData data) "client_id") then
    data.modifyAt ["data", "data"] (·.setField "client_id" (ofInt clientId))
  else data

variable (data v : Json)

theorem rawMessage_rewriteId (cid : Int) :
    rawMessage (rewriteClientId data cid) = rawMessage data := by
  unfold rewriteClientId
  split
  next hn =>
    unfold rawMessage innerData prop at *
    cases ho : data.get? "data" with
    | none => simp [get?_modifyAt, ho]
    | some envelope =>
      cases hi : envelope.get? "data" with
      | none => simp [get?_modifyAt, ho, hi]
      | some cont =>
        cases old : cont.get? "client_id" with
        | none => simp [ho, hi, old, isTruthy] at hn
        | some id => simp [get?_modifyAt, ho, hi, get?_setField (isObject_of_get? old)]
  · rfl

theorem messageId_rewriteId (cid : Int) : messageId (rewriteClientId data cid) = messageId data := by
  rw [messageId_eq, messageId_eq, rawMessage_rewriteId]

theorem messageId_clone : messageId (cloneJsonValue v) = messageId v := messageId_text v

theorem clone_eq : cloneJsonValue v = v.normalize := by
  simp [cloneJsonValue, parseJsonMessageOrNull, parse_stringify]

theorem messageType_clone : messageType (cloneJsonValue v) = (messageType v).map normalize := by
  unfold messageType prop
  rw [clone_eq, get?_normalize]
  cases v.get? "data" with
  | none => rfl
  | some envelope => exact get?_normalize envelope "type"

theorem handshake_clone : isLegacyHandshake (cloneJsonValue v) = isLegacyHandshake v := by
  simp only [isLegacyHandshake, messageType_clone, map_normalize_eq_str]

theorem customizedType_clone : getCustomizedType (cloneJsonValue v) = getCustomizedType v := by
  have he : (cloneJsonValue v).get? "event" = some (.str "Customized") ↔
      v.get? "event" = some (.str "Customized") := by
    rw [clone_eq, get?_normalize, map_normalize_eq_str]
  have type : (messageType (cloneJsonValue v)).bind asString? = (messageType v).bind asString? := by
    rw [messageType_clone]
    cases messageType v with
    | none => rfl
    | some type => exact asString?_normalize type
  unfold messageType at type
  simp only [getCustomizedType, he, type]

namespace Traffic
variable (r : Registry) (t : Traffic)

def empty : Traffic := ⟨⟨.empty, 0, []⟩, .empty, 0⟩

def settle (controlId promise : Nat) (result : Except RpcError Json) : Traffic × List Output :=
  ({ t with settled := t.settled ++ [promise] }, [.settled controlId promise result])

def awaitedBy (route : PendingRoute) : Option (Nat × Nat) :=
  match route.requester with
  | .control controlId => route.promise.map (controlId, ·)
  | .webSocket _ => none

def rejectRoutes (removed : List PendingRoute) (error : RpcError) : Traffic × List Output :=
  let awaited := removed.filterMap awaitedBy
  ({ t with settled := t.settled ++ awaited.map Prod.snd },
    awaited.map fun await => .settled await.1 await.2 (.error error))

def sendMessageToTargetDriver (target : Target) (clientId : Int) (message : String)
    (parsedValue : Json) : Traffic × List Output :=
  match target.requester, target.promise with
  | .control id, some promise => t.settle id promise (.ok (normalizeRawResponse parsedValue clientId))
  | .control id, none =>
    let source := if r.appClients.has clientId then .websocketRuntime else .usbRuntime
    (t, r.sendToControl id (.clientMessage source clientId message))
  | .webSocket id, _ => (t, r.sendMessageToWebClient id message)

/-- Opens the route of a message that has an id, and gives the message its global id. -/
def rewriteOutboundMessageData (data : Json) (clientId : Int) (target : Target) :
    Traffic × Json × Option Nat :=
  match getRoutableCustomizedPayload data with
  | none => (t, data, none)
  | some (payload, originalId) =>
    let (routes, globalMessageId) :=
      t.routes.add ⟨target.requester, clientId, originalId, target.promise⟩
    ({ t with routes := routes }, writeMessageId data payload globalMessageId, some globalMessageId)

def forward (data : Json) (clientId : Int) (target : Target) (requestType : Option String)
    (sendFails : Bool) : Sent :=
  let (t, data, route) := t.rewriteOutboundMessageData data clientId target
  if sendFails then
    let memo := requestType.elim t.memo (t.memo.clearPending clientId)
    let routes := route.elim t.routes (t.routes.remove · .sendFailure)
    ⟨{ t with memo := memo, routes := routes }, [], some (rpcFailed "send failed")⟩
  else
    let memo := requestType.elim t.memo (t.memo.setRetryTimer clientId · (cloneJsonValue data))
    ⟨{ t with memo := memo }, [.runtime clientId data], none⟩

def sendMessageToRuntime (clientId : Int) (message : OutboundMessage) (target : Target)
    (sendFails : Bool) : Sent :=
  let isWebSocket := r.appClients.has clientId
  if isWebSocket || r.usbClients.has clientId then
    match message.decode with
    | none => ⟨t, [], some invalidJsonMessage⟩
    | some data =>
      if isLegacyHandshake data then ⟨t, [], none⟩
      else
        let data := rewriteClientId data (if isWebSocket then clientId else -1)
        let (memo, decision) := t.memo.query t.clock clientId data
        let t := { t with memo := memo }
        match decision with
        | .cached message parsedValue =>
          let (t, outputs) := t.sendMessageToTargetDriver r target clientId message parsedValue
          ⟨t, outputs, none⟩
        | .pending => ⟨t, [], none⟩
        | .notMemoized => t.forward data clientId target none sendFails
        | .forward requestType => t.forward data clientId target (some requestType) sendFails
  else ⟨t, [], some (clientNotFound clientId)⟩

/-- A message that cannot be routed is sent all the same, and the call fails. -/
def sendMessageWithReply (controlId rpcId : Nat) (clientId : Int) (message : Json)
    (sendFails : Bool) : Traffic × List Output :=
  match getRoutableCustomizedPayload message with
  | none =>
    let sent :=
      t.sendMessageToRuntime r clientId (.value message) ⟨.control controlId, none⟩ sendFails
    (sent.traffic, sent.outputs ++
      [.response controlId rpcId (.error (sent.error.getD messageNotRoutable))])
  | some _ =>
    let promise := t.nextPromise
    let t := { t with nextPromise := promise + 1 }
    let sent :=
      t.sendMessageToRuntime r clientId (.value message) ⟨.control controlId, some promise⟩
        sendFails
    match sent.error with
    | none => (sent.traffic, sent.outputs)
    | some error =>
      let (t, outputs) := sent.traffic.settle controlId promise (.error error)
      (t, sent.outputs ++ outputs)

def answer (controlId rpcId : Nat) : Option RpcError → Output
  | none => .response controlId rpcId (.ok .done)
  | some error => .response controlId rpcId (.error error)

def sendMessageWithoutReply (controlId rpcId : Nat) (toWeb : Bool) (clientId : Int) (message : Json)
    (sendFails : Bool) : Traffic × List Output :=
  let text := outboundText message
  if toWeb then
    (t, (if clientId = -1 then r.sendMessageToWeb text else r.sendMessageToWebClient clientId text) ++
      [answer controlId rpcId none])
  else
    let sent := t.sendMessageToRuntime r clientId (.text text) ⟨.control controlId, none⟩ sendFails
    (sent.traffic, sent.outputs ++ [answer controlId rpcId sent.error])

def handleWebSocketDriverMessage (webClientId targetClientId : Int) (message : String)
    (sendFails : Bool) : Traffic × List Output :=
  let sent :=
    t.sendMessageToRuntime r targetClientId (.text message) ⟨.webSocket webClientId, none⟩ sendFails
  (sent.traffic, sent.outputs)

/-- The reply of a claimed route, with the requester's own id restored in `value`. -/
def deliverReply (route : PendingRoute) (value : Json) (source : MessageSource) :
    Traffic × List Output :=
  match route.requester, route.promise with
  | .control id, some promise => t.settle id promise (.ok (normalizeRawResponse value route.clientId))
  | .control id, none =>
    (t, r.sendToControl id (.clientMessage source route.clientId (stringify value)))
  | .webSocket id, _ =>
    (t, r.sendMessageToWebClient id (stringify (rewriteRuntimeClientIdData value route.clientId)))

def routeOf (globalMessageId : SafeInteger) : Option PendingRoute :=
  if 0 ≤ globalMessageId.1 then t.routes.get globalMessageId.1.toNat else none

def handleNotification (clientId : Int) (message : String) (parsedValue : Json)
    (source : MessageSource) : Traffic × List Output :=
  let rewritten :=
    if parsedValue.truthy then rewriteRuntimeClientIdData parsedValue clientId else parsedValue
  let broadcastMessage := if parsedValue.truthy then stringify rewritten else message
  ({ t with memo := t.memo.recordNotification t.clock clientId broadcastMessage rewritten },
    r.sendMessageToWeb broadcastMessage ++ r.broadcast (.clientMessage source clientId message))

def handleRuntimeMessage (clientId : Int) (message : String) (source : MessageSource) :
    Traffic × List Output :=
  let parsedValue := parseJsonMessageOrNull message
  match getRoutableCustomizedPayload parsedValue with
  | none => t.handleNotification r clientId message parsedValue source
  | some (payload, globalMessageId) =>
    match t.routeOf globalMessageId with
    | none => (t, [])
    | some route =>
      if route.clientId = clientId then
        { t with routes := t.routes.remove globalMessageId.1.toNat .reply }.deliverReply r route
          (writeMessageId parsedValue payload route.originalId.1) source
      else (t, [])

def onRetryTimer (clientId : Int) (requestType : String) (retried : Bool) : Traffic × List Output :=
  let (memo, sent) := t.memo.onRetryTimer t.clock clientId requestType retried
  ({ t with memo := memo }, (sent.map fun message => Output.runtime clientId message).toList)

def onRouteTimeout (globalMessageId : Nat) : Traffic × List Output :=
  match t.routes.get globalMessageId with
  | none => (t, [])
  | some route =>
    { t with routes := t.routes.remove globalMessageId .timeout }.rejectRoutes [route]
      (rpcFailed ("Timed out waiting for response to global message id " ++ toString globalMessageId))

end Traffic

end DebugRouter.Daemon
