import DebugRouter.Library.JsonRoundTrip

/-!
The validators of the control protocol, on parsed JSON. A value means the same to them before
and after it was sent as text.
-/
namespace DebugRouter.Protocol

open Library Json

def isRecord (v : Json) : Bool := v.isObject

def isString : Json → Bool
  | .str _ => true
  | _ => false

def isNumber : Json → Bool
  | .num (.finite _) => true
  | _ => false

theorem isNumber_ofInt {n : Int} (h : n.natAbs < 2 ^ 53) : isNumber (ofInt n) = true := by
  have safe := safeInteger?_ofInt h
  unfold ofInt at safe ⊢
  cases hv : JsNumber.ofInt n with
  | finite x => rfl
  | infinite neg =>
    rw [hv] at safe
    cases safe

def isBoolean : Json → Bool
  | .bool _ => true
  | _ => false

def isArrayOf (guard : Json → Bool) : Json → Bool
  | .arr items => items.all guard
  | _ => false

def isNumberArray : Json → Bool := isArrayOf isNumber

def required (v : Json) (key : String) (guard : Json → Bool) : Bool := (v.get? key).any guard

def optional (v : Json) (key : String) (guard : Json → Bool) : Bool := (v.get? key).all guard

def isText (text : String) : Json → Bool
  | .str s => s = text
  | _ => false

def isMultiplexerDebugInfo (v : Json) : Bool :=
  isRecord v && optional v "protocolVersion" isNumber && optional v "clientVersion" isString &&
    optional v "daemonVersion" isString && optional v "processId" isNumber &&
    optional v "timestamp" isNumber

def isDeviceSnapshot (v : Json) : Bool :=
  isRecord v && required v "os" isString && required v "title" isString &&
    required v "serial" isString && required v "ports" isNumberArray && required v "host" isString

def isQuery (v : Json) : Bool :=
  isRecord v && required v "app" isString && required v "os" isString &&
    required v "device" isString && required v "device_model" isString &&
    required v "device_id" isString && optional v "sdk_version" isString

def isClientSnapshot (v : Json) : Bool :=
  isRecord v && required v "port" isNumber && required v "id" isNumber && required v "query" isQuery

def isWebSocketClientSnapshot (v : Json) : Bool :=
  isRecord v && required v "id" isNumber && required v "app" isString &&
    required v "debugRouterVersion" isString && required v "deviceModel" isString &&
    required v "network" (isText "WiFi") && required v "osVersion" isString &&
    required v "sdkVersion" isString && required v "type" isString && v.hasOwn "raw_info"

def isWebSocketClientSnapshotArray : Json → Bool := isArrayOf isWebSocketClientSnapshot

def isSnapshot (v : Json) : Bool :=
  isRecord v && required v "protocolVersion" isNumber && required v "generatedAt" isNumber &&
    required v "devices" (isArrayOf isDeviceSnapshot) &&
    required v "clients" (isArrayOf isClientSnapshot) &&
    optional v "websocketAppClients" isWebSocketClientSnapshotArray &&
    optional v "websocketWebClients" isWebSocketClientSnapshotArray &&
    optional v "debugInfo" isMultiplexerDebugInfo

def isLegacyOwnershipChangedEventData (v : Json) : Bool :=
  isRecord v && required v "status" (fun s => isText "attached" s || isText "unattached" s) &&
    required v "ownerPid" isNumber && optional v "previousOwnerPid" isNumber &&
    required v "reason" fun s => isText "daemon-started" s || isText "legacy-preempted" s ||
      isText "reacquire-requested" s || isText "stale-owner" s || isText "invalid-owner" s

def isConnectorError (v : Json) : Bool :=
  isRecord v && required v "code" isString && required v "message" isString &&
    optional v "deviceSerial" isString && optional v "clientId" isNumber

def isReport (v : Json) : Bool :=
  isRecord v && required v "eventName" isString && v.hasOwn "metrics" && v.hasOwn "categories"

def isClientMessage (v : Json) : Bool :=
  isRecord v && required v "source" (fun s => isText "usb-runtime" s ||
    isText "websocket-runtime" s || isText "websocket-driver" s) &&
    required v "id" isNumber && required v "message" isString

/-- The check of an event's `data`, by the name of the event. -/
def eventGuard : String → Option (Json → Bool)
  | "connector-error" => some isConnectorError
  | "report" => some isReport
  | "snapshot" => some isSnapshot
  | "legacy-ownership-changed" => some isLegacyOwnershipChangedEventData
  | "client-message" => some isClientMessage
  | _ => none

def isControlEvent (v : Json) : Bool :=
  isRecord v && required v "kind" (isText "event") && optional v "debugInfo" isMultiplexerDebugInfo &&
    match (v.get? "event").bind asString? with
    | none => false
    | some event => (eventGuard event).any (required v "data")

def isWebSocketServerInfo (v : Json) : Bool :=
  isRecord v && required v "port" isNumber && required v "host" isString &&
    optional v "roomId" isString

def isRegisterInfo (v : Json) : Bool :=
  isRecord v && optional v "app" isString && optional v "appVersion" isString &&
    optional v "deviceModel" isString && optional v "network" isString &&
    optional v "osVersion" isString && optional v "sdkVersion" isString

def isResponseMessage (v : Json) : Bool :=
  isRecord v && required v "event" isString && if required v "event" (isText "Register") then
      required v "data" fun data => isRecord data && required data "id" isNumber &&
        required data "info" isRegisterInfo
    else required v "event" (isText "Customized") && v.hasOwn "data"

def isPayload (v : Json) : Bool :=
  isRecord v && required v "client_id" isNumber && required v "session_id" isNumber &&
    v.hasOwn "message"

def isRequireMessage (v : Json) : Bool :=
  isRecord v && required v "event" isString &&
    if required v "event" (isText "Initialize") then required v "data" isNumber
    else required v "event" (isText "Customized") && required v "data" fun data =>
      isRecord data && required data "type" isString && required data "data" isPayload &&
        required data "sender" isNumber

inductive ResultMethod where
  | connectDevices | connectUsbClients | sendMessageWithReply | startWSServer
  deriving DecidableEq

def isControlRpcResult : ResultMethod → Json → Bool
  | .connectDevices => isArrayOf isDeviceSnapshot
  | .connectUsbClients => isArrayOf isClientSnapshot
  | .sendMessageWithReply => isResponseMessage
  | .startWSServer => isWebSocketServerInfo

def isControlRpcError (v : Json) : Bool :=
  isRecord v && required v "code" isString && required v "message" isString

def isControlRpcResponse (v : Json) (method : ResultMethod) : Bool :=
  isRecord v && required v "kind" (isText "rpc-response") && required v "id" isNumber &&
    required v "ok" isBoolean && optional v "debugInfo" isMultiplexerDebugInfo &&
    if required v "ok" truthy then required v "result" (isControlRpcResult method)
    else required v "error" isControlRpcError

/- Validation after a trip through the text -/

def Stable (guard : Json → Bool) : Prop := ∀ v : Json, guard v.normalize = guard v

variable (v : Json)

@[simp] theorem isRecord_normalize : isRecord v.normalize = isRecord v := by
  cases v with
  | num n => cases n <;> rfl
  | null | bool _ | str _ | arr _ | obj _ => rfl

@[simp] theorem hasOwn_normalize (key : String) : v.normalize.hasOwn key = v.hasOwn key := by
  simp [hasOwn, get?_normalize]

@[simp] theorem stable_isString : Stable isString := by
  intro v
  cases v with
  | num n => cases n <;> rfl
  | null | bool _ | str _ | arr _ | obj _ => rfl

@[simp] theorem stable_isNumber : Stable isNumber := by
  intro v
  cases v with
  | num n => cases n <;> rfl
  | null | bool _ | str _ | arr _ | obj _ => rfl

@[simp] theorem stable_isText (text : String) : Stable (isText text) := by
  intro v
  cases v with
  | num n => cases n <;> rfl
  | null | bool _ | str _ | arr _ | obj _ => rfl

variable {guard : Json → Bool}

@[simp] theorem stable_isArrayOf (h : Stable guard) : Stable (isArrayOf guard) := by
  intro v
  cases v with
  | num n => cases n <;> rfl
  | null | bool _ | str _ | obj _ => rfl
  | arr l =>
    simp only [Json.normalize, isArrayOf, normalizeItems_eq, List.all_map]
    exact congrArg l.all (funext h)

@[simp] theorem required_normalize (h : Stable guard) (v : Json)
    (key : String) : required v.normalize key guard = required v key guard := by
  simp only [required, get?_normalize]
  cases v.get? key with
  | none => rfl
  | some field => exact h field

@[simp] theorem optional_normalize (h : Stable guard) (v : Json)
    (key : String) : optional v.normalize key guard = optional v key guard := by
  simp only [optional, get?_normalize]
  cases v.get? key with
  | none => rfl
  | some field => exact h field

@[simp] theorem stable_isDebugInfo : Stable isMultiplexerDebugInfo := by
  intro v
  simp [isMultiplexerDebugInfo]

@[simp] theorem stable_isDevice : Stable isDeviceSnapshot := by
  intro v
  simp [isDeviceSnapshot, isNumberArray]

@[simp] theorem stable_isQuery : Stable isQuery := by
  intro v
  simp [isQuery]

@[simp] theorem stable_isClient : Stable isClientSnapshot := by
  intro v
  simp [isClientSnapshot]

@[simp] theorem stable_isWebSocketClient : Stable isWebSocketClientSnapshot := by
  intro v
  simp [isWebSocketClientSnapshot]

theorem stable_isSnapshot : Stable isSnapshot := by
  intro v
  simp [isSnapshot, isWebSocketClientSnapshotArray]

@[simp] theorem stable_isRegisterInfo : Stable isRegisterInfo := by
  intro v
  simp [isRegisterInfo]

theorem stable_isResponse : Stable isResponseMessage := by
  have d : Stable fun d => isRecord d && required d "id" isNumber &&
      required d "info" isRegisterInfo := by
    intro v
    simp
  intro v
  simp [isResponseMessage, d]

theorem stable_isControlRpcResult (method : ResultMethod) : Stable (isControlRpcResult method) := by
  cases method with
  | connectDevices => exact stable_isArrayOf stable_isDevice
  | connectUsbClients => exact stable_isArrayOf stable_isClient
  | sendMessageWithReply => exact stable_isResponse
  | startWSServer =>
    intro v
    simp [isControlRpcResult, isWebSocketServerInfo]

end DebugRouter.Protocol
