import DebugRouter.Protocol.Validation

/-!
The messages of the control connection besides its events: the handshake, the RPC requests with their
parameters and the responses.
-/
namespace DebugRouter.Protocol

open Library

inductive ControlRpcMethod where
  | connectDevices | connectUsbClients | watchNetworkDeviceAtIp | startDeviceClientWatcher
  | stopDeviceClientWatcher | disconnectDevice | shutdownDaemon | startWSServer
  | startAllDeviceClientWatchers | stopAllDeviceClientWatchers | sendMessageWithReply
  | sendMessageWithoutReply | closeClient
  deriving DecidableEq

def ControlRpcMethod.name : ControlRpcMethod → String
  | connectDevices => "connectDevices"
  | connectUsbClients => "connectUsbClients"
  | watchNetworkDeviceAtIp => "watchNetworkDeviceAtIp"
  | startDeviceClientWatcher => "startDeviceClientWatcher"
  | stopDeviceClientWatcher => "stopDeviceClientWatcher"
  | disconnectDevice => "disconnectDevice"
  | shutdownDaemon => "shutdownDaemon"
  | startWSServer => "startWSServer"
  | startAllDeviceClientWatchers => "startAllDeviceClientWatchers"
  | stopAllDeviceClientWatchers => "stopAllDeviceClientWatchers"
  | sendMessageWithReply => "sendMessageWithReply"
  | sendMessageWithoutReply => "sendMessageWithoutReply"
  | closeClient => "closeClient"

def controlRpcMethods : List ControlRpcMethod :=
  [.connectDevices, .connectUsbClients, .watchNetworkDeviceAtIp, .startDeviceClientWatcher,
    .stopDeviceClientWatcher, .disconnectDevice, .shutdownDaemon, .startWSServer,
    .startAllDeviceClientWatchers, .stopAllDeviceClientWatchers, .sendMessageWithReply,
    .sendMessageWithoutReply, .closeClient]

def ControlRpcMethod.named? (text : String) : Option ControlRpcMethod :=
  controlRpcMethods.find? fun method => method.name = text

/- Parameters -/

def isOptionalStringOrNull (v : Json) (key : String) : Bool :=
  optional v key fun value => value = .null || isString value

def hasOnlyKeys (keys : List String) : Json → Bool
  | .obj fields => fields.all fun field => decide (field.1 ∈ keys)
  | _ => false

def isEmptyRecord (v : Json) : Bool := isRecord v && hasOnlyKeys [] v

def isNonEmptyString : Json → Bool
  | .str text => text ≠ ""
  | _ => false

def isNonNegative : Json → Bool
  | .num (.finite x) => decide (0 ≤ x.units)
  | _ => false

/-- The two watchers take a device id and nothing else. -/
def isWatcherParams (params : Json) : Bool :=
  required params "deviceId" isNonEmptyString && hasOnlyKeys ["deviceId"] params

def isControlRpcParams (method : ControlRpcMethod) (params : Json) : Bool :=
  isRecord params && match method with
    | .connectDevices =>
      optional params "timeout" isNumber && isOptionalStringOrNull params "serial" &&
        optional params "isAutoListenClients" isBoolean
    | .connectUsbClients =>
      required params "deviceId" isString && optional params "timeout" isNumber &&
        optional params "waitTimeout" isBoolean && isOptionalStringOrNull params "clientName"
    | .watchNetworkDeviceAtIp =>
      required params "ip" isNonEmptyString && optional params "port" isNumberArray &&
        hasOnlyKeys ["ip", "port"] params
    | .startDeviceClientWatcher | .stopDeviceClientWatcher => isWatcherParams params
    | .disconnectDevice => required params "deviceId" isString
    | .shutdownDaemon => optional params "reason" isString
    | .startWSServer | .startAllDeviceClientWatchers | .stopAllDeviceClientWatchers =>
      hasOnlyKeys [] params
    | .sendMessageWithReply =>
      required params "clientId" isNumber && required params "message" isRequireMessage &&
        optional params "timeout" isNonNegative
    | .sendMessageWithoutReply =>
      required params "target" (fun target => isText "app" target || isText "web" target) &&
        required params "clientId" isNumber &&
        !(required params "target" (isText "app") &&
          required params "clientId" fun id => decide (id = Json.ofInt (-1))) &&
        params.hasOwn "message"
    | .closeClient => required params "clientId" isNumber

def isControlRpcRequest (v : Json) : Bool :=
  isRecord v && required v "kind" (isText "rpc") && required v "id" isNumber &&
    optional v "debugInfo" isMultiplexerDebugInfo &&
    match ((v.get? "method").bind Json.asString?).bind ControlRpcMethod.named? with
    | none => false
    | some method => required v "params" (isControlRpcParams method)

/- Responses -/

/-- The check of the results that carry data; the others are empty records. -/
def ControlRpcMethod.result? : ControlRpcMethod → Option ResultMethod
  | connectDevices => some .connectDevices
  | connectUsbClients => some .connectUsbClients
  | sendMessageWithReply => some .sendMessageWithReply
  | startWSServer => some .startWSServer
  | watchNetworkDeviceAtIp | startDeviceClientWatcher | stopDeviceClientWatcher
  | startAllDeviceClientWatchers | stopAllDeviceClientWatchers | disconnectDevice | shutdownDaemon
  | sendMessageWithoutReply | closeClient => none

def hasControlRpcResult (v : Json) : Option ControlRpcMethod → Bool
  | none => true
  | some method => required v "result" (method.result?.elim isEmptyRecord isControlRpcResult)

/-- `isControlRpcResponse(v, method)`, where the method may be left out. -/
def isControlRpcResponseTo (method : Option ControlRpcMethod) (v : Json) : Bool :=
  isRecord v && required v "kind" (isText "rpc-response") && required v "id" isNumber &&
    required v "ok" isBoolean && optional v "debugInfo" isMultiplexerDebugInfo &&
    if required v "ok" Json.truthy then hasControlRpcResult v method
    else required v "error" isControlRpcError

/- The handshake -/

def isMultiplexerHandshakeErrorResponse (v : Json) : Bool :=
  isRecord v && required v "kind" (isText "handshake-error-response") &&
    required v "error" isControlRpcError

def isMultiplexerRegisterResponse (v : Json) : Bool :=
  isRecord v && required v "kind" (isText "register-response") &&
    required v "ok" fun ok => decide (ok = .bool true)

def facadeSwitches : List String :=
  ["manualConnect", "enableWebSocket", "enableAndroid", "enableIOS", "enableHarmony", "enableDesktop",
    "enableNetworkDevice"]

def isHostPort (v : Json) : Bool :=
  isRecord v && optional v "host" isString && optional v "port" isNumber

def isConnectorFacadeOption (v : Json) : Bool :=
  isRecord v &&
    hasOnlyKeys (facadeSwitches ++
      ["adbHostPort", "hdcHostPort", "usbConnectOpt", "networkDeviceOpt"]) v &&
    facadeSwitches.all (fun key => optional v key isBoolean) && optional v "adbHostPort" isHostPort &&
    optional v "hdcHostPort" isHostPort &&
    optional v "usbConnectOpt" (fun opt => isRecord opt && required opt "retryTime" isNonNegative) &&
    optional v "networkDeviceOpt" fun opt =>
      isRecord opt && required opt "ip" isNonEmptyString && optional opt "port" isNumberArray

def isMultiplexerHealthRequest (v : Json) : Bool :=
  isRecord v && required v "kind" (isText "health") && optional v "debugInfo" isMultiplexerDebugInfo

def isMultiplexerRegisterRequest (v : Json) : Bool :=
  isRecord v && required v "kind" (isText "register") &&
    required v "reportServiceEnabled" isBoolean &&
    optional v "connectorFacadeOption" isConnectorFacadeOption &&
      optional v "debugInfo" isMultiplexerDebugInfo

end DebugRouter.Protocol
