import DebugRouter.Library.Json

/-!
The snapshot event as the Connector receives it, once the protocol's validators have
accepted it. Client ids are numbers of the wire, so they are doubles.
-/
namespace DebugRouter.Protocol
open Library

structure DeviceSnapshot where
  os : String
  title : String
  serial : String
  ports : List JsNumber
  host : String
  deriving DecidableEq

structure ClientQuery where
  app : String
  os : String
  device : String
  deviceModel : String
  deviceId : String
  sdkVersion : Option String
  deriving DecidableEq

structure ClientSnapshot where
  port : JsNumber
  id : JsNumber
  query : ClientQuery
  deriving DecidableEq

structure WebSocketClientSnapshot where
  id : JsNumber
  app : String
  debugRouterVersion : String
  deviceModel : String
  network : String
  osVersion : String
  sdkVersion : String
  type : String
  rawInfo : Json
  deriving DecidableEq

/-- The collections are left out by a Host that runs no WebSocket server. -/
structure Snapshot where
  devices : List DeviceSnapshot
  clients : List ClientSnapshot
  websocketAppClients : Option (List WebSocketClientSnapshot)
  websocketWebClients : Option (List WebSocketClientSnapshot)
  deriving DecidableEq

end DebugRouter.Protocol
