import DebugRouter.Daemon.Registry

/-!
What the daemon makes of a runtime's `Register` message. The fields are taken as they come:
only a missing or `null` one is replaced by a default.
-/
namespace DebugRouter.Peer

open Library Daemon

/-- The `ClientQuery` of `handleConnection` in the USB adapter of a device. -/
def registerQuery (device : Device) (info : Json) : ClientQuery :=
  let deviceModel := orElse (info.get? "deviceModel") (.str "")
  { app := orElse (info.get? "App") (.str "Unknow")
    os := device.os
    device := device.title
    deviceModel :=
      if device.os = "Mac" ∧ deviceModel = .str "iPhone" then .str "iPhone_FromMac" else deviceModel
    deviceId := device.serial
    sdkVersion := orElse (info.get? "sdkVersion") (.str "0.0.0")
    rawInfo := info }

/-- The `WebSocketClientInfo` of `onConnection`, for a `Register` whose `data` has the right id. -/
def registerInfo (id : Int) (data : Json) : WebSocketClientInfo :=
  let field := fun key => orElse (prop (data.get? "info") key) (.str "")
  { id := id
    app := field "app"
    debugRouterVersion := field "debugRouterVersion"
    deviceModel := field "deviceModel"
    osVersion := field "osVersion"
    sdkVersion := field "sdkVersion"
    type := data.get? "type"
    rawInfo := data.get? "info" }

end DebugRouter.Peer
