import DebugRouter.Library.Coercion
import DebugRouter.Daemon.Step
import DebugRouter.Transport.UsbFrame

/-!
What peers can throw at the daemon. A USB socket hands its bytes to an adapter, which unpacks the
messages and handles them in a function nobody awaits: what that function throws is an unhandled
rejection. A WebSocket is listened to by `messageHandler` until it has registered, and what that
one throws is an uncaught exception. Both end the daemon. On the way the Host makes texts of what
peers sent, and a value can be nested too deep for that.
-/
namespace DebugRouter.Peer

open Library Daemon Transport JsonText

inductive Thrown where
  | syntaxError
  | typeError
  | rangeError
  | unhandledErrorEvent
  deriving DecidableEq

def parseJson (text : List Char) : Except Thrown Json :=
  match parse (String.ofList text) with
  | some v => .ok v
  | none => .error .syntaxError

def requireObject (v : Option Json) : Except Thrown Json :=
  match v with
  | some v => if v = .null then .error .typeError else .ok v
  | none => .error .typeError

/-- What the engine can do before it throws a `RangeError`: the length of a string, and the values
whose texts `JSON.stringify` and `ToString` make on the stack there is, for a log line too. -/
structure Engine where
  limit : Nat
  stringifies : Json → Bool
  converts : Json → Bool

namespace Engine
variable (engine : Engine)

def stringifyAll (values : List Json) : Except Thrown Unit :=
  if values.all engine.stringifies then .ok () else .error .rangeError

def text? (v : Json) : Option (List Char) := if engine.converts v then toText v else none

/-- `ToString`, where `undefined` has a text of its own. -/
def textOf : Option Json → Except Thrown (List Char)
  | none => .ok "undefined".toList
  | some v =>
    match engine.text? v with
    | some text => .ok text
    | none => .error (if engine.converts v then .typeError else .rangeError)

end Engine

def hasEvent (message : Json) (event : String) : Bool := message.get? "event" = some (.str event)

/- USB -/

/-- `device_model?.indexOf("iPhone") !== -1`: only strings and arrays have the method. -/
def mentionsIPhone : Json → Except Thrown Bool
  | .str model => .ok (decide ("iPhone".toList <:+: model.toList))
  | .arr items => .ok (decide (.str "iPhone" ∈ items))
  | _ => .error .typeError

def isTargetClient (query : ClientQuery) (clientName : String) : Except Thrown Bool :=
  if query.os = "Android" ∧ query.rawInfo.get? "AppProcessName" = some (.str clientName) then .ok true
  else do
    let iPhone ← mentionsIPhone query.deviceModel
    .ok (iPhone && query.rawInfo.get? "App" = some (.str clientName))

def notifyAwaited (query : ClientQuery) : List String → Except Thrown Unit
  | [] => .ok ()
  | name :: rest => do
    let _ ← isTargetClient query name
    notifyAwaited query rest

/-- What there is around a message: the Host, and the clients that calls to the device wait for. -/
structure Surroundings where
  host : Host
  awaited : List String

def queryValue (query : ClientQuery) : Json :=
  .obj ([("app", query.app), ("os", .str query.os)] ++
    (query.device.map fun title => ("device", title)).toList ++
    [("device_model", query.deviceModel), ("device_id", .str query.deviceId),
      ("sdk_version", query.sdkVersion), ("raw_info", query.rawInfo)])

def clientValue (port : UInt16) (id : Int) (query : ClientQuery) : Json :=
  .obj [("port", .ofInt port.toNat), ("id", .ofInt id), ("query", queryValue query)]

def entryValue (entry : ClientListEntry) : Json :=
  .obj (("id", .ofInt entry.id) :: ((entry.type.map fun type => ("type", type)).toList ++
    [("info", entry.info)]))

/-- What `handleListClients` makes a text of, for each Driver. -/
def clientLists (outputs : List Output) : List Json :=
  outputs.filterMap fun
    | .clientList _ entries =>
      some (.obj [("event", .str "ClientList"), ("data", .arr (entries.map entryValue))])
    | _ => none

/-- The adapter of a forwarded port. -/
structure Adapted where
  device : Device
  port : UInt16

section Handlers
variable (engine : Engine) (around : Surroundings) (adapted : Adapted)

def clientId : Int := around.host.registry.createClientId.2

def idTaken : Bool :=
  around.host.registry.createClientId.1.usbClients.has (clientId around)

/-- `addConnection` and `regiserUsbClient`. The Host listens to `client-connected` first; the end is
`setClientTimeMap`. -/
def addConnection (info : Json) : Except Thrown Unit := do
  let query := registerQuery adapted.device info
  engine.stringifyAll [queryValue query]
  if idTaken around then .ok ()
  else
    engine.stringifyAll [clientValue adapted.port (clientId around) query]
    engine.stringifyAll (clientLists
      (around.host.outputs (.registerUsbClient adapted.port adapted.device info)))
    notifyAwaited query around.awaited
    engine.stringifyAll [info]

/-- `handleConnection`; the result is the id of a client that is registered now. -/
def handleConnection (message : List Char) : Except Thrown (Option Int) := do
  let response ← parseJson message
  if hasEvent response "Register" then
    let info ← requireObject (prop (response.get? "data") "info")
    addConnection engine around adapted info
    .ok (some (clientId around))
  else .ok none

/-- `emit` throws for `error`, which nobody listens to, and converts other names to strings. -/
def handleClientEvent (method : Option Json) : Except Thrown Unit :=
  if method = some (.str "error") then .error .unhandledErrorEvent
  else do
    let _ ← engine.textOf method
    .ok ()

/-- No request is pending in the daemon, so a reply has no callback. -/
def handleCdpMessage (cdpMessage : Json) : Except Thrown Unit :=
  if isTruthy (cdpMessage.get? "id") then do
    let _ ← engine.textOf (cdpMessage.get? "id")
    .ok ()
  else if isTruthy (cdpMessage.get? "method") then
    handleClientEvent engine (cdpMessage.get? "method")
  else .ok ()

def handleCustomized (data : Option Json) : Except Thrown Unit :=
  if prop data "type" = some (.str "CDP") ∨ prop data "type" = some (.str "App") then do
    let inner ← requireObject (prop data "data")
    handleCdpMessage engine (← parseJson (← engine.textOf (inner.get? "message")))
  else if prop data "type" = some (.str "SessionList") then .ok ()
  else do
    let _ ← requireObject data
    .ok ()

/-- The message that `normalizeRawResponse` makes a text of. -/
def replyValues (value : Json) : List Json :=
  match (innerData value).filter Json.truthy with
  | none => []
  | some inner =>
    match (Json.obj (spread inner)).get? "message" with
    | none | some (.str _) => []
    | some message => [message]

/-- What `handleRuntimeMessage` makes texts of. -/
def runtimeValues (t : Traffic) (clientId : Int) (message : String) : List Json :=
  let parsedValue := parseJsonMessageOrNull message
  match getRoutableCustomizedPayload parsedValue with
  | none => if parsedValue.truthy then [rewriteRuntimeClientIdData parsedValue clientId] else []
  | some (payload, globalMessageId) =>
    match (t.routeOf globalMessageId).filter (·.clientId = clientId) with
    | none => []
    | some route =>
      let restored := writeMessageId parsedValue payload route.originalId.1
      (if payload.messageWasString then [payload.message.setField "id" (.ofInt route.originalId.1)]
        else []) ++
      match route.requester, route.promise with
      | .control _, some _ => replyValues restored
      | .control _, none => [restored]
      | .webSocket _, _ => [rewriteRuntimeClientIdData restored clientId]

def hostValues (id : Int) (message : List Char) : List Json :=
  if around.host.registry.legacyOwnershipAttached then
    runtimeValues around.host.traffic id (String.ofList message)
  else []

/-- The message of a registered client; the Host has it first. -/
def handleRegistered (id : Int) (message : List Char) : Except Thrown Unit := do
  engine.stringifyAll (hostValues around id message)
  let response ← requireObject (some (← parseJson message))
  if hasEvent response "Customized" then handleCustomized engine (response.get? "data") else .ok ()

def handleMessage (connected : Option Int) (message : List Char) : Except Thrown (Option Int) :=
  match connected with
  | some id => do
    handleRegistered engine around id message
    .ok (some id)
  | none => handleConnection engine around adapted message

end Handlers

/-- What became of the messages so far: their number, the client they registered, and what was
thrown at them. -/
structure Settled where
  heard : Nat
  connected : Option Int
  rejections : List Thrown

def Settled.hear (engine : Engine) (around : Nat → Surroundings) (adapted : Adapted) (s : Settled)
    (message : List Char) : Settled :=
  match handleMessage engine (around s.heard) adapted s.connected message with
  | .ok connected => ⟨s.heard + 1, connected, s.rejections⟩
  | .error thrown => ⟨s.heard + 1, s.connected, s.rejections ++ [thrown]⟩

/-- An adapter between two chunks: no complete frame is left in its buffer. -/
structure ClientAdapter (limit : Nat) extends Settled where
  adapted : Adapted
  intake : Intake UInt8 StringTooLong
  drained : ∀ buffer, intake = .reading buffer → unpack limit buffer = .wait buffer

theorem drained_feed {limit : Nat} {intake : Intake UInt8 StringTooLong}
    (data buffer : List UInt8) (h : ((usbFraming limit).feed intake data).2 = .reading buffer) :
    unpack limit buffer = .wait buffer := by
  cases intake with
  | failed error => cases h
  | reading before =>
    refine Scanner.scan_drained (S := (usbFraming limit).toScanner) ?_ (before ++ data) h
    intro buffer kept waits
    have all := (usbFraming limit).wait_keeps waits
    subst all
    exact waits

/-- `handleData` catches what `handleUnpackMessage` throws, and that is only a string that is too
long: `handleMessage` is not waited for. -/
def ClientAdapter.handleData (engine : Engine) (around : Nat → Surroundings)
    (adapter : ClientAdapter engine.limit) (data : List UInt8) : ClientAdapter engine.limit :=
  let unpacked := (usbFraming engine.limit).feed adapter.intake data
  { (unpacked.1.map Utf8.decode).foldl (Settled.hear engine around adapter.adapted)
      adapter.toSettled with
    adapted := adapter.adapted, intake := unpacked.2, drained := drained_feed data }

/- WebSockets -/

def accepts (clientId : Int) (response : Json) : Bool :=
  hasEvent response "Register" && (prop (response.get? "data") "id" = some (Json.ofInt clientId))

/-- A WebSocket of the daemon; `exceptions` are those its listeners threw, and `handleConnection`
once the `Register` was accepted. -/
structure DaemonSocket where
  clientId : Int
  heard : Nat
  registered : Bool
  exceptions : List Thrown

/-- `messageHandler`; the result is the accepted `Register`. -/
def messageHandler (clientId : Int) (data : List Char) : Except Thrown (Option Json) := do
  let response ← requireObject (some (← parseJson data))
  .ok (if accepts clientId response then response.get? "data" else none)

/-- A registered client's `handleMessage` catches everything. The list of clients is made for every
Driver when one registers, and nobody waits for that. -/
def DaemonSocket.onMessage (engine : Engine) (around : Nat → Surroundings) (socket : DaemonSocket)
    (data : List Char) : DaemonSocket :=
  let next := { socket with heard := socket.heard + 1 }
  if socket.registered then next
  else
    match messageHandler socket.clientId data with
    | .error thrown => { next with exceptions := socket.exceptions ++ [thrown] }
    | .ok none => next
    | .ok (some register) =>
      match engine.stringifyAll (clientLists ((around socket.heard).host.outputs
        (.webSocketRegistered socket.clientId register))) with
      | .ok () => { next with registered := true }
      | .error thrown =>
        { next with registered := true, exceptions := socket.exceptions ++ [thrown] }

/- What peers may send -/

/-- The values that `indexOf` can be called on, by default `""`. -/
def indexable : Option Json → Bool
  | none | some .null | some (.str _) | some (.arr _) => true
  | _ => false

section Harmless
variable (engine : Engine) (around : Surroundings) (adapted : Adapted)

def AllTexts (values : List Json) : Prop := ∀ v ∈ values, engine.stringifies v = true

/-- The values made into texts for a new client. -/
def registerValues (info : Json) : List Json :=
  queryValue (registerQuery adapted.device info) :: if idTaken around then [] else
    clientValue adapted.port (clientId around) (registerQuery adapted.device info) :: info ::
      clientLists (around.host.outputs (.registerUsbClient adapted.port adapted.device info))

def HarmlessInfo (info : Json) : Prop :=
  AllTexts engine (registerValues around adapted info) ∧
    (idTaken around = false → ∀ name ∈ around.awaited,
      (adapted.device.os = "Android" ∧ info.get? "AppProcessName" = some (.str name)) ∨
        indexable (info.get? "deviceModel") = true)

/-- JSON, and when it is a `Register` it has an `info`. -/
def HarmlessFirst (message : List Char) : Prop :=
  ∃ response, parse (String.ofList message) = some response ∧
    (hasEvent response "Register" = true →
      ∃ info, prop (response.get? "data") "info" = some info ∧ info ≠ .null ∧
        HarmlessInfo engine around adapted info)

/-- A truthy `id`, or else a truthy `method`, has a text, and the method is not `error`. -/
def HarmlessCdp (cdpMessage : Json) : Prop :=
  if isTruthy (cdpMessage.get? "id") then
    ((cdpMessage.get? "id").bind engine.text?).isSome = true
  else isTruthy (cdpMessage.get? "method") = true →
    cdpMessage.get? "method" ≠ some (.str "error") ∧
      ((cdpMessage.get? "method").bind engine.text?).isSome = true

/-- A `Customized` message has a `data`, and in a CDP or App message its inner `message` is the text
of a harmless value. -/
def HarmlessData (data : Option Json) : Prop :=
  nullish data = false ∧
    (prop data "type" = some (.str "CDP") ∨ prop data "type" = some (.str "App") →
      ∃ inner text cdpMessage, prop data "data" = some inner ∧
        (inner.get? "message").bind engine.text? = some text ∧
        parse (String.ofList text) = some cdpMessage ∧ HarmlessCdp engine cdpMessage)

def HarmlessLater (id : Int) (message : List Char) : Prop :=
  AllTexts engine (hostValues around id message) ∧
    ∃ response, parse (String.ofList message) = some response ∧ response ≠ .null ∧
      (hasEvent response "Customized" = true → HarmlessData engine (response.get? "data"))

end Harmless

def registers (message : List Char) : Bool :=
  (parse (String.ofList message)).any (hasEvent · "Register")

def Harmless (engine : Engine) (around : Nat → Surroundings) (adapted : Adapted) :
    Nat → Option Int → List (List Char) → Prop
  | _, _, [] => True
  | n, none, message :: rest =>
    HarmlessFirst engine (around n) adapted message ∧
      Harmless engine around adapted (n + 1)
        (if registers message then some (clientId (around n)) else none) rest
  | n, some id, message :: rest =>
    HarmlessLater engine (around n) id message ∧
      Harmless engine around adapted (n + 1) (some id) rest

/-- Up to the `Register` with the socket's own id, the messages are JSON other than `null`; then the
lists of clients can be made into texts. -/
def Introduced (engine : Engine) (around : Nat → Surroundings) (clientId : Int) :
    Nat → List (List Char) → Prop
  | _, [] => True
  | n, message :: rest => ∃ response, parse (String.ofList message) = some response ∧
    response ≠ .null ∧
      match (response.get? "data").filter fun _ => accepts clientId response with
      | none => Introduced engine around clientId (n + 1) rest
      | some register => AllTexts engine
          (clientLists ((around n).host.outputs (.webSocketRegistered clientId register)))

end DebugRouter.Peer
