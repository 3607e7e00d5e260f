import Mathlib.Logic.Function.Basic
import DebugRouter.Library.Runs
import DebugRouter.Protocol.ControlRpc

/-!
`MultiplexerDaemonClient`: its control transports, the activations of `connectInternal` between
their awaits, and the table of pending RPCs. The callbacks of a socket and of a timer, the
resumption of an await and a call of a public method are the steps.
-/
namespace DebugRouter.Client

open Library Protocol

abbrev TransportId := Nat
abbrev FlowId := Nat

inductive Status where
  | disconnected | connecting | connected
  deriving DecidableEq

/-- Whose listener is installed: that of `registerTransport`, or `handleTransportMessage` and
`handleTransportClose`. -/
inductive Listener where
  | handshake | client
  deriving DecidableEq

inductive Handshake where
  | pending | resolved | rejected
  deriving DecidableEq

structure Transport where
  /-- `socket.destroyed`, which is `closed`. -/
  destroyed : Bool
  writable : Bool
  /-- The close event of the socket has come, and the listeners were called. -/
  announced : Bool
  connectListener : Bool
  messageListener : Option Listener
  closeListener : Option Listener
  timer : Bool
  handshake : Handshake
  deriving DecidableEq

def Transport.created : Transport :=
  ⟨false, true, false, true, some .handshake, some .handshake, true, .pending⟩

def Transport.absent : Transport := ⟨true, false, true, false, none, none, false, .rejected⟩

inductive FlowPoint where
  /-- `closeSocket` awaits `transport.end()`, which may have been resolved from the start. -/
  | closing (transport : TransportId) (ended : Bool)
  | ensuring
  | registering (transport : TransportId)
  | delaying
  | returned
  | thrown
  | finished
  deriving DecidableEq

/-- An activation of `connectInternal`. `connect` ensures the daemon, a shutdown call does not. -/
structure Flow where
  ensureDaemon : Bool
  attempt : Nat
  point : FlowPoint
  deriving DecidableEq

def connectMaxAttempts : Nat := 3

inductive ConnectionEvent where
  | connected
  | disconnected (error : String)
  deriving DecidableEq

/-- How a promise is settled; `name` is set when the error came from the daemon. -/
inductive Outcome where
  | resolved (result : Option Json)
  | rejected (name : Option String) (message : String)
  deriving DecidableEq

structure DaemonClient where
  transports : TransportId → Transport
  nextTransport : TransportId
  controlTransport : Option TransportId
  /-- The transport `unsubscribeTransportMessage` and `unsubscribeTransportClose` act on: they are set
  together and called together. -/
  unsubscribe : Option TransportId
  status : Status
  closed : Bool
  connectPromise : Option FlowId
  flows : FlowId → Option Flow
  nextFlow : FlowId
  /-- A JavaScript number; that it stays below 2⁵³ is left out. -/
  nextRpcId : Int
  pendingRpc : OrderedMap Int ControlRpcMethod
  timers : List Int
  settlements : List (Int × Outcome)
  events : List ConnectionEvent

/-- What `ensureDaemon` comes to. -/
inductive Ensured where
  | usable | retry | thrown
  deriving DecidableEq

/-- What happens outside while a step runs: whether a message can be packed and whether the write
throws, and whether `createConnection` throws. -/
structure Luck where
  packs : Bool
  writes : Bool
  creates : Bool
  deriving DecidableEq

inductive ClientAct where
  | connect
  /-- `call` up to its first await. What follows the await is `sendRpc`. -/
  | call (method : ControlRpcMethod) (params : Json) (ensureDaemon : Bool) (luck : Luck)
  | sendRpc (method : ControlRpcMethod) (luck : Luck)
  | resume (flow : FlowId) (ensured : Ensured) (luck : Luck)
  | settleConnect (flow : FlowId)
  | socketConnect (transport : TransportId) (luck : Luck)
  | message (transport : TransportId) (value : Json)
  /-- The socket is destroyed: its peer ended it, it failed, or it sent what is no frame. -/
  | destroy (transport : TransportId)
  | closeEvent (transport : TransportId)
  | handshakeTimeout (transport : TransportId)
  | rpcTimeout (id : Int)
  | close

namespace DaemonClient
variable (c : DaemonClient)

def initial : DaemonClient where
  transports := fun _ => .absent
  nextTransport := 0
  controlTransport := none
  unsubscribe := none
  status := .disconnected
  closed := false
  connectPromise := none
  flows := fun _ => none
  nextFlow := 0
  nextRpcId := 1
  pendingRpc := .empty
  timers := []
  settlements := []
  events := []

def update (t : TransportId) (change : Transport → Transport) : DaemonClient :=
  { c with transports := Function.update c.transports t (change (c.transports t)) }

def setPoint (f : FlowId) (point : FlowPoint) : DaemonClient :=
  { c with
    flows := Function.update c.flows f ((c.flows f).map fun flow => { flow with point := point }) }

/- RPCs -/

def settle (id : Int) (outcome : Outcome) : DaemonClient :=
  { c with
    pendingRpc := c.pendingRpc.delete id
    timers := c.timers.filter (· ≠ id)
    settlements := c.settlements ++ [(id, outcome)] }

def rejectAllPendingRpc (error : String) : DaemonClient :=
  c.pendingRpc.keys.foldl (fun c id => c.settle id (.rejected none error)) c

def createRpcError (error : Json) : Outcome :=
  .rejected ((error.get? "code").bind Json.asString?)
    (((error.get? "message").bind Json.asString?).getD "")

def responseOutcome (method : ControlRpcMethod) (response : Json) : Outcome :=
  if isControlRpcResponseTo (some method) response then
    if required response "ok" Json.truthy then .resolved (response.get? "result")
    else createRpcError ((response.get? "error").getD .null)
  else .rejected none ("Invalid multiplexer RPC " ++ method.name ++ " response payload")

def responseId (response : Json) : Option Int :=
  match response.get? "id" with
  | some (.num n) => n.toInt?
  | _ => none

def awaited (response : Json) : Option (Int × ControlRpcMethod) :=
  (responseId response).bind fun id => (c.pendingRpc.get? id).map (id, ·)

def handleRpcResponse (response : Json) : DaemonClient :=
  match c.awaited response with
  | none => c
  | some (id, method) => c.settle id (responseOutcome method response)

/-- Events and unknown messages change nothing here. -/
def handleTransportMessage (value : Json) : DaemonClient :=
  if isControlRpcResponseTo none value then c.handleRpcResponse value else c

def onRpcTimeout (id : Int) : DaemonClient :=
  if id ∈ c.timers then
    c.settle id (.rejected none (match c.pendingRpc.get? id with
      | some method => "Timed out waiting for multiplexer RPC " ++ method.name ++ " response"
      | none => "Timed out waiting for multiplexer RPC response"))
  else c

/- Transports -/

def destroy (t : TransportId) : DaemonClient :=
  c.update t fun transport => { transport with destroyed := true }

/-- `transport.send`: whether the frame was accepted. What is not writable is destroyed. -/
def send (t : TransportId) (luck : Luck) : DaemonClient × Bool :=
  if luck.packs = false then (c, false)
  else if (c.transports t).destroyed = false ∧ (c.transports t).writable = true ∧
      luck.writes = true then (c, true)
  else (c.destroy t, false)

/-- `transport.end()`, with whether the promise is resolved at once. -/
def endTransport (t : TransportId) : DaemonClient × Bool :=
  if (c.transports t).destroyed then (c, true)
  else (c.update t fun transport => { transport with writable := false }, false)

def unsubscribeTransport : DaemonClient :=
  match c.unsubscribe with
  | none => c
  | some t =>
    { c.update t fun transport =>
        { transport with messageListener := none, closeListener := none } with
      unsubscribe := none }

/-- `closeSocket`, with the transport whose end is awaited and whether it has ended. -/
def closeSocket (error : String) : DaemonClient × Option (TransportId × Bool) :=
  let transport := c.controlTransport
  let c := { c with controlTransport := none, status := .disconnected }.unsubscribeTransport
  let c := c.rejectAllPendingRpc error
  match transport with
  | none => (c, none)
  | some t =>
    let (c, ended) :=
      { c with events := c.events ++ [ConnectionEvent.disconnected error] }.endTransport t
    (c, some (t, ended))

/- The handshake -/

def settleHandshake (t : TransportId) (result : Handshake) : DaemonClient :=
  c.update t fun transport =>
    { transport with
      connectListener := false
      messageListener := none
      closeListener := none
      timer := false
      handshake := result }

def failHandshake (t : TransportId) : DaemonClient :=
  let c := c.settleHandshake t .rejected
  { c with
    controlTransport := if c.controlTransport = some t then none else c.controlTransport
    status := .disconnected }.destroy t

/-- The transport is not compared with `controlTransport` here. -/
def registered (t : TransportId) : DaemonClient :=
  let c := c.settleHandshake t .resolved
  { c.update t fun transport =>
      { transport with messageListener := some .client, closeListener := some .client } with
    unsubscribe := some t
    status := .connected
    events := c.events ++ [.connected] }

def onHandshakeMessage (t : TransportId) (value : Json) : DaemonClient :=
  if isMultiplexerHandshakeErrorResponse value then c.failHandshake t
  else if isMultiplexerRegisterResponse value then c.registered t
  else c.failHandshake t

def onMessage (t : TransportId) (value : Json) : DaemonClient :=
  if (c.transports t).destroyed then c
  else
    match (c.transports t).messageListener with
    | none => c
    | some .handshake => c.onHandshakeMessage t value
    | some .client => c.handleTransportMessage value

/-- The register request is sent; the handshake fails when it cannot be and the transport is not
closed. -/
def onConnect (t : TransportId) (luck : Luck) : DaemonClient :=
  if (c.transports t).connectListener then
    match c.send t luck with
    | (c, true) => c
    | (c, false) => if (c.transports t).destroyed then c else c.failHandshake t
  else c

/-- `notifyClose`. The socket is destroyed by then, and the listeners go. -/
def onCloseEvent (t : TransportId) : DaemonClient :=
  if (c.transports t).announced then c
  else
    let listener := (c.transports t).closeListener
    let c := c.update t fun transport =>
      { transport with destroyed := true, announced := true, connectListener := false }
    let c := match listener with
      | none => c
      | some .handshake => c.failHandshake t
      | some .client => (c.closeSocket "Multiplexer control socket closed").1
    c.update t fun transport => { transport with messageListener := none, closeListener := none }

def onHandshakeTimeout (t : TransportId) : DaemonClient :=
  if (c.transports t).timer then c.failHandshake t else c

/- `connectInternal` -/

def throwFlow (f : FlowId) : DaemonClient := { c with status := .disconnected }.setPoint f .thrown

def registerTransport (f : FlowId) (luck : Luck) : DaemonClient :=
  if c.closed then c.setPoint f .delaying
  else if luck.creates = false then { c with status := .disconnected }.setPoint f .delaying
  else
    { c with
      transports := Function.update c.transports c.nextTransport .created
      nextTransport := c.nextTransport + 1
      controlTransport := some c.nextTransport }.setPoint f (.registering c.nextTransport)

def proceed (f : FlowId) (ensureDaemon : Bool) (luck : Luck) : DaemonClient :=
  if c.closed then c.throwFlow f
  else if ensureDaemon then { c with status := .connecting }.setPoint f .ensuring
  else { c with status := .connecting }.registerTransport f luck

def attemptFlow (f : FlowId) (flow : Flow) (luck : Luck) : DaemonClient :=
  let c := { c with flows := Function.update c.flows f (some flow) }
  if connectMaxAttempts ≤ flow.attempt then c.throwFlow f
  else
    match c.closeSocket "Replacing multiplexer control socket", c.controlTransport with
    | (c, some (t, ended)), some _ => c.setPoint f (.closing t ended)
    | _, _ => c.proceed f flow.ensureDaemon luck

def connectInternal (ensureDaemon : Bool) (luck : Luck) : DaemonClient :=
  if c.status = .connected then c
  else
    { c with nextFlow := c.nextFlow + 1 }.attemptFlow c.nextFlow ⟨ensureDaemon, 0, .delaying⟩ luck

/-- `connect` with a flow of its own, unless there is one or there cannot be one. -/
def connect (luck : Luck) : DaemonClient :=
  if c.status = .connected ∨ c.connectPromise.isSome ∨ c.closed then c
  else { c.connectInternal true luck with connectPromise := some c.nextFlow }

def resume (f : FlowId) (ensured : Ensured) (luck : Luck) : DaemonClient :=
  match c.flows f with
  | none => c
  | some flow =>
    match flow.point with
    | .closing t ended =>
      if ended ∨ (c.transports t).announced then c.proceed f flow.ensureDaemon luck else c
    | .ensuring =>
      match ensured with
      | .usable => c.registerTransport f luck
      | .retry => c.attemptFlow f { flow with attempt := flow.attempt + 1 } luck
      | .thrown => c.throwFlow f
    | .registering t =>
      match (c.transports t).handshake with
      | .pending => c
      | .resolved => c.setPoint f .returned
      | .rejected => c.setPoint f .delaying
    | .delaying => c.attemptFlow f { flow with attempt := flow.attempt + 1 } luck
    | .returned | .thrown | .finished => c

def settleConnect (f : FlowId) : DaemonClient :=
  match c.flows f with
  | some ⟨true, _, .returned⟩ | some ⟨true, _, .thrown⟩ =>
    { c with connectPromise := none }.setPoint f .finished
  | _ => c

/- The public methods -/

/-- `sendRpc`. A missing transport is an error inside the executor of the promise, after the entry
was made. -/
def sendRpc (method : ControlRpcMethod) (luck : Luck) : DaemonClient :=
  if c.closed ∨ c.status ≠ .connected then c
  else
    let id := c.nextRpcId
    let failed := "Failed to send multiplexer RPC " ++ method.name ++ " request"
    let opened := { c with
      nextRpcId := id + 1
      pendingRpc := c.pendingRpc.set id method
      timers := c.timers ++ [id] }
    match c.controlTransport with
    | none => { opened with
        settlements := c.settlements ++
          [(id, .rejected (some "TypeError") "Cannot read properties of null")] }
    | some t =>
      match opened.send t luck with
      | (c, true) => c
      | (c, false) => c.settle id (.rejected none failed)

/-- `call` up to its first await; invalid parameters are an error before anything else. -/
def call (method : ControlRpcMethod) (params : Json) (ensureDaemon : Bool) (luck : Luck) :
    DaemonClient :=
  if isControlRpcParams method params = false then c
  else if ensureDaemon then c.connect luck
  else c.connectInternal false luck

def close : DaemonClient :=
  ({ c with closed := true, connectPromise := none }.closeSocket "Multiplexer remote client closed").1

def step : ClientAct → DaemonClient
  | .connect => c.connect ⟨true, true, true⟩
  | .call method params ensureDaemon luck => c.call method params ensureDaemon luck
  | .sendRpc method luck => c.sendRpc method luck
  | .resume f ensured luck => c.resume f ensured luck
  | .settleConnect f => c.settleConnect f
  | .socketConnect t luck => c.onConnect t luck
  | .message t value => c.onMessage t value
  | .destroy t => c.destroy t
  | .closeEvent t => c.onCloseEvent t
  | .handshakeTimeout t => c.onHandshakeTimeout t
  | .rpcTimeout id => c.onRpcTimeout id
  | .close => c.close

end DaemonClient

end DebugRouter.Client
