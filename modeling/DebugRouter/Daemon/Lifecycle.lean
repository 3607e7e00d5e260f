import DebugRouter.Library.Holders
import DebugRouter.Library.Runs

/-!
The life of the Host: `start`, `stop` and `startWSServer`, which await each other, and the idle
timer. Every call is a run of its own with the point it has reached; a step is what happens between
two awaits. The promises that the Host keeps are the numbers of the runs they belong to.
-/
namespace DebugRouter.Daemon

open Library

inductive LifecycleStatus where
  | uninitialized | ready | closed
  deriving DecidableEq

/-- A run of `startInternal`, with the `catch` and `finally` of `start` behind it. -/
inductive StartPoint where
  | listening
  | claiming
  | succeeded
  | failed
  | rollingBack (stop : Nat)
  | refused
  | settled (ok : Bool)
  deriving DecidableEq

inductive StopPoint where
  | awaitingStart (start : Nat)
  | awaitingWebSocket (startup : Nat)
  | closingController
  | stoppingControlServer
  | closingPhysical
  | closingRecorder
  | done
  deriving DecidableEq

/-- A run of `startWebSocketServerInternal`, with the handlers behind it. -/
inductive StartupPoint where
  | detecting
  | listening
  | opened
  | rejected
  | closing
  | leaving (ok : Bool)
  | settled (ok : Bool)
  deriving DecidableEq

inductive CallPoint where
  | waiting (startup : Nat)
  | returned
  | thrown
  deriving DecidableEq

structure WebSocketCall where
  controlId : Nat
  point : CallPoint
  deriving DecidableEq

structure LifeOption where
  idleTimeoutHandler : Bool
  multiplexerDaemonIdleTimeout : Int
  shutdownHandler : Bool

structure Consumers where
  activeControlIds : List Nat
  activeWebSocketDriverIds : List Int
  idleTimer : Bool
  shutdownRequested : Bool
  nextControlId : Nat
  /-- The controls and Drivers that are connected, whatever the Host keeps of them. -/
  controls : List Nat
  drivers : List Int
  /-- The Host has been ready; the timer has fired; a shutdown was requested. -/
  wasReady : Bool
  fired : Bool
  asked : Bool
  idleCalls : Nat
  deriving DecidableEq

/-- The controller and the information carry the number of the startup that made them. -/
structure WebSocketServing where
  enableWebSocket : Bool
  webSocketController : Option Nat
  webSocketServerInfo : Option Nat
  webSocketServerStarted : Bool
  webSocketServerStarting : Option Nat
  webSocketRequesterControlIds : List Nat
  startups : List StartupPoint
  calls : List WebSocketCall
  deriving DecidableEq

structure LifeHost where
  option : LifeOption
  lifecycleStatus : LifecycleStatus
  startingPromise : Option Nat
  starts : List StartPoint
  stops : List StopPoint
  controlServer : Bool
  consumers : Consumers
  web : WebSocketServing
  /-- The physical connector was closed, and with it its devices and clients. -/
  physicalClosed : Bool
  pendingRoutes : List Nat
  watcherMarks : List String
  stopInternals : Nat

inductive LifeAct where
  | start
  | advanceStart (start : Nat) (ok : Bool)
  | stop
  | advanceStop (stop : Nat)
  | startWSServer (controlId : Nat)
  | advanceStartup (startup : Nat) (ok : Bool)
  | resumeCall (call : Nat)
  | controlConnected (enableWebSocket : Bool)
  | controlDisconnected (controlId : Nat)
  | driverConnected (clientId : Int)
  | driverDisconnected (clientId : Int)
  | requestDaemonShutdown
  | idleTimeout
  /-- A request opens a route or a watcher is started; both need a device or a runtime. -/
  | served (globalMessageId : Nat) (deviceId : String)
  deriving DecidableEq

namespace Consumers
variable (c : Consumers)

def none : Consumers := ⟨[], [], false, false, 1, [], [], false, false, false, 0⟩

def isInUse : Bool := !c.activeControlIds.isEmpty || !c.activeWebSocketDriverIds.isEmpty

def clearIdleTimeout : Consumers := { c with idleTimer := false }

def onIdleTimeout : Consumers :=
  if c.idleTimer then
    let c := { c with idleTimer := false, fired := true }
    if c.isInUse then c else { c with idleCalls := c.idleCalls + 1 }
  else c

def detached : Consumers :=
  { c.clearIdleTimeout with
    shutdownRequested := false
    activeControlIds := []
    activeWebSocketDriverIds := [] }

end Consumers

namespace WebSocketServing
variable (w : WebSocketServing)

def none (enableWebSocket : Bool) : WebSocketServing :=
  ⟨enableWebSocket, .none, .none, false, .none, [], [], []⟩

def addCall (controlId : Nat) (point : CallPoint) : WebSocketServing :=
  { w with calls := w.calls ++ [⟨controlId, point⟩] }

def forget (controlId : Nat) : WebSocketServing :=
  { w with webSocketRequesterControlIds := w.webSocketRequesterControlIds.filter (· ≠ controlId) }

def request (controlId : Nat) : WebSocketServing :=
  if w.enableWebSocket = false then w.addCall controlId .thrown
  else
    let w :=
      { w with webSocketRequesterControlIds := insertLast controlId w.webSocketRequesterControlIds }
    if w.webSocketServerStarted then
      match w.webSocketServerInfo with
      | .none => (w.forget controlId).addCall controlId .thrown
      | some _ => w.addCall controlId .returned
    else
      match w.webSocketServerStarting with
      | some startup => w.addCall controlId (.waiting startup)
      | .none =>
        { w with
          startups := w.startups ++ [StartupPoint.detecting]
          webSocketServerStarting := some w.startups.length }.addCall controlId
            (.waiting w.startups.length)

def setStartup (startup : Nat) (point : StartupPoint) : WebSocketServing :=
  { w with startups := w.startups.set startup point }

def advance (startup : Nat) (ok : Bool) : WebSocketServing :=
  match w.startups[startup]? with
  | .none => w
  | some .detecting =>
    if ok then { w with webSocketController := some startup }.setStartup startup .listening
    else w.setStartup startup .rejected
  | some .listening => w.setStartup startup (if ok then .opened else .rejected)
  | some .opened =>
    { w with
      webSocketServerStarted := true
      webSocketServerInfo := some startup }.setStartup startup (.leaving true)
  | some .rejected => { w with webSocketController := .none }.setStartup startup .closing
  | some .closing => w.setStartup startup (.leaving false)
  | some (.leaving ok) => { w with webSocketServerStarting := .none }.setStartup startup (.settled ok)
  | some (.settled _) => w

def resume (call : Nat) : WebSocketServing :=
  match w.calls[call]? with
  | some ⟨controlId, .waiting startup⟩ =>
    match w.startups[startup]? with
    | some (.settled true) => { w with calls := w.calls.set call ⟨controlId, .returned⟩ }
    | some (.settled false) =>
      { w.forget controlId with calls := w.calls.set call ⟨controlId, .thrown⟩ }
    | _ => w
  | _ => w

def detached : WebSocketServing :=
  { w with
    webSocketRequesterControlIds := []
    webSocketController := .none
    webSocketServerInfo := .none
    webSocketServerStarted := false }

end WebSocketServing

namespace LifeHost
variable (h : LifeHost)

def initial (option : LifeOption) (enableWebSocket : Bool) : LifeHost where
  option := option
  lifecycleStatus := .uninitialized
  startingPromise := none
  starts := []
  stops := []
  controlServer := false
  consumers := .none
  web := .none enableWebSocket
  physicalClosed := false
  pendingRoutes := []
  watcherMarks := []
  stopInternals := 0

def scheduleIdleTimeoutIfNeeded : LifeHost :=
  if h.lifecycleStatus ≠ .ready ∨ h.option.idleTimeoutHandler = false then h
  else if h.option.multiplexerDaemonIdleTimeout < 0 ∨ h.consumers.isInUse then h
  else { h with consumers := { h.consumers with idleTimer := true } }

/- `stop` -/

def stopInternal : LifeHost × StopPoint :=
  let entered := { h with
    stopInternals := h.stopInternals + 1
    consumers := h.consumers.detached
    web := h.web.detached }
  if h.web.webSocketController.isSome then (entered, .closingController)
  else ({ entered with controlServer := false }, .stoppingControlServer)

def afterStart : LifeHost × StopPoint :=
  match h.web.webSocketServerStarting with
  | some startup => (h, .awaitingWebSocket startup)
  | none => h.stopInternal

def beginStop : LifeHost :=
  let closed := { h with lifecycleStatus := .closed }
  let (reached, point) : LifeHost × StopPoint :=
    match h.startingPromise with
    | some start => (closed, .awaitingStart start)
    | none => closed.afterStart
  { reached with stops := h.stops ++ [point] }

def stop : LifeHost := if h.lifecycleStatus = .closed then h else h.beginStop

def isSettled : StartPoint → Bool
  | .settled _ => true
  | _ => false

def startupSettled : StartupPoint → Bool
  | .settled _ => true
  | _ => false

def setStop (stop : Nat) (reached : LifeHost × StopPoint) : LifeHost :=
  { reached.1 with stops := h.stops.set stop reached.2 }

/-- What an awaited step of `stopInternal` throws is collected, and changes nothing else. -/
def advanceStop (stop : Nat) : LifeHost :=
  match h.stops[stop]? with
  | none => h
  | some (.awaitingStart start) =>
    if h.starts[start]?.any isSettled then h.setStop stop h.afterStart else h
  | some (.awaitingWebSocket startup) =>
    if h.web.startups[startup]?.any startupSettled then h.setStop stop h.stopInternal else h
  | some .closingController =>
    h.setStop stop ({ h with controlServer := false }, .stoppingControlServer)
  | some .stoppingControlServer =>
    h.setStop stop ({ h with physicalClosed := true }, .closingPhysical)
  | some .closingPhysical =>
    -- `finally { this.clearRuntimeState(); }`
    h.setStop stop ({ h with pendingRoutes := [], watcherMarks := [] }, .closingRecorder)
  | some .closingRecorder => h.setStop stop (h, .done)
  | some .done => h

/- `start` -/

def start : LifeHost :=
  if h.lifecycleStatus = .closed then h
  else if h.lifecycleStatus = .ready then h
  else if h.startingPromise.isSome then h
  else
    { h with
      startingPromise := some h.starts.length
      starts := h.starts ++ [.listening]
      consumers := { h.consumers with shutdownRequested := false } }

def setStart (start : Nat) (point : StartPoint) : LifeHost :=
  { h with starts := h.starts.set start point }

def becomeReady : LifeHost :=
  if h.lifecycleStatus = .uninitialized then
    { h with
      lifecycleStatus := .ready
      consumers := { h.consumers with wasReady := true } }.scheduleIdleTimeoutIfNeeded
  else h

/-- The handler of `catch` clears the promise first, so that its own `stop()` does not wait for it. -/
def rollBack (start : Nat) : LifeHost :=
  let h := { h with startingPromise := none }
  if h.lifecycleStatus = .closed then h.setStart start .refused
  else h.beginStop.setStart start (.rollingBack h.stops.length)

def advanceStart (start : Nat) (ok : Bool) : LifeHost :=
  match h.starts[start]? with
  | none => h
  | some .listening =>
    if ok then { h with controlServer := true }.setStart start .claiming else h.setStart start .failed
  | some .claiming => if ok then h.becomeReady.setStart start .succeeded else h.setStart start .failed
  | some .succeeded => { h with startingPromise := none }.setStart start (.settled true)
  | some .failed => h.rollBack start
  | some (.rollingBack stop) => if h.stops[stop]? = some .done then h.setStart start .refused else h
  | some .refused => { h with startingPromise := none }.setStart start (.settled false)
  | some (.settled _) => h

/- `startWSServer` and the consumers -/

def startWSServer (controlId : Nat) : LifeHost :=
  if h.lifecycleStatus = .closed then { h with web := h.web.addCall controlId .thrown }
  else { h with web := h.web.request controlId }

def controlConnected (enableWebSocket : Bool) : LifeHost :=
  let id := h.consumers.nextControlId
  { h with
    consumers := { h.consumers with
      nextControlId := id + 1
      controls := insertLast id h.consumers.controls
      activeControlIds := insertLast id h.consumers.activeControlIds }.clearIdleTimeout
    web := { h.web with enableWebSocket := h.web.enableWebSocket || enableWebSocket } }

def controlDisconnected (id : Nat) : LifeHost :=
  { h with
    consumers := { h.consumers with
      controls := h.consumers.controls.filter (· ≠ id)
      activeControlIds := h.consumers.activeControlIds.filter (· ≠ id) }
    web := h.web.forget id }.scheduleIdleTimeoutIfNeeded

def driverConnected (id : Int) : LifeHost :=
  { h with consumers := { h.consumers with
      drivers := insertLast id h.consumers.drivers
      activeWebSocketDriverIds := insertLast id h.consumers.activeWebSocketDriverIds
        }.clearIdleTimeout }

def driverDisconnected (id : Int) : LifeHost :=
  { h with consumers := { h.consumers with
      drivers := h.consumers.drivers.filter (· ≠ id)
      activeWebSocketDriverIds := h.consumers.activeWebSocketDriverIds.filter (· ≠ id) }
  }.scheduleIdleTimeoutIfNeeded

def requestDaemonShutdown : LifeHost :=
  if h.option.shutdownHandler = false then h
  else if h.consumers.shutdownRequested then h
  else { h with
    consumers := { h.consumers with shutdownRequested := true, asked := true }.clearIdleTimeout }

def served (globalMessageId : Nat) (deviceId : String) : LifeHost :=
  if h.physicalClosed then h
  else
    { h with
      pendingRoutes := insertLast globalMessageId h.pendingRoutes
      watcherMarks := insertLast deviceId h.watcherMarks }

def step : LifeAct → LifeHost
  | .start => h.start
  | .advanceStart start ok => h.advanceStart start ok
  | .stop => h.stop
  | .advanceStop stop => h.advanceStop stop
  | .startWSServer controlId => h.startWSServer controlId
  | .advanceStartup startup ok => { h with web := h.web.advance startup ok }
  | .resumeCall call => { h with web := h.web.resume call }
  | .controlConnected enableWebSocket => h.controlConnected enableWebSocket
  | .controlDisconnected id => h.controlDisconnected id
  | .driverConnected id => h.driverConnected id
  | .driverDisconnected id => h.driverDisconnected id
  | .requestDaemonShutdown => h.requestDaemonShutdown
  | .idleTimeout => { h with consumers := h.consumers.onIdleTimeout }
  | .served globalMessageId deviceId => h.served globalMessageId deviceId

end LifeHost

end DebugRouter.Daemon
