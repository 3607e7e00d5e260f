import DebugRouter.Library.Runs
import DebugRouter.Native.Core
import DebugRouter.Native.Switchboard
import DebugRouter.Native.UsbServer
import DebugRouter.Native.WebSocket

/-!
The native runtime: the core, its executor and switches, and the two transports. Calls of the
application, callbacks of the WebSocket threads and tasks of the executor interleave freely; a
handler of the core is one step, the switches move by atomic operations.
-/
namespace DebugRouter.Native

/-- What the core and the USB server post to the executor, `UpdateServerState` apart. -/
inductive Task where
  | connect (url room : String)
  | disconnect
  | reconnect
  | usb (task : UsbTask)
  deriving DecidableEq

structure System where
  core : Core
  board : Switchboard Task
  webSocket : WebSocketClient
  usbServer : UsbServer
  heard : List ListenerEvent
  attempts : List String

inductive Act where
  | connect (url room : String)
  | connectAsync (url room : String)
  | disconnect
  | disconnectAsync
  | send (message : String)
  | setConfig (forbidReconnectWhenClose : String)
  | call (switch : Switch)
  | advance (i : Nat)
  | take
  | work
  | webSocketWorker (failure : Option Failure)
  | webSocketTask (failure : Option Failure)
  | webSocketThrow
  | accept
  | usbClient (task : UsbTask)

namespace System

def initial : System := ⟨.initial, .initial, .initial, .initial, [], []⟩

def post (s : System) (task : Task) : System := { s with board := s.board.post task }

/-- `Post` runs its work at once when it is called on the executor's own thread. -/
def perform (onExecutor : Bool) (s : System) : Effect → System
  | .report _ _ => s
  | .transceiverConnect .webSocket url =>
    { s with webSocket := s.webSocket.submit (.connect url), attempts := s.attempts ++ [url] }
  | .transceiverConnect .usb _ => s
  | .transceiverDisconnect .webSocket => { s with webSocket := s.webSocket.submit .disconnect }
  | .transceiverDisconnect .usb =>
    if onExecutor then { s with usbServer := s.usbServer.disconnect.server }
    else s.post (.usb .disconnect)
  | .transceiverSend .webSocket message =>
    { s with webSocket := s.webSocket.submit (.send message) }
  | .transceiverSend .usb _ => s
  | .notifyConnectState _ => s
  | .listener event => { s with heard := s.heard ++ [event] }
  -- Only callbacks of the WebSocket threads retry.
  | .postReconnect => s.post .reconnect

def handle (onExecutor : Bool) (s : System) (handled : Core × List Effect) : System :=
  handled.2.foldl (perform onExecutor) { s with core := handled.1 }

def notify (s : System) : Notice → System
  | .onStatusChanged .connected _ _ => s.handle true (s.core.onOpen .usb)
  | .onStatusChanged .disconnected _ _ => s.handle true (s.core.onClosed .usb)
  | .onStatusChanged .error code info => s.handle true (s.core.onFailure .usb info code)
  | .onMessage _ => s

def runTask (s : System) : Task → System
  | .connect url room => s.handle true (s.core.connect url room false)
  | .disconnect => s.handle true s.core.disconnect
  | .reconnect => s.handle true s.core.reconnect
  | .usb task =>
    let handled := s.usbServer.run task
    handled.notices.foldl notify { s with usbServer := handled.server }

def callback (s : System) : Option Callback → System
  | none => s
  | some .onOpen => s.handle false (s.core.onOpen .webSocket)
  | some .onClosed => s.handle false (s.core.onClosed .webSocket)
  | some (.onFailure failure) =>
    s.handle false (s.core.onFailure .webSocket failure.message failure.code)

def advance (s : System) (i : Nat) : System :=
  { s with
    board := s.board.advance i (s.core.currentTransceiver = some .usb)
    core :=
      if s.board.calls[i]? = some .storeDisconnected then
        { s.core with connectionState := .disconnected }
      else s.core }

def take (s : System) : System :=
  match s.board.task, s.board.queue with
  | none, .other task :: _ => { s with board := s.board.take }.runTask task
  | _, _ => { s with board := s.board.take }

/-- The part of the update task outside the flags: the current USB transport is closed before its
server stops. -/
def serve (s : System) : TaskPoint → System
  | .closeUsb false =>
    if s.core.currentTransceiver = some .usb then
      (s.handle true (s.core.onClosed .usb)).perform true (.transceiverDisconnect .usb)
    else s
  | .applyServers true => { s with usbServer := s.usbServer.startServer }
  | .applyServers false => { s with usbServer := s.usbServer.stopServer }
  | _ => s

def work (s : System) : System :=
  match s.board.task with
  | none => s
  | some point =>
    let served := s.serve point
    { served with board := served.board.work }

def step (s : System) : Act → System
  | .connect url room => s.handle false (s.core.connect url room false)
  | .connectAsync url room => s.post (.connect url room)
  | .disconnect => s.handle false s.core.disconnect
  | .disconnectAsync => s.post .disconnect
  | .send message => ((s.core.send message).getD []).foldl (perform false) s
  | .setConfig value => { s with core := { s.core with forbidReconnectWhenClose := value } }
  | .call switch => { s with board := s.board.step (.call switch) }
  | .advance i => s.advance i
  | .take => s.take
  | .work => s.work
  | .webSocketWorker failure =>
    let (moved, called) := s.webSocket.stepWorker failure
    { s with webSocket := moved }.callback called
  | .webSocketTask failure =>
    let (moved, called) := s.webSocket.stepTask failure
    { s with webSocket := moved }.callback called
  | .webSocketThrow => { s with webSocket := s.webSocket.throwMessage }
  | .accept => if s.usbServer.running then { s with usbServer := s.usbServer.accept.server } else s
  | .usbClient task =>
    match task.client? with
    | some client => if client < s.usbServer.accepted then s.post (.usb task) else s
    | none => s

/- The effects of a handler leave the core alone -/

@[simp] theorem perform_core (own : Bool) (s : System) (effect : Effect) :
    (s.perform own effect).core = s.core := by
  cases effect with
  | transceiverConnect ty url => cases ty <;> rfl
  | transceiverDisconnect ty => cases ty <;> cases own <;> rfl
  | transceiverSend ty msg => cases ty <;> rfl
  | report | notifyConnectState | listener | postReconnect => rfl

@[simp] theorem performAll_core (own : Bool) (s : System) (effects : List Effect) :
    (effects.foldl (perform own) s).core = s.core :=
  Library.foldl_unchanged (perform_core own) s effects

@[simp] theorem handle_core (own : Bool) (s : System) (handled : Core × List Effect) :
    (s.handle own handled).core = handled.1 := by
  simp [handle]

end System

end DebugRouter.Native
