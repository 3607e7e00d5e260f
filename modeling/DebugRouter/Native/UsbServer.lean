import Mathlib.Data.List.Basic

/-!
The client slots of `SocketServer`: `temp_usb_client_` is the client accepted last, `usb_client_`
the one the listener was told of. A client is the number of its accept. The handlers run as tasks
of the executor and hold `client_lock_`, so each of them is one step.
-/
namespace DebugRouter.Native

abbrev ClientId := Nat

inductive ConnectionStatus where
  | error
  | disconnected
  | connected
  deriving DecidableEq

inductive Notice where
  | onStatusChanged (status : ConnectionStatus) (code : Int) (info : String)
  | onMessage (message : String)
  deriving DecidableEq

/-- What `SocketServer` posts to the executor: a call of its `ClientListener`, or `Disconnect`. -/
inductive UsbTask where
  | onOpen (client : ClientId) (code : Int) (reason : String)
  | onMessage (client : ClientId) (message : String)
  | onClose (client : ClientId) (code : Int) (reason : String)
  | onError (client : ClientId) (code : Int) (message : String)
  | disconnect
  deriving DecidableEq

namespace UsbTask

/-- The client whose threads post the task; a `Disconnect` is not a client's. -/
def client? : UsbTask → Option ClientId
  | onOpen client _ _ | onMessage client _ | onClose client _ _ | onError client _ _ => some client
  | disconnect => none

end UsbTask

structure UsbServer where
  usbClient : Option ClientId
  tempUsbClient : Option ClientId
  accepted : Nat
  running : Bool
  deriving DecidableEq

/-- The slots after a handler, the clients it stops and what the listener is told. -/
structure UsbHandled where
  server : UsbServer
  stopped : List ClientId
  notices : List Notice
  deriving DecidableEq

namespace UsbServer
variable (u : UsbServer)

def initial : UsbServer := ⟨none, none, 0, false⟩

/-- `Start` accepts a client and replaces the one that is still pending. -/
def accept : UsbHandled :=
  ⟨{ u with tempUsbClient := some u.accepted, accepted := u.accepted + 1 }, u.tempUsbClient.toList,
    []⟩

def handleOnOpenStatus (client : ClientId) (code : Int) (reason : String) : UsbHandled :=
  if u.tempUsbClient = some client then
    ⟨{ u with usbClient := some client }, u.usbClient.toList.filter (· ≠ client),
      [.onStatusChanged .connected code reason]⟩
  else ⟨u, [], []⟩

def handleOnMessageStatus (client : ClientId) (message : String) : UsbHandled :=
  if u.usbClient = some client then ⟨u, [], [.onMessage message]⟩ else ⟨u, [], []⟩

/-- The shared body of `HandleOnCloseStatus` and `HandleOnErrorStatus`. -/
def handleEnd (client : ClientId) (status : ConnectionStatus) (code : Int) (reason : String) :
    UsbHandled :=
  let supersededByNewAccept := u.tempUsbClient ≠ none ∧ u.tempUsbClient ≠ some client
  let cleared := { u with
    usbClient := if u.usbClient = some client then none else u.usbClient
    tempUsbClient := if u.tempUsbClient = some client then none else u.tempUsbClient }
  if supersededByNewAccept ∨ u.usbClient = none ∨ u.usbClient ≠ some client then
    let clearedPromotedClient := u.usbClient = some client
    ⟨cleared, [client], if clearedPromotedClient then [.onStatusChanged status code reason] else []⟩
  else ⟨cleared, u.usbClient.toList, [.onStatusChanged status code reason]⟩

def handleOnCloseStatus (client : ClientId) (status : ConnectionStatus) (code : Int)
    (reason : String) : UsbHandled := u.handleEnd client status code reason

def handleOnErrorStatus (client : ClientId) (status : ConnectionStatus) (code : Int)
    (reason : String) : UsbHandled := u.handleEnd client status code reason

def disconnect : UsbHandled :=
  ⟨{ u with
      usbClient := none
      tempUsbClient := if u.tempUsbClient = u.usbClient then none else u.tempUsbClient },
    u.usbClient.toList, []⟩

def run : UsbTask → UsbHandled
  | .onOpen client code reason => u.handleOnOpenStatus client code reason
  | .onMessage client message => u.handleOnMessageStatus client message
  | .onClose client code reason => u.handleOnCloseStatus client .disconnected code reason
  | .onError client code message => u.handleOnErrorStatus client .error code message
  | .disconnect => u.disconnect

def startServer : UsbServer := { u with running := true }

def stopServer : UsbServer := { u with usbClient := none, tempUsbClient := none, running := false }

variable (client : ClientId)

theorem handleEnd_notices (st : ConnectionStatus) (code : Int)
    (reason : String) : (u.handleEnd client st code reason).notices =
      if u.usbClient = some client then [.onStatusChanged st code reason] else [] := by
  unfold handleEnd
  dsimp only
  split
  · rfl
  next hc =>
    have hp : u.usbClient = some client := by
      by_contra ho
      exact hc (.inr (.inr ho))
    simp [hp]

theorem handleEnd_server (st : ConnectionStatus) (code : Int)
    (reason : String) : (u.handleEnd client st code reason).server =
      { u with
        usbClient := if u.usbClient = some client then none else u.usbClient
        tempUsbClient := if u.tempUsbClient = some client then none else u.tempUsbClient } := by
  unfold handleEnd
  dsimp only
  split <;> rfl

end UsbServer

end DebugRouter.Native
