import DebugRouter.Library.Runs
import DebugRouter.Native.UsbServer
import Mathlib.Logic.Function.Basic

/-!
The accept thread of `SocketServer` and the calls of `StartServer` and `StopServer` that the executor
makes, one flag update or socket call at a time. A descriptor is a number that is not used again.
-/
namespace DebugRouter.Native

open Library

abbrev Fd := Nat

/-- `LYNX_DEBUG_ROUTER_PORT`: unset, a port, or something else. -/
inductive PortEnv where
  | unset
  | configured (port : Nat)
  | invalid
  deriving DecidableEq

structure Platform where
  startPort : Nat
  portEnv : PortEnv
  /-- `close` ends an `accept` that is blocked on the descriptor. On some systems only the `shutdown`
  of a listening socket does. -/
  closeWakes : Bool

def kStartPort : Nat := 8901

def kTryPortCount : Nat := 20

structure Socket where
  listening : Bool
  shut : Bool
  closed : Bool
  deriving DecidableEq

namespace Socket

def fresh : Socket := ⟨false, false, false⟩

def absent : Socket := ⟨false, false, true⟩

/-- A `shutdown` has an effect on a listening socket only. -/
def shutdown (socket : Socket) : Socket :=
  { socket with shut := socket.shut || (socket.listening && !socket.closed) }

def close (socket : Socket) : Socket := { socket with closed := true }

def listen (socket : Socket) : Socket := { socket with listening := true }

/-- An `accept` called now waits for a client. -/
def accepts (socket : Socket) : Bool := socket.listening && !socket.shut && !socket.closed

end Socket

/-- What the operating system answers to a call that can succeed. -/
inductive Answer where
  | success
  | addressInUse
  | failure
  deriving DecidableEq

/-- Where the accept thread stands: in `ThreadFunc`, `Start`, `InitSocket` or `Close`, before the
operation it performs next. `blocked` is inside the call of `accept`. -/
inductive AcceptPoint where
  | waitRunning
  | loadFd
  | createSocket
  | storeFd (fd : Option Fd)
  | setsockopt (fd : Fd)
  | bind (fd : Fd) (port : Nat)
  | listen (fd : Fd) (port : Nat)
  | reloadFd
  | accept (fd : Option Fd)
  | blocked (fd : Fd)
  | storeClient
  | exchangeFd (info : String)
  | close (fd : Option Fd) (info : String)
  | finish
  deriving DecidableEq

inductive StopPoint where
  | idle
  | loadFd
  | shutdown (fd : Option Fd)
  | exchangeFd
  | close (fd : Option Fd)
  | waitServing
  | clearClients
  deriving DecidableEq

structure AcceptLoop where
  server : UsbServer
  isServing : Bool
  socketFd : Option Fd
  sockets : Fd → Socket
  nextFd : Fd
  thread : AcceptPoint
  stop : StopPoint
  notified : List String

inductive LoopAct where
  | startServer
  | stopServer
  | stop
  | serve (answer : Answer)
  | task (task : UsbTask)

namespace AcceptLoop
variable (p : Platform) (s : AcceptLoop)

def initial : AcceptLoop := ⟨.initial, false, none, fun _ => .absent, 0, .waitRunning, .idle, []⟩

def update (fd : Option Fd) (change : Socket → Socket) : Fd → Socket :=
  match fd with
  | none => s.sockets
  | some fd => Function.update s.sockets fd (change (s.sockets fd))

variable {fd : Option Fd} {other : Fd}

theorem update_of_ne (h : fd ≠ some other) (change : Socket → Socket) :
    s.update fd change other = s.sockets other := by
  cases fd with
  | none => rfl
  | some fd =>
    have apart : other ≠ fd := by simpa [eq_comm] using h
    simp [update, apart]

@[simp] theorem update_self (fd : Fd) (change : Socket → Socket) :
    s.update (some fd) change fd = change (s.sockets fd) := by
  simp [update]

theorem update_keeps {X : Type} (get : Socket → X) (change : Socket → Socket)
    (h : ∀ sk, get (change sk) = get sk) (fd : Option Fd) (other : Fd) :
    get (s.update fd change other) = get (s.sockets other) := by
  by_cases hs : fd = some other
  · rw [hs, update_self, h]
  · rw [s.update_of_ne hs]

theorem open_update_close : (s.update fd Socket.close other).closed = false ↔ fd ≠ some other ∧
    (s.sockets other).closed = false := by
  by_cases hs : fd = some other
  · simp [hs, Socket.close]
  · simp [s.update_of_ne hs, hs]

def succeeds (fd : Fd) (answer : Answer) : Bool := answer = .success && !(s.sockets fd).closed

def released (fd : Fd) : Bool := (s.sockets fd).shut || ((s.sockets fd).closed && p.closeWakes)

def serve (answer : Answer) : AcceptLoop :=
  match s.thread with
  -- `running_mutex_` is held from the look at `is_running_` to the write of `is_serving_`.
  | .waitRunning =>
    if s.server.running then { s with isServing := true, thread := .loadFd } else s
  | .loadFd =>
    { s with thread := if s.socketFd = none then .createSocket else .accept s.socketFd }
  | .createSocket =>
    if answer = .success then
      { s with
        sockets := Function.update s.sockets s.nextFd .fresh
        nextFd := s.nextFd + 1
        thread := .storeFd (some s.nextFd) }
    else { s with thread := .storeFd none }
  | .storeFd none =>
    { s with socketFd := none, thread := .finish, notified := s.notified ++ ["create socket error"] }
  | .storeFd (some fd) => { s with socketFd := some fd, thread := .setsockopt fd }
  | .setsockopt fd =>
    if s.succeeds fd answer then
      match p.portEnv with
      | .unset => { s with thread := .bind fd p.startPort }
      | .configured port => { s with thread := .bind fd port }
      | .invalid => { s with thread := .exchangeFd "invalid LYNX_DEBUG_ROUTER_PORT" }
    else { s with thread := .exchangeFd "setsockopt error" }
  | .bind fd port =>
    if s.succeeds fd answer then { s with thread := .listen fd port }
    else if p.portEnv = .unset ∧ port + 1 < p.startPort + kTryPortCount ∧ answer = .addressInUse ∧
        (s.sockets fd).closed = false then
      { s with thread := .bind fd (port + 1) }
    else { s with thread := .exchangeFd "bind address error" }
  | .listen fd port =>
    if s.succeeds fd answer then
      { s with
        sockets := s.update (some fd) Socket.listen
        thread := .reloadFd
        notified := s.notified ++ ["port:" ++ toString port] }
    else { s with thread := .exchangeFd "listen error" }
  | .reloadFd => { s with thread := .accept s.socketFd }
  | .accept none => { s with thread := .exchangeFd "accept socket error" }
  | .accept (some fd) =>
    if (s.sockets fd).accepts then { s with thread := .blocked fd }
    else { s with thread := .exchangeFd "accept socket error" }
  | .blocked fd =>
    if s.released p fd = false ∧ answer = .success then { s with thread := .storeClient }
    else { s with thread := .exchangeFd "accept socket error" }
  | .storeClient => { s with server := s.server.accept.server, thread := .finish }
  | .exchangeFd info => { s with socketFd := none, thread := .close s.socketFd info }
  | .close fd info =>
    { s with
      sockets := s.update fd Socket.close, thread := .finish, notified := s.notified ++ [info] }
  | .finish => { s with isServing := false, thread := .waitRunning }

def stopStep : AcceptLoop :=
  match s.stop with
  | .idle => s
  | .loadFd => { s with stop := .shutdown s.socketFd }
  | .shutdown fd => { s with sockets := s.update fd Socket.shutdown, stop := .exchangeFd }
  | .exchangeFd => { s with socketFd := none, stop := .close s.socketFd }
  | .close fd => { s with sockets := s.update fd Socket.close, stop := .waitServing }
  | .waitServing => if s.isServing then s else { s with stop := .clearClients }
  | .clearClients =>
    { s with server := { s.server with usbClient := none, tempUsbClient := none }, stop := .idle }

/-- The executor makes one call or runs one task at a time. -/
def step : LoopAct → AcceptLoop
  | .startServer => if s.stop = .idle then { s with server.running := true } else s
  | .stopServer => if s.stop = .idle then { s with server.running := false, stop := .loadFd } else s
  | .stop => s.stopStep
  | .serve answer => s.serve p answer
  | .task task => if s.stop = .idle then { s with server := (s.server.run task).server } else s

end AcceptLoop

end DebugRouter.Native
