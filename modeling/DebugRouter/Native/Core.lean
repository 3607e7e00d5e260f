import DebugRouter.Library.Search

/-!
The connection side of `DebugRouterCore`. A handler returns the new state and, in order, what it
asks of the transceivers, the executor, the processor and its listeners. There is one transceiver
of each type, so a pointer to one is its type.
-/
namespace DebugRouter.Native

open Library

inductive ConnectionState where
  | disconnected
  | connecting
  | connected
  deriving DecidableEq

inductive ConnectionType where
  | webSocket
  | usb
  deriving DecidableEq

inductive WebSocketConnectType where
  | uninit
  | firstConnect
  | nonFirstConnect
  deriving DecidableEq

inductive ListenerEvent where
  | onOpen (type : ConnectionType)
  | onClose (code : Int) (reason : String)
  | onError (error : String)
  deriving DecidableEq

inductive ReportField where
  | text (value : String)
  | number (value : Int)
  deriving DecidableEq

inductive Effect where
  | report (event : String) (category : List (String × ReportField))
  | transceiverConnect (type : ConnectionType) (url : String)
  | transceiverDisconnect (type : ConnectionType)
  | transceiverSend (type : ConnectionType) (message : String)
  | notifyConnectState (state : ConnectionState)
  | listener (event : ListenerEvent)
  /-- `Post` of the task that sleeps for two seconds and calls `Reconnect`. -/
  | postReconnect
  deriving DecidableEq

structure Core where
  connectionState : ConnectionState
  currentTransceiver : Option ConnectionType
  hostUrl : String
  serverUrl : String
  roomId : String
  retryTimes : Nat
  isFirstConnect : WebSocketConnectType
  /-- The configured value for `debugrouter_forbid_reconnect_on_close`. -/
  forbidReconnectWhenClose : String
  deriving DecidableEq

/-- Up to and with the first `page/android`. -/
def hostOf (url : String) : String :=
  match locate "page/android".toList url.toList with
  | none => ""
  | some found => String.ofList (url.toList.take (url.toList.length - found.length + 12))

namespace Core
variable (c : Core)

def initial : Core := ⟨.disconnected, none, "", "", "", 0, .uninit, ""⟩

def disconnect : Core × List Effect :=
  if c.connectionState ≠ .disconnected then
    match c.currentTransceiver with
    | some type => ({ c with currentTransceiver := none }, [.transceiverDisconnect type])
    | none => (c, [])
  else (c, [])

def connect (url room : String) (isReconnect : Bool) : Core × List Effect :=
  let category := [("url", ReportField.text url), ("room", .text room)]
  if room = c.roomId ∧ hostOf url = c.hostUrl ∧ c.connectionState ≠ .disconnected then
    (c, [.report "RedundantConnect" (category ++ [("attribution", .text "User Incorrect Call")])])
  else
    let (started, announced) :=
      if isReconnect then (c, Effect.report "Reconnect" category)
      else ({ c with isFirstConnect := .firstConnect, retryTimes := 0 }, .report "Connect" category)
    let (severed, effects) := started.disconnect
    -- `WebSocketClient::Connect` comes first and returns true, so the loop stops there.
    ({ severed with
        connectionState := .connecting, hostUrl := hostOf url, serverUrl := url, roomId := room },
      announced :: effects ++ [.transceiverConnect .webSocket url])

def reconnect : Core × List Effect :=
  if c.serverUrl ≠ "" ∧ c.roomId ≠ "" then c.connect c.serverUrl c.roomId true else (c, [])

/-- `none` is the call through a null `current_transceiver_`. -/
def send (message : String) : Option (List Effect) :=
  if c.connectionState = .connected then
    c.currentTransceiver.map fun type => [.transceiverSend type message]
  else some []

def opened (type : ConnectionType) : Core :=
  let current := { c with currentTransceiver := some type, connectionState := .connected }
  match type with
  | .usb => { current with hostUrl := "", serverUrl := "", roomId := "" }
  | .webSocket =>
    if c.isFirstConnect = .firstConnect then { current with isFirstConnect := .nonFirstConnect }
    else current

def openReport (type : ConnectionType) : Effect :=
  .report "OnOpen" <| match type with
    | .usb => [("connect_type", .text "usb")]
    | .webSocket => [("connect_type", .text "websocket"), ("is_first_connect",
        .text (if c.isFirstConnect = .firstConnect then "true" else "false"))]

def onOpen (type : ConnectionType) : Core × List Effect :=
  if c.connectionState = .connected ∧ c.currentTransceiver = some type then (c, [])
  else
    let replaced :=
      if c.connectionState = .connected then
        c.currentTransceiver.toList.map Effect.transceiverDisconnect
      else []
    (c.opened type, replaced ++
      [.notifyConnectState .connected, c.openReport type, .listener (.onOpen type)])

def tryToReconnect : Core × List Effect :=
  if c.retryTimes < 3 then ({ c with retryTimes := c.retryTimes + 1 }, [.postReconnect])
  else (c, [])

/-- Listeners hear of the end of a WebSocket connection only when no retry is left. -/
def tellsEnd (type : ConnectionType) : Bool := type = .usb || 3 ≤ c.retryTimes

def onClosed (type : ConnectionType) : Core × List Effect :=
  if some type ≠ c.currentTransceiver ∨ c.connectionState = .disconnected then (c, [])
  else
    let closed := { c with connectionState := .disconnected, currentTransceiver := none }
    let told := .notifyConnectState .disconnected ::
      if c.tellsEnd type then [.listener (.onClose (-1) "unknown reason")] else []
    if type = .webSocket ∧ c.forbidReconnectWhenClose ≠ "true" then
      let (retried, effects) := closed.tryToReconnect
      (retried, told ++ effects)
    else (closed, told)

def failed : Core :=
  { c with
    connectionState := .disconnected
    currentTransceiver := none
    isFirstConnect :=
      if c.currentTransceiver = none ∧ c.isFirstConnect = .firstConnect then .nonFirstConnect
      else c.isFirstConnect }

def failureReport (message : String) (code : Int) : Effect :=
  let connectType := match c.currentTransceiver with
    | some .usb => "usb"
    | some .webSocket => "websocket"
    | none => "none"
  let first := if c.currentTransceiver = none ∧ c.isFirstConnect = .firstConnect then
    [("is_websocket_first_connect", ReportField.text "true")] else []
  .report "OnFailure" ([("connect_type", .text connectType), ("error_code", .number code)] ++ first ++
    [("error_msg", .text message)])

def onFailure (type : ConnectionType) (message : String) (code : Int) : Core × List Effect :=
  if (c.currentTransceiver ≠ none ∧ some type ≠ c.currentTransceiver) ∨
      c.connectionState = .disconnected then (c, [])
  else
    let told := [c.failureReport message code, .notifyConnectState .disconnected] ++
      if c.tellsEnd type then [.listener (.onError message)] else []
    if type = .webSocket then
      let (retried, effects) := c.failed.tryToReconnect
      (retried, told ++ effects)
    else (c.failed, told)

/- What the handlers can do -/

def Told (effects : List Effect) : Prop :=
  ∀ e ∈ effects, (∃ event category, e = .report event category) ∨
    (∃ state, e = .notifyConnectState state) ∨
    ∃ event, e = .listener event

section Told
variable {told : List Effect} (h : Told told)
include h

theorem Told.not_post : .postReconnect ∉ told := fun hm => by simpa using h _ hm

end Told

theorem disconnect_spec : ∃ current closed, c.disconnect =
    ({ c with currentTransceiver := current }, List.map Effect.transceiverDisconnect closed) ∧
      (current = none ∨ current = c.currentTransceiver ∧ closed = []) := by
  unfold disconnect
  split
  · split
    · exact ⟨none, [_], rfl, .inl rfl⟩
    · exact ⟨_, [], rfl, .inr ⟨rfl, rfl⟩⟩
  · exact ⟨_, [], rfl, .inr ⟨rfl, rfl⟩⟩

/-- The connection ends, which is told, and perhaps a task is posted. -/
inductive Ends (c : Core) : Core × List Effect → Prop
  | done {told : List Effect} (first : WebSocketConnectType) : Told told → Ends c
    ({ c with
      connectionState := .disconnected, currentTransceiver := none, isFirstConnect := first }, told)
  | retry {told : List Effect} (first : WebSocketConnectType) : Told told → c.retryTimes < 3 → Ends c
    ({ c with connectionState := .disconnected, currentTransceiver := none, isFirstConnect := first,
              retryTimes := c.retryTimes + 1 }, told ++ [.postReconnect])

section Ends
variable {c : Core} {hd : Core × List Effect} (h : c.Ends hd)
include h

theorem Ends.ended : hd.1.currentTransceiver = none ∧ hd.1.connectionState = .disconnected := by
  cases h <;> exact ⟨rfl, rfl⟩

end Ends

theorem onOpen_spec (ty : ConnectionType) :
    (c.connectionState = .connected ∧ c.currentTransceiver = some ty) ∧ c.onOpen ty = (c, []) ∨
      ∃ closed told,
        c.onOpen ty = (c.opened ty, List.map Effect.transceiverDisconnect closed ++ told) ∧
          Told told := by
  unfold onOpen
  split
  · exact .inl ⟨‹_›, rfl⟩
  · refine .inr ⟨if c.connectionState = .connected then c.currentTransceiver.toList else [],
      [.notifyConnectState .connected, c.openReport ty, .listener (.onOpen ty)], ?_,
      by simp [Told, openReport]⟩
    split <;> rfl

theorem ends_tryToReconnect {c : Core} {told : List Effect} (ht : Told told)
    (x : WebSocketConnectType) (retries : Prop) [Decidable retries] :
    let ended :=
      { c with connectionState := .disconnected, currentTransceiver := none, isFirstConnect := x }
    c.Ends (if retries then (ended.tryToReconnect.1, told ++ ended.tryToReconnect.2)
      else (ended, told)) := by
  unfold tryToReconnect
  dsimp only
  split
  · split
    · exact .retry x ht ‹_›
    · rw [List.append_nil]
      exact .done x ht
  · exact .done x ht

theorem onClosed_spec (ty : ConnectionType) :
    (some ty ≠ c.currentTransceiver ∨ c.connectionState = .disconnected) ∧
        c.onClosed ty = (c, []) ∨
      c.Ends (c.onClosed ty) := by
  unfold onClosed
  split
  · exact .inl ⟨‹_›, rfl⟩
  · refine .inr (ends_tryToReconnect ?_ _ _)
    split <;> simp [Told]

theorem onFailure_spec (ty : ConnectionType) (msg : String) (code : Int) :
    ((c.currentTransceiver ≠ none ∧ some ty ≠ c.currentTransceiver) ∨
      c.connectionState = .disconnected) ∧
        c.onFailure ty msg code = (c, []) ∨ c.Ends (c.onFailure ty msg code) := by
  unfold onFailure
  split
  · exact .inl ⟨‹_›, rfl⟩
  · refine .inr (ends_tryToReconnect ?_ _ _)
    split <;> simp [Told, failureReport]

end Core

end DebugRouter.Native
