import DebugRouter.Native.Core
import DebugRouter.Native.Processor

/-!
The sessions of `DebugRouterCore`: their slots, the set of enabled ids, and the three places that
consult it, which are the dispatch of incoming messages, `SendData` and the session list.
-/
namespace DebugRouter.Native

open Library

structure Slot where
  type : String
  url : String
  deriving DecidableEq

/-- What the sessions depend on and other parts of the core change. -/
structure Surroundings where
  connectionState : ConnectionState
  isReconnect : Bool
  roomId : String
  appInfo : List (String × String)
  /-- `message_handlers_`: what is registered for a method. -/
  messageHandlers : String → Option (String → String)
  sessionHandlers : List Nat
  globalHandlers : List Nat

structure SessionCore where
  enableAllSessions : Bool
  enabledSessionIds : List Int
  slots : OrderedMap Int Slot
  maxSessionId : Int
  processor : Processor
  around : Surroundings

inductive SessionEvent where
  | sessionHandler (handler : Nat) (sessionId : Int) (type message : String)
  | slot (sessionId : Int) (type message : String)
  | globalHandler (handler : Nat) (type message : String)
  | openCard (handler : Nat) (url : String)
  | sent (message : Outgoing)
  | sentData (sessionId : Int) (message : Outgoing)
  | sessionCreate (handler : Nat) (sessionId : Int) (url : String)
  | sessionDestroy (handler : Nat) (sessionId : Int)
  deriving DecidableEq

inductive SessionAct where
  | plug (slot : Slot)
  | pull (sessionId : Int)
  | enableSingleSession (sessionId : Int)
  | enableAllSessions
  | sendData (data type : String) (sessionId mark : Int) (isObject : Bool)
  /-- A message is handed to `Process`, past the filter of the transports. -/
  | incoming (message : List UInt8)
  | elsewhere (around : Surroundings)

namespace SessionCore
variable (cpp : JsonCpp) (s : SessionCore)

/-- The constructor of the processor leaves `client_id_` as it is: it is what was in memory. -/
def initial (memory : UInt32) : SessionCore :=
  ⟨false, [], .empty, 0, ⟨some memory, false⟩, ⟨.disconnected, false, "", [], fun _ => none, [], []⟩⟩

def isActiveSession (sessionId : Int) : Bool :=
  s.enableAllSessions || decide (sessionId ∈ s.enabledSessionIds)

/- `MessageHandlerCore` -/

def getSessionList : List (Int × String) :=
  (s.slots.entries.filter fun entry => s.enableAllSessions ||
    decide (entry.1 ∈ s.enabledSessionIds)).map
    fun entry => (entry.1,
      cpp.toStyledString (.obj [("type", .str entry.2.type), ("url", .str entry.2.url)]))

def handleAppAction (method params : String) : String :=
  match s.around.messageHandlers method with
  | some handle => handle params
  | none => "\x7b\"code\":-2,\"message\":\"not implemented\"\x7d"

def messageHandler : MessageHandler :=
  ⟨s.around.roomId, s.around.appInfo, s.getSessionList cpp, s.handleAppAction⟩

/-- The second filter, behind the one of the transports. -/
def onMessage (type : String) (sessionId : Int) (message : String) : List SessionEvent :=
  if sessionId < 0 then s.around.globalHandlers.map (.globalHandler · type message)
  else if s.enableAllSessions = false ∧ sessionId > 0 ∧ s.isActiveSession sessionId = false then []
  else
    s.around.sessionHandlers.map (.sessionHandler · sessionId type message) ++
      if s.slots.has sessionId then [.slot sessionId type message] else []

def handle : HandlerCall → List SessionEvent
  | .sendMessage message => if s.around.connectionState = .connected then [.sent message] else []
  | .onMessage type sessionId message => s.onMessage type sessionId message
  | .openCard url => s.around.globalHandlers.map (.openCard · url)
  | .changeRoomServer _ _ => []

/- The core -/

/-- `none`: the call does not return. -/
def process (message : List UInt8) : Option (SessionCore × List SessionEvent) :=
  let p := { s.processor with isReconnect := s.around.isReconnect }
  match p.process cpp (some (s.messageHandler cpp)) message with
  | .error _ => none
  | .ok (p, calls) => some ({ s with processor := p }, calls.flatMap s.handle)

def flushSessionList : Option (List SessionEvent) :=
  match s.processor.sessionList cpp (some (s.messageHandler cpp)) with
  | .error _ => none
  | .ok calls => some (calls.flatMap s.handle)

def flushIfConnected : Option (List SessionEvent) :=
  if s.around.connectionState = .connected then s.flushSessionList cpp else some []

def connectionStateMsg : ConnectionState → Option String
  | .connected =>
    some ("\x7b\"event\": \"Customized\",\"data\": \x7b\"type\": \"DebugRouter\",\"data\": " ++
      "\x7b\"client_id\": -1,\"session_id\": -1,\"message\": \x7b\"id\": -1,\"method\": " ++
      "\"DebugRouter.State\",\"params\": \x7b\"ConnectState\": 1\x7d\x7d\x7d,\"sender\": -1\x7d\x7d")
  | .disconnected =>
    some ("\x7b\"event\": \"Customized\",\"data\": \x7b\"type\": \"DebugRouter\",\"data\": " ++
      "\x7b\"client_id\": -1,\"session_id\": -1,\"message\": \x7b\"id\": -1,\"method\": " ++
      "\"DebugRouter.State\",\"params\": \x7b\"ConnectState\": 0\x7d\x7d\x7d,\"sender\": -1\x7d\x7d")
  | .connecting => none

def notifyConnectStateByMessage : Option (SessionCore × List SessionEvent) :=
  match connectionStateMsg s.around.connectionState with
  | none => some (s, [])
  | some message => s.process cpp (Utf8.encode message.toList)

def plug (slot : Slot) : SessionCore × List SessionEvent :=
  let id := s.maxSessionId + 1
  let s := { s with maxSessionId := id, slots := s.slots.set id slot }
  match s.flushIfConnected cpp with
  | none => (s, [])
  | some flushed =>
    match s.notifyConnectStateByMessage cpp with
    | none => (s, flushed)
    | some (s, notified) =>
      (s, flushed ++ notified ++ s.around.sessionHandlers.map (.sessionCreate · id slot.url))

def pull (sessionId : Int) : SessionCore × List SessionEvent :=
  let s := { s with
    enabledSessionIds :=
      if s.enableAllSessions then s.enabledSessionIds else s.enabledSessionIds.filter (· ≠ sessionId)
    slots := s.slots.delete sessionId }
  match s.flushIfConnected cpp with
  | none => (s, [])
  | some flushed => (s, flushed ++ s.around.sessionHandlers.map (.sessionDestroy · sessionId))

def enableSingleSession (sessionId : Int) : SessionCore × List SessionEvent :=
  if s.enableAllSessions ∨ sessionId ≤ 0 ∨ sessionId ∈ s.enabledSessionIds then (s, [])
  else
    let s := { s with enabledSessionIds := sessionId :: s.enabledSessionIds }
    (s, (s.flushIfConnected cpp).getD [])

def sendData (data type : String) (sessionId mark : Int) (isObject : Bool) : List SessionEvent :=
  if s.around.connectionState = .connected then
    if s.enableAllSessions = false ∧ sessionId > 0 ∧ s.isActiveSession sessionId = false then []
    else [.sentData sessionId (s.processor.wrapCustomizedMessage type sessionId data mark isObject)]
  else []

/-- One call, with what it makes the others see. A call that does not return ends there. -/
def act : SessionAct → SessionCore × List SessionEvent
  | .plug slot => s.plug cpp slot
  | .pull sessionId => s.pull cpp sessionId
  | .enableSingleSession sessionId => s.enableSingleSession cpp sessionId
  | .enableAllSessions => ({ s with enableAllSessions := true }, [])
  | .sendData data type sessionId mark isObject => (s, s.sendData data type sessionId mark isObject)
  | .incoming message => (s.process cpp message).getD (s, [])
  | .elsewhere around => ({ s with around := around }, [])

def step (a : SessionAct) : SessionCore := (s.act cpp a).1

end SessionCore

end DebugRouter.Native
