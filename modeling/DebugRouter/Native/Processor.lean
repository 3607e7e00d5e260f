import DebugRouter.Native.Protocol

/-!
`Processor`: a message from the transport is parsed and dispatched to the `MessageHandler`. The client
id is assigned by `Initialize` and by nothing else, the constructor included.
-/
namespace DebugRouter.Native

open Library

/-- How a call can end other than by returning. -/
inductive Fault where
  | nullDereference
  /-- A branch was chosen by a field that nothing has written. -/
  | uninitialisedRead
  /-- Thrown by the JSON library; `Process` reports it and throws it again. -/
  | exception (what : String)
  deriving DecidableEq

structure MessageHandler where
  roomId : String
  clientInfo : List (String × String)
  /-- `GetSessionList`: the id and the text of each session. -/
  sessionList : List (Int × String)
  handleAppAction : String → String → String

structure SessionInfo where
  sessionId : Int
  url : String
  type : String
  deriving DecidableEq

/-- What is sent. The id of an uninitialised client is whatever was in memory. -/
inductive Outgoing where
  | register (clientId : Option UInt32) (clientInfo : List (String × String)) (isReconnect : Bool)
  | joinRoom (roomId : String)
  | sessionList (clientId : Option UInt32) (list : List SessionInfo)
  | changeRoomServerAck (clientId : Option UInt32)
  | appResult (sender : UInt32) (clientId : Option UInt32) (method : String) (id : Int)
      (result : String)
  | appError (sender : UInt32) (clientId : Option UInt32) (method : String) (id : Int)
      (error : String)
  | customized (type : String) (clientId : Option UInt32) (sessionId : Int) (message : String)
      (mark : Int)
      (isObject : Bool)
  | stopAtEntry (type : String) (clientId : Option UInt32) (stop : Bool)
  deriving DecidableEq

/-- A call of the `MessageHandler` that is not a question. -/
inductive HandlerCall where
  | sendMessage (message : Outgoing)
  | onMessage (type : String) (sessionId : Int) (message : String)
  | openCard (url : String)
  | changeRoomServer (url room : String)
  deriving DecidableEq

structure Processor where
  clientId : Option UInt32
  isReconnect : Bool
  deriving DecidableEq

/- The session list -/

def kInvalidTemplateUrl : String := "___UNKNOWN___"

def sessionInfo (cpp : JsonCpp) (text : String) : Except String (String × String) := do
  match ← cpp.parse (Utf8.encode text.toList) with
  | (false, _) => return ("", text)
  | (true, info) =>
    let type ← resolveReference info "type"
    let type ← asString cpp type
    let url ← resolveReference info "url"
    let url ← asString cpp url
    return (type, url)

def collectSessions (cpp : JsonCpp) : List (Int × String) → Except String (List SessionInfo)
  | [] => .ok []
  | (id, text) :: rest => do
    let (type, url) ← sessionInfo cpp text
    let others ← collectSessions cpp rest
    return if url = kInvalidTemplateUrl then others else ⟨id, url, type⟩ :: others

namespace Processor
variable (cpp : JsonCpp) (handler : Option MessageHandler) (p : Processor)

/-- The constructor leaves `client_id_` as it is. -/
def create : Processor := ⟨none, false⟩

def registerDevice : List HandlerCall :=
  match handler with
  | none => []
  | some h => [.sendMessage (.register p.clientId h.clientInfo p.isReconnect)]

def joinRoom : List HandlerCall :=
  match handler with
  | none => []
  | some h => [.sendMessage (.joinRoom h.roomId)]

def sessionList : Except Fault (List HandlerCall) :=
  match handler with
  | none => .ok []
  | some h =>
    match collectSessions cpp h.sessionList with
    | .ok list => .ok [.sendMessage (.sessionList p.clientId list)]
    | .error what => .error (.exception what)

def changeRoomServer (url room : String) : List HandlerCall :=
  match handler with
  | none => []
  | some _ => [.sendMessage (.changeRoomServerAck p.clientId), .changeRoomServer url room]

def openCard (url : String) : List HandlerCall :=
  match handler with
  | none => []
  | some _ => [.openCard url]

def processMessage (type : String) (sessionId : Int) (message : String) : List HandlerCall :=
  match handler with
  | none => []
  | some _ => [.onMessage type sessionId message]

def kDebugRouterErrorMessage : String := "DebugRouterError"

def errorText : String :=
  cpp.toStyledString (.obj [("code", Json.ofInt (-3)), ("message", .str kDebugRouterErrorMessage)])

/-- The last call goes through the handler without a look at it. -/
def handleAppAction (custom : CustomData) : Except Fault (List HandlerCall) :=
  match custom.appProtocolData, handler with
  | none, _ => .error .nullDereference
  | some _, none => .error .nullDereference
  | some message, some h =>
    let result := h.handleAppAction message.method message.params
    if kDebugRouterErrorMessage.toList <:+: result.toList then
      .ok [.sendMessage (.appError custom.clientId p.clientId message.method message.id
        (errorText cpp))]
    else .ok [.sendMessage (.appResult custom.clientId p.clientId message.method message.id result)]

/-- The calls are made if the message is for this client. -/
def ifAddressed (clientId : UInt32) (calls : List HandlerCall) : Except Fault (List HandlerCall) :=
  match p.clientId with
  | none => .error .uninitialisedRead
  | some own => .ok (if clientId = own then calls else [])

def dispatchCustom (custom : CustomData) : Except Fault (List HandlerCall) :=
  if custom.type = "CDP" then
    match custom.cdpData with
    | none => .error .nullDereference
    | some cdp => p.ifAddressed cdp.clientId (processMessage handler "CDP" cdp.sessionId cdp.message)
  else if custom.type = "D2RStopAtEntry" then
    p.ifAddressed custom.clientId
      (processMessage handler "D2RStopAtEntry" (-1)
        (if custom.shouldStopAtEntry then "true" else "false"))
  else if custom.type = "D2RStopLepusAtEntry" then
    p.ifAddressed custom.clientId (processMessage handler "D2RStopLepusAtEntry" (-1)
        (if custom.shouldStopLepusAtEntry then "true" else "false"))
  else if custom.type = "OpenCard" then
    match custom.openCardData with
    | none => .error .nullDereference
    | some url => .ok (openCard handler url)
  else if custom.type = "ListSession" then p.sessionList cpp handler
  else if custom.type = "App" then p.handleAppAction cpp handler custom
  else
    match custom.cdpData with
    | none => .error .nullDereference
    | some ext =>
      p.ifAddressed ext.clientId (processMessage handler custom.type ext.sessionId ext.message)

def dispatch : Body → Except Fault (Processor × List HandlerCall)
  | .init clientId =>
    let p := { p with clientId := some clientId }
    .ok (p, if 0 < clientId then p.registerDevice handler else [])
  | .registered => .ok (p, joinRoom handler)
  | .roomJoined => (p.sessionList cpp handler).map (p, ·)
  | .changeRoomServer url room => .ok (p, p.changeRoomServer handler url room)
  | .custom custom => (p.dispatchCustom cpp handler custom).map (p, ·)

def processRoot (root : Json) : Except Fault (Processor × List HandlerCall) :=
  match parse cpp root with
  | .error what => .error (.exception what)
  | .ok none => .ok (p, [])
  | .ok (some body) => p.dispatch cpp handler body

/-- `Process`. A failed parse is not looked at: what the reader left is processed. -/
def process (message : List UInt8) : Except Fault (Processor × List HandlerCall) :=
  match cpp.parse message with
  | .error what => .error (.exception what)
  | .ok (_, root) => p.processRoot cpp handler root

def wrapCustomizedMessage (type : String) (sessionId : Int) (message : String) (mark : Int)
    (isObject : Bool) : Outgoing :=
  if type = "R2DStopAtEntry" ∨ type = "R2DStopLepusAtEntry" then
    .stopAtEntry type p.clientId (message = "true")
  else .customized type p.clientId sessionId message mark isObject

end Processor

end DebugRouter.Native
