import DebugRouter.Library.Bytes
import DebugRouter.Library.JsonText

/-!
`RemoteDebugProtocol::Parse`. Looking up a key in a JSON value that is neither an object nor null
throws; everything else that does not fit makes `Parse` return a null pointer.
-/
namespace DebugRouter.Native

open Library JsonText

/-- What the runtime uses of the JSON library. -/
structure JsonCpp where
  /-- `Reader::parse`: it throws, or it returns whether it succeeded and leaves a value. -/
  parse : List UInt8 → Except String (Bool × Json)
  fastWrite : Json → String
  toStyledString : Json → String
  valueToString : JsNumber → String

/-- A reader of JSON texts that leaves null when it fails. -/
def jsonText : JsonCpp where
  parse bytes :=
    match parse (String.ofList (Utf8.decode bytes)) with
    | some root => .ok (true, root)
    | none => .ok (false, .null)
  fastWrite := stringify
  toStyledString := stringify
  valueToString n := stringify (.num n)

section Except
variable {ε α β : Type}

@[simp] theorem ok_bind (a : α) (f : α → Except ε β) : (.ok a >>= f) = f a := rfl

@[simp] theorem error_bind (e : ε) (f : α → Except ε β) : (.error e >>= f) = .error e := rfl

@[simp] theorem pure_eq_ok (a : α) : (pure a : Except ε α) = .ok a := rfl

end Except

/- Values -/

def asInt? : Json → Option Int
  | .num n => n.toInt?.filter fun i => decide (-2 ^ 31 ≤ i ∧ i ≤ 2 ^ 31 - 1)
  | _ => none

def asBool? : Json → Option Bool
  | .bool value => some value
  | _ => none

/-- `v[key]` of a constant value. -/
def find (v : Json) (key : String) : Except String Json :=
  match v with
  | .null => .ok .null
  | .obj fields => .ok ((lookupLast key fields).getD .null)
  | _ => .error "in Json::Value::find(key, end, found): requires objectValue or nullValue"

/-- `v[key]` of a value that may be changed. -/
def resolveReference (v : Json) (key : String) : Except String Json :=
  match v with
  | .null => .ok .null
  | .obj fields => .ok ((lookupLast key fields).getD .null)
  | _ => .error "in Json::Value::resolveReference(key, end): requires objectValue"

def asString (cpp : JsonCpp) : Json → Except String String
  | .null => .ok ""
  | .str text => .ok text
  | .bool value => .ok (if value then "true" else "false")
  | .num n => .ok (cpp.valueToString n)
  | .arr _ | .obj _ => .error "Type is not convertible to string"

def field (v : Json) (key : String) : Json := (v.get? key).getD .null

def indexable (v : Json) : Bool := v.isObject || v = .null

theorem find_eq (v : Json) (key : String) : find v key = if indexable v then .ok (field v key)
      else .error "in Json::Value::find(key, end, found): requires objectValue or nullValue" := by
  cases v <;> simp [find, indexable, field, Json.isObject, Json.get?]

variable {v : Json}

@[simp] theorem find_of_isObject (h : v.isObject = true) (key : String) :
    find v key = .ok (field v key) := by
  simp [find_eq, indexable, h]

theorem isObject_of_field {key : String} (h : field v key ≠ .null) : v.isObject = true := by
  cases v <;> simp_all [field, Json.get?, Json.isObject]

/- Bodies -/

structure CustomData4CDP where
  sessionId : Int
  clientId : UInt32
  message : String
  deriving DecidableEq, Inhabited

structure AppMessageData where
  method : String
  id : Int
  params : String
  deriving DecidableEq, Inhabited

/-- The variants are pointers; `Parse` sets one of them at most, whatever the type says. -/
structure CustomData where
  type : String
  clientId : UInt32 := 0
  cdpData : Option CustomData4CDP := none
  openCardData : Option String := none
  appProtocolData : Option AppMessageData := none
  shouldStopAtEntry : Bool := false
  shouldStopLepusAtEntry : Bool := false
  deriving DecidableEq

inductive Body where
  | init (clientId : UInt32)
  | registered
  | roomJoined
  | changeRoomServer (url room : String)
  | custom (data : CustomData)
  deriving DecidableEq

/- `Parse`, event by event -/

def parseInit (value : Json) : Except String (Option Body) := do
  let data ← find value "data"
  return (asInt? data).map fun clientId => .init (.ofInt clientId)

def parseRoomJoined (value : Json) : Except String (Option Body) := do
  let data ← find value "data"
  if data.isObject then
    let joinClientId ← find data "id"
    let joinRoomId ← find data "room"
    match asInt? joinClientId, joinRoomId with
    | some _, .str _ => return some .roomJoined
    | _, _ => return none
  else return none

def parseChangeRoomServer (value : Json) : Except String (Option Body) := do
  let data ← find value "data"
  if data.isObject then
    let clientId ← find data "id"
    let roomId ← find data "room"
    let url ← find data "url"
    match asInt? clientId, roomId, url with
    | some _, .str room, .str url => return some (.changeRoomServer url room)
    | _, _, _ => return none
  else return none

def isStopAtEntry (type : String) : Bool := type = "D2RStopAtEntry" || type = "D2RStopLepusAtEntry"

/-- `CreateProtocolBody4Custom` for the two kinds of stop. -/
def createStop (type : String) (clientId : UInt32) (stop : Bool) : CustomData :=
  if type = "R2DStopAtEntry" ∨ type = "D2RStopAtEntry" then
    { type := type, clientId := clientId, shouldStopAtEntry := stop }
  else if type = "R2DStopLepusAtEntry" ∨ type = "D2RStopLepusAtEntry" then
    { type := type, clientId := clientId, shouldStopLepusAtEntry := stop }
  else { type := type, clientId := clientId }

def parseStopAtEntry (type : String) (payload : Json) : Except String (Option CustomData) := do
  if payload.isObject then
    let clientId ← find payload "client_id"
    let stopAtEntry ← find payload "stop_at_entry"
    match asInt? clientId, asBool? stopAtEntry with
    | some clientId, some stop => return some (createStop type (.ofInt clientId) stop)
    | _, _ => return none
  else return none

def parseOpenCard (payload : Json) : Except String (Option CustomData) := do
  if payload.isObject then
    let openType ← find payload "type"
    let openUrl ← find payload "url"
    match openType, openUrl with
    | .str _, .str url => return some { type := "OpenCard", openCardData := some url }
    | _, _ => return none
  else return none

def parseApp (cpp : JsonCpp) (type : String) (sender : Int) (payload : Json) :
    Except String (Option CustomData) := do
  let clientId ← find payload "client_id"
  let message ← find payload "message"
  let method ← find message "method"
  let params ← find message "params"
  let messageId ← find message "id"
  match method.asString?, params.isObject, asInt? clientId, asInt? messageId with
  | some method, true, some _, some id =>
    return some
      { type := type
        clientId := .ofInt sender
        appProtocolData := some ⟨method, id, cpp.toStyledString params⟩ }
  | _, _, _, _ => return none

/-- The generic branch, for CDP and every type that a branch above did not settle. -/
def parseExtension (cpp : JsonCpp) (type : String) (sender : Int) (payload : Json) :
    Except String (Option CustomData) := do
  if payload.isObject then
    let sessionId ← find payload "session_id"
    let clientId ← find payload "client_id"
    let message ← find payload "message"
    match asInt? clientId, asInt? sessionId, message with
    | some clientId, some sessionId, .str text =>
      return some
        { type := type, clientId := .ofInt sender, cdpData := some ⟨sessionId, .ofInt clientId,
          text⟩ }
    | some clientId, some sessionId, .obj fields =>
      return some
        { type := type
          clientId := .ofInt sender
          cdpData := some ⟨sessionId, .ofInt clientId, cpp.fastWrite (.obj fields)⟩ }
    | _, _, _ => return none
  else return none

/-- A branch that settles the message ends `Parse`; otherwise the next one is tried. -/
def orElse (first second : Except String (Option CustomData)) :
    Except String (Option CustomData) := do
  match ← first with
  | some data => return some data
  | none => second

def parseTyped (cpp : JsonCpp) (type : String) (sender : Int) (payload : Json) :
    Except String (Option CustomData) :=
  if isStopAtEntry type then
    orElse (parseStopAtEntry type payload) (parseExtension cpp type sender payload)
  else if type = "OpenCard" then
    orElse (parseOpenCard payload) (parseExtension cpp type sender payload)
  else if type = "ListSession" then .ok (some { type := "ListSession" })
  else if type = "App" ∧ payload.isObject then parseApp cpp type sender payload
  else parseExtension cpp type sender payload

def parseCustom (cpp : JsonCpp) (value : Json) : Except String (Option Body) := do
  let data ← find value "data"
  if data.isObject then
    let messageType ← find data "type"
    let sender ← find data "sender"
    let payload ← find data "data"
    match messageType, asInt? sender with
    | .str type, some sender =>
      let custom ← parseTyped cpp type sender payload
      return custom.map .custom
    | _, _ => return none
  else return none

def parse (cpp : JsonCpp) (value : Json) : Except String (Option Body) := do
  let event ← find value "event"
  match event with
  | .str event =>
    if event = "Initialize" then parseInit value
    else if event = "Registered" then return some .registered
    else if event = "RoomJoined" then parseRoomJoined value
    else if event = "ChangeRoomServer" then parseChangeRoomServer value
    else if event = "Customized" then parseCustom cpp value
    else return none
  | _ => return none

end DebugRouter.Native
