import DebugRouter.Library.JsonPaths
import DebugRouter.Native.Processor

/-!
`RemoteDebugProtocol::Stringify`: the text of what is sent. The JSON library keeps the fields of an
object in the order of their keys.
-/
namespace DebugRouter.Native

open Library Json JsonText

def kSignatureSalt : String := "OGJjNmMyYWFhOWE5ZjE3ZDlkZTllY2E1OTZkOTA3ZjI"

inductive AppMessageDataUnionType where
  | params | result | error
  deriving DecidableEq

/-- What the text depends on besides the message: the JSON library, the digest, and what is read
from a client id that nothing has written. -/
structure Scribe where
  cpp : JsonCpp
  md5 : String → String
  memory : UInt32

namespace Scribe
variable (s : Scribe)

def clientId (id : Option UInt32) : Json := ofInt (id.getD s.memory).toNat

/-- The digest of the list as it is written, without line breaks and with the salt behind it. -/
def signature (list : Json) : String :=
  s.md5 (String.ofList ((s.cpp.fastWrite list ++ kSignatureSalt).toList.filter (· ≠ '\n')))

def sessionItem (info : SessionInfo) : Json :=
  .obj [("session_id", ofInt info.sessionId), ("type", .str info.type), ("url", .str info.url)]

def appMessageData (method : String) (id : Int) (text : String) : AppMessageDataUnionType → Json
  | .params => .obj [("id", ofInt id), ("method", .str method), ("params", .str text)]
  | .result => .obj [("id", ofInt id), ("method", .str method), ("result", .str text)]
  | .error => .obj [("error", .str text), ("id", ofInt id), ("method", .str method)]

/-- The message stands in the payload as a text of its own. -/
def appProtocolData (id : Option UInt32) (message : Json) : Json :=
  .obj [("client_id", s.clientId id), ("message", .str (s.cpp.toStyledString message))]

/-- With `is_object_` the message is read as JSON, and what the reader leaves is sent. -/
def cdpData (id : Option UInt32) (sessionId : Int) (message : String) (isObject : Bool) :
    Except Fault Json := do
  let value ← if isObject then
      match s.cpp.parse (Utf8.encode message.toList) with
      | .ok (_, object) => .ok object
      | .error what => .error (.exception what)
    else .ok (.str message)
  return .obj [("client_id", s.clientId id), ("message", value), ("session_id", ofInt sessionId)]

def custom (type : String) (sender data : Json) : Json :=
  .obj [("data", data), ("sender", sender), ("type", .str type)]

/-- The event and its data. The type of a customized message decides which of its variants is
written, whether it is there or not. -/
def body : Outgoing → Except Fault (String × Json)
  | .register id info isReconnect =>
    .ok ("Register", .obj [("id", s.clientId id), ("info", .obj (info.map fun e => (e.1, .str e.2))),
      ("reconnect", .bool isReconnect), ("type", .str "runtime")])
  | .joinRoom roomId => .ok ("JoinRoom", .str roomId)
  | .sessionList id list =>
    let data : Json := .arr (list.map sessionItem)
    .ok ("Customized",
      .obj [("data", data), ("sender", s.clientId id), ("signature", .str (s.signature data)),
      ("type", .str "SessionList")])
  | .changeRoomServerAck id => .ok ("ChangeRoomServerAck", s.clientId id)
  | .appResult sender id method messageId result =>
    .ok ("Customized", custom "App" (s.clientId sender)
      (s.appProtocolData id (appMessageData method messageId result .result)))
  | .appError sender id method messageId error =>
    .ok ("Customized", custom "App" (s.clientId sender)
      (s.appProtocolData id (appMessageData method messageId error .error)))
  | .customized type id sessionId message _ isObject =>
    if type = "SessionList" ∨ type = "App" then .error .nullDereference
    else if type = "R2DStopAtEntry" ∨ type = "R2DStopLepusAtEntry" then .error .uninitialisedRead
    else (s.cdpData id sessionId message isObject).map fun data =>
      ("Customized", custom type (s.clientId id) data)
  | .stopAtEntry type id stop => .ok ("Customized", custom type (s.clientId id) (.bool stop))

def mark : Outgoing → Int
  | .customized _ _ _ _ mark _ => mark
  | _ => -1

def stringify (message : Outgoing) : Except Fault String := do
  let (event, data) ← s.body message
  return s.cpp.toStyledString (.obj ([("data", data), ("event", .str event)] ++
    if -1 < mark message then [("mark", ofInt (mark message))] else []))

end Scribe

/- What the JSON library is trusted with -/

/-- The text that `JSON.stringify` makes of the value is read as a value alike. -/
def JsonCpp.Reads (cpp : JsonCpp) (v : Json) : Prop :=
  ∃ w, cpp.parse (Utf8.encode (stringify v).toList) = .ok (true, w) ∧ v.Alike w

/-- `JSON.parse` reads what is written as a value alike. -/
def JsonCpp.Writes (cpp : JsonCpp) : Prop :=
  ∀ v, ∃ w, JsonText.parse (cpp.toStyledString v) = some w ∧ v.Alike w

variable (v : Json)

theorem jsonText_parse_stringify :
    jsonText.parse (Utf8.encode (stringify v).toList) = .ok (true, v.normalize) := by
  simp [jsonText, Utf8.decode_encode, parse_stringify]

theorem jsonText_reads : jsonText.Reads v :=
  ⟨v.normalize, jsonText_parse_stringify v, (alike_normalize v).symm⟩

theorem jsonText_writes : jsonText.Writes := by
  intro v
  exact ⟨v.normalize, parse_stringify v, (alike_normalize v).symm⟩

/- `WrapCustomizedMessage` -/

namespace Scribe
variable (s : Scribe)

def document (message : Outgoing) : Except Fault Json :=
  (s.body message).map fun written => .obj ([("data", written.2), ("event", .str written.1)] ++
    if -1 < mark message then [("mark", ofInt (mark message))] else [])

theorem stringify_eq (msg : Outgoing) :
    s.stringify msg = (s.document msg).map s.cpp.toStyledString := by
  unfold stringify document
  cases s.body msg <;> rfl

/-- The value of a message that is to be read and can be, otherwise its text. -/
def carried (message : String) (isObject : Bool) : Json :=
  match isObject, s.cpp.parse (Utf8.encode message.toList) with
  | true, .ok (true, object) => object
  | _, _ => .str message

end Scribe

def Carries (root : Json) (type : String) (sessionId : Int) (message : Json) : Prop :=
  ∃ data payload, root.get? "event" = some (.str "Customized") ∧ root.get? "data" = some data ∧
    data.get? "type" = some (.str type) ∧ data.get? "data" = some payload ∧
    payload.get? "session_id" = some (ofInt sessionId) ∧ payload.get? "message" = some message

theorem carries_custom (type : String) (sender cid value other : Json) (sid mark : Int) :
    Carries (.obj ([("data", Scribe.custom type sender (.obj [("client_id", cid), ("message", value),
      ("session_id", ofInt sid)])), ("event", .str "Customized")] ++
        if -1 < mark then [("mark", ofInt mark)] else [])) type sid other ↔ value = other := by
  by_cases hm : -1 < mark <;> simp [hm, Carries, Scribe.custom, get?, lookupLast]

/-- A failed parse leaves null, an array or an object. -/
def JsonCpp.LeavesNoText (cpp : JsonCpp) : Prop :=
  ∀ bytes value, cpp.parse bytes = .ok (false, value) → ∀ text, value ≠ .str text

abbrev StopsAtEntry (type : String) : Prop := type = "R2DStopAtEntry" ∨ type = "R2DStopLepusAtEntry"

/-- A message is sent as it is unless its type is one whose variant nobody fills, or it is to be
read as JSON and is none. -/
theorem wrapCustomizedMessage_carried_iff (s : Scribe) (left : s.cpp.LeavesNoText) (p : Processor)
    (type : String) (sessionId : Int) (message : String) (mark : Int) (isObject : Bool) :
    (∃ root, s.document (p.wrapCustomizedMessage type sessionId message mark isObject) = .ok root ∧
      s.stringify (p.wrapCustomizedMessage type sessionId message mark isObject) =
        .ok (s.cpp.toStyledString root) ∧
      (¬ StopsAtEntry type → Carries root type sessionId (s.carried message isObject))) ↔
      StopsAtEntry type ∨ type ≠ "SessionList" ∧ type ≠ "App" ∧ (isObject = true →
        ∃ object, s.cpp.parse (Utf8.encode message.toList) = .ok (true, object)) := by
  simp only [Scribe.stringify_eq]
  unfold Processor.wrapCustomizedMessage
  by_cases hs : StopsAtEntry type
  · rw [if_pos hs]
    exact iff_of_true ⟨_, rfl, rfl, fun hn => absurd hs hn⟩ (.inl hs)
  rw [if_neg hs, Scribe.document, Scribe.body, or_iff_right hs, if_neg hs, Scribe.mark]
  by_cases hn : type = "SessionList" ∨ type = "App"
  · rw [if_pos hn]
    exact iff_of_false (fun ⟨_, he, _⟩ => by cases he) fun hc => hn.elim hc.1 hc.2.1
  rw [if_neg hn]
  rw [not_or] at hn
  cases isObject with
  | false =>
    exact iff_of_true ⟨_, rfl, rfl, fun _ => (carries_custom ..).mpr rfl⟩ ⟨hn.1, hn.2, by simp⟩
  | true =>
    simp only [Scribe.cdpData, Scribe.carried]
    cases hp : s.cpp.parse (Utf8.encode message.toList) with
    | error what =>
      refine iff_of_false (fun ⟨_, he, _⟩ => by cases he) fun hc => ?_
      obtain ⟨_, he⟩ := hc.2.2 trivial
      cases he
    | ok parsed =>
      obtain ⟨successful, object⟩ := parsed
      cases successful with
      | true =>
        exact iff_of_true ⟨_, rfl, rfl, fun _ => (carries_custom ..).mpr rfl⟩
          ⟨hn.1, hn.2, fun _ => ⟨object, rfl⟩⟩
      | false =>
        refine iff_of_false (fun ⟨_, he, _, hc⟩ => ?_) fun hc => ?_
        · cases he
          exact left _ _ hp _ ((carries_custom ..).mp (hc hs))
        · obtain ⟨_, he⟩ := hc.2.2 trivial
          cases he

theorem jsonText_leavesNoText : jsonText.LeavesNoText := by
  intro bytes value h text
  unfold jsonText at h
  dsimp only at h
  split at h <;> cases h
  exact Json.noConfusion

theorem wrapCustomizedMessage_carried_cdp :
    ∃ root, Scribe.document ⟨jsonText, id, 0⟩
      (Processor.create.wrapCustomizedMessage "CDP" 7 "hello" 3 false) =
        .ok root ∧ Carries root "CDP" 7 (.str "hello") := by
  obtain ⟨root, hd, -, hc⟩ :=
    (wrapCustomizedMessage_carried_iff ⟨jsonText, id, 0⟩ jsonText_leavesNoText .create "CDP" 7
    "hello" 3 false).mpr (.inr ⟨by decide, by decide, Bool.noConfusion⟩)
  exact ⟨root, hd, hc (by decide)⟩

theorem wrapCustomizedMessage_app :
    Scribe.stringify ⟨jsonText, id, 0⟩
      (Processor.create.wrapCustomizedMessage "App" 7 "hello" (-1) false) =
      .error .nullDereference := rfl

end DebugRouter.Native
