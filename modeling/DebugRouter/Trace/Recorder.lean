import DebugRouter.Library.OrderedMap
import Mathlib.Data.Nat.Digits.Defs

/-!
`ConnectionTraceRecorder`. Of the metadata of a node only port and client are kept. An attempt id is
a number that is not drawn twice.
-/
namespace DebugRouter.Trace

open Library List

inductive TraceEvent where
  | devicePlugged | socketConnected | socketDisconnected | sdkRegisterReceived | usbClientConnected
  | usbClientDisconnected
  deriving DecidableEq

structure ConnectionTraceNode where
  sequence : Nat
  deviceId : Option String
  event : TraceEvent
  connectionAttemptId : Option Nat
  port : Option Nat := none
  clientId : Option Int := none
  deriving DecidableEq

structure ClientTraceInfo where
  deviceId : Option String
  port : Option Nat
  connectionAttemptId : Option Nat
  deriving DecidableEq

structure ConnectionTraceRecorder where
  nextSequenceValue : Nat := 0
  nextAttempt : Nat := 0
  connectionAttemptByPort : OrderedMap String Nat := .empty
  usbClientConnections : OrderedMap Int ClientTraceInfo := .empty
  appClientConnections : OrderedMap Int ClientTraceInfo := .empty

def portKey (deviceId : String) (port : Nat) : String := deviceId ++ ":" ++ port.repr

def startsWith (key start : String) : Bool := start.toList.isPrefixOf key.toList

namespace ConnectionTraceRecorder
variable (r : ConnectionTraceRecorder) (deviceId : String) (port : Nat) (clientId : Int)

def recordNode (event : TraceEvent) (connectionAttemptId : Option Nat) (port : Option Nat := none)
    (clientId : Option Int := none) : ConnectionTraceRecorder × ConnectionTraceNode :=
  ({ r with nextSequenceValue := r.nextSequenceValue + 1 },
    ⟨r.nextSequenceValue + 1, some deviceId, event, connectionAttemptId, port, clientId⟩)

def startConnectionAttempt : ConnectionTraceRecorder × Nat :=
  ({ r with
      nextAttempt := r.nextAttempt + 1
      connectionAttemptByPort := r.connectionAttemptByPort.set (portKey deviceId port) r.nextAttempt
        }, r.nextAttempt)

def findConnectionAttempt : Option Nat := r.connectionAttemptByPort.get? (portKey deviceId port)

def resolveConnectionAttempt : ConnectionTraceRecorder × Nat :=
  match r.findConnectionAttempt deviceId port with
  | some attempt => (r, attempt)
  | none => r.startConnectionAttempt deviceId port

def recordSocketConnected : (ConnectionTraceRecorder × ConnectionTraceNode) × Nat :=
  let (r, attempt) := r.startConnectionAttempt deviceId port
  (r.recordNode deviceId .socketConnected attempt port, attempt)

def recordSocketDisconnected (connectionAttemptId : Option Nat) :
    ConnectionTraceRecorder × ConnectionTraceNode :=
  let (r, node) := r.recordNode deviceId .socketDisconnected
    (connectionAttemptId <|> r.findConnectionAttempt deviceId port) port
  ({ r with connectionAttemptByPort := r.connectionAttemptByPort.delete (portKey deviceId port) },
    node)

def recordSdkRegister (connectionAttemptId : Option Nat) :
    ConnectionTraceRecorder × ConnectionTraceNode :=
  match connectionAttemptId with
  | some attempt => r.recordNode deviceId .sdkRegisterReceived attempt port
  | none =>
    let (r, attempt) := r.resolveConnectionAttempt deviceId port
    r.recordNode deviceId .sdkRegisterReceived attempt port

def recordUsbClientConnected : ConnectionTraceRecorder × ConnectionTraceNode :=
  let (r, attempt) := r.resolveConnectionAttempt deviceId port
  let (r, node) := r.recordNode deviceId .usbClientConnected attempt port clientId
  ({ r with usbClientConnections := r.usbClientConnections.set clientId ⟨deviceId, port, attempt⟩ },
    node)

def recordUsbClientDisconnected : ConnectionTraceRecorder × ConnectionTraceNode :=
  let attempt := (r.usbClientConnections.get? clientId).bind ClientTraceInfo.connectionAttemptId <|>
    r.findConnectionAttempt deviceId port
  let (r, node) := r.recordNode deviceId .usbClientDisconnected attempt port clientId
  ({ r with usbClientConnections := r.usbClientConnections.delete clientId }, node)

/-- A loop that deletes the entry it has come to still comes to all the others. -/
def clearStaleDeviceTraceState : ConnectionTraceRecorder :=
  { r with
    connectionAttemptByPort :=
      r.connectionAttemptByPort.filter fun key _ => !startsWith key (deviceId ++ ":")
    usbClientConnections :=
      r.usbClientConnections.filter fun _ entry => entry.deviceId ≠ some deviceId
    appClientConnections := r.appClientConnections.filter fun _ entry => entry.deviceId ≠
      some deviceId }

def recordDevicePlug : ConnectionTraceRecorder × ConnectionTraceNode :=
  (r.clearStaleDeviceTraceState deviceId).recordNode deviceId .devicePlugged none

end ConnectionTraceRecorder

theorem colon_not_mem_repr (port : Nat) : ':' ∉ port.repr.toList := by
  rw [Nat.toList_repr]
  intro mem
  exact absurd (Nat.isDigit_of_mem_toDigits (by decide) (by decide) mem) (by decide)

/-- The key of a port starts with a device id and a colon if it is that device's, or if the id of
its device does. -/
theorem startsWith_portKey (d d' : String) (port : Nat) :
    startsWith (portKey d' port) (d ++ ":") = true ↔ d' = d ∨ startsWith d' (d ++ ":") = true := by
  simp only [startsWith, isPrefixOf_iff_prefix, portKey, String.toList_append, append_assoc]
  have hp := colon_not_mem_repr port
  constructor
  · intro starts
    rcases prefix_or_prefix_of_prefix starts (prefix_append ..) with long | short
    · exact .inr long
    · rcases prefix_concat_iff.mp short with same | ⟨xs, same⟩
      · exact .inr (same ▸ prefix_rfl)
      · rw [← same, append_assoc, prefix_append_right_inj] at starts
        cases xs with
        | nil => exact .inl (String.toList_inj.mp (by simpa using same))
        | cons c xs =>
          obtain ⟨-, later⟩ := cons_prefix_cons.mp starts
          exact absurd (later.subset (by simp)) hp
  · rintro (rfl | starts)
    · exact ⟨port.repr.toList, by simp⟩
    · exact starts.trans (prefix_append ..)

namespace ConnectionTraceRecorder

/-- The attempts and the clients of one device are gone, and all others are there. -/
structure ResetsOnly (deviceId : String) (r r' : ConnectionTraceRecorder) : Prop where
  attempts : ∀ other port, r'.findConnectionAttempt other port =
    if other = deviceId then none else r.findConnectionAttempt other port
  usbClients : ∀ id, r'.usbClientConnections.get? id =
    (r.usbClientConnections.get? id).filter fun entry => entry.deviceId ≠ some deviceId
  appClients : ∀ id, r'.appClientConnections.get? id =
    (r.appClientConnections.get? id).filter fun entry => entry.deviceId ≠ some deviceId

theorem find_recordDevicePlug (r : ConnectionTraceRecorder) (d other : String) (port : Nat) :
    (r.recordDevicePlug d).1.findConnectionAttempt other port =
      if other = d ∨ startsWith other (d ++ ":") = true then none
      else r.findConnectionAttempt other port := by
  unfold findConnectionAttempt
  dsimp only [recordDevicePlug, recordNode, clearStaleDeviceTraceState]
  simp only [OrderedMap.get?_filter, ← startsWith_portKey d other port]
  cases startsWith (portKey other port) (d ++ ":") <;> cases r.connectionAttemptByPort.get? _ <;> simp

theorem recordDevicePlug_resets_iff (r : ConnectionTraceRecorder) (d : String) :
    ResetsOnly d r (r.recordDevicePlug d).1 ↔
      ∀ other port, startsWith other (d ++ ":") = true →
        r.findConnectionAttempt other port = none := by
  constructor
  · intro resets other port starts
    have hd : other ≠ d := by
      rintro rfl
      rw [startsWith, isPrefixOf_iff_prefix] at starts
      have long := starts.length_le
      simp at long
    have kept := resets.attempts other port
    rw [find_recordDevicePlug, if_pos (.inr starts), if_neg hd] at kept
    exact kept.symm
  · intro free
    refine ⟨fun other port => ?_, fun id => OrderedMap.get?_filter, fun id => OrderedMap.get?_filter⟩
    rw [find_recordDevicePlug]
    by_cases starts : startsWith other (d ++ ":") = true
    · simp [starts, free other port starts]
    · simp [starts]

/-- A network device is plugged in while the same address is in use by adb. -/
theorem plug_resets_other :
    let r := (recordSocketConnected {} "10.0.0.2:5555" 8901).1.1
    r.findConnectionAttempt "10.0.0.2:5555" 8901 = some 0 ∧
      (r.recordDevicePlug "10.0.0.2").1.findConnectionAttempt "10.0.0.2:5555" 8901 = none := by
  decide +kernel

end ConnectionTraceRecorder

end DebugRouter.Trace
