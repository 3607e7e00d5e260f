import DebugRouter.Library.Bytes
import DebugRouter.Library.Framing
import DebugRouter.Library.JsonRoundTrip
import DebugRouter.Library.Runs
import DebugRouter.Library.Search

/-!
The control connection between the daemon and its connectors. A frame is the prefix `$MUX`, the
length of the payload and the payload, the text of a JSON value. Other programs may write to the
socket between the frames, so the receiver looks for the prefix.
-/
namespace DebugRouter.Transport

open Library

structure TransportError where
  code : String
  message : String
  deriving DecidableEq

structure TransportOption where
  maxFrameSize : Nat
  maxBufferSize : Nat

def defaultOption : TransportOption := ⟨16 * 1024 * 1024, 32 * 1024 * 1024⟩

def framePrefix : List UInt8 := [0x24, 0x4D, 0x55, 0x58]

def frameHeaderSize : Nat := 8

def frameTooLarge (option : TransportOption) : TransportError :=
  ⟨"frame-too-large",
    "Multiplexer control frame exceeds " ++ toString option.maxFrameSize ++ " bytes"⟩

def bufferTooLarge (option : TransportOption) : TransportError :=
  ⟨"buffer-too-large",
    "Multiplexer control buffer exceeds " ++ toString option.maxBufferSize ++ " bytes"⟩

def emptyFrame : TransportError :=
  ⟨"invalid-frame", "Multiplexer control frame payload length must be greater than zero"⟩

/-- The engine's own description of the parse error is appended to the message. -/
def unparsableFrame : TransportError :=
  ⟨"invalid-frame", "Failed to parse multiplexer control message: "⟩

def incompleteFrame : TransportError :=
  ⟨"incomplete-frame", "Multiplexer control socket ended with an incomplete frame"⟩

def payloadOf (message : Json) : List UInt8 := Utf8.encode (JsonText.stringify message).toList

def frameOf (message : Json) : List UInt8 :=
  framePrefix ++ (word (payloadOf message).length ++ payloadOf message)

/-- What `send` writes on a writable socket; nothing when the payload is too large. -/
def send (option : TransportOption) (message : Json) : Option (List UInt8) :=
  if (payloadOf message).length > option.maxFrameSize then none else some (frameOf message)

def scanFrame (option : TransportOption) (buffer : List UInt8) : Scan UInt8 Json TransportError :=
  let payloadLength := wordValue ((buffer.drop 4).take 4)
  if buffer.length < frameHeaderSize then .wait buffer
  else if payloadLength = 0 then .fail emptyFrame
  else if payloadLength > option.maxFrameSize then .fail (frameTooLarge option)
  else if buffer.length < frameHeaderSize + payloadLength then .wait buffer
  else
    let payload := (buffer.drop frameHeaderSize).take payloadLength
    match JsonText.parse (String.ofList (Utf8.decode payload)) with
    | none => .fail unparsableFrame
    | some message => .frame message (buffer.drop (frameHeaderSize + payloadLength))

/-- One turn of the loop in `parseFrames`. Without a prefix all but the last four bytes go. -/
def parseFrame (option : TransportOption) (buffer : List UInt8) : Scan UInt8 Json TransportError :=
  if buffer.length < frameHeaderSize then .wait buffer
  else
    match locate framePrefix buffer with
    | none => .wait (buffer.drop (buffer.length - framePrefix.length))
    | some start => scanFrame option start

theorem scanFrame_shorter {opt : TransportOption} {buf xs : List UInt8} {msg : Json}
    (h : scanFrame opt buf = .frame msg xs) : xs.length < buf.length := by
  unfold scanFrame frameHeaderSize at h
  dsimp only at h
  split at h
  · cases h
  split at h
  · cases h
  split at h
  · cases h
  split at h
  · cases h
  split at h
  · cases h
  · cases h
    rw [List.length_drop]
    omega

def parseFrames (option : TransportOption) : Scanner UInt8 Json TransportError where
  scan := parseFrame option
  shorter := by
    intro buffer message rest scanned
    unfold parseFrame at scanned
    split at scanned
    · cases scanned
    · split at scanned
      · cases scanned
      next start found =>
        have inside := (locate_spec found).2.length_le
        have shorter := scanFrame_shorter scanned
        omega

/-- The receiving end. `delivered` are the messages its listener was called with. -/
structure ControlTransport where
  buffer : List UInt8
  closed : Bool
  closeError : Option TransportError
  delivered : List Json

namespace ControlTransport

def initial : ControlTransport := ⟨[], false, none, []⟩

def destroy (transport : ControlTransport) (error : TransportError) : ControlTransport :=
  if transport.closed then transport
  else { transport with closed := true, closeError := some error }

def handleData (option : TransportOption) (transport : ControlTransport) (chunk : List UInt8) :
    ControlTransport :=
  if transport.closed ∨ chunk = [] then transport
  else if transport.buffer.length + chunk.length > option.maxBufferSize then
    transport.destroy (bufferTooLarge option)
  else
    match (parseFrames option).drain (transport.buffer ++ chunk) with
    | (messages, .reading buffer) =>
      { transport with buffer := buffer, delivered := transport.delivered ++ messages }
    | (messages, .failed error) =>
      { transport with delivered := transport.delivered ++ messages }.destroy error

def handleEnd (transport : ControlTransport) : ControlTransport :=
  { transport with
      closed := true
      closeError :=
        if transport.buffer ≠ [] ∧ transport.closeError = none then some incompleteFrame
        else transport.closeError }

end ControlTransport

end DebugRouter.Transport
