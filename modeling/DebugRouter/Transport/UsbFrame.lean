import DebugRouter.Library.Bytes
import DebugRouter.Library.Framing
import DebugRouter.Library.JsonText
import DebugRouter.Native.Protocol

/-!
The USB wire format, on both of its sides. A frame is five words (version, type, tag, the size
of the rest and the length of the content) and the content. The connector packs and unpacks
frames in TypeScript, the runtime in C++.
-/
namespace DebugRouter.Transport

open Library List

/- The connector -/

def pack (enc : List UInt8) : List UInt8 :=
  word 1 ++ (word 101 ++ (word 0 ++ (word (enc.length + 4) ++ (word enc.length ++ enc))))

def packMessage (data : Json) : List UInt8 := pack (Utf8.encode (JsonText.stringify data).toList)

def usbmuxdPacketHeaderLength : Nat := 20

/-- `buffer.toString` throws `ERR_STRING_TOO_LONG` when the string would be longer than the engine
allows. -/
structure StringTooLong where
  deriving DecidableEq

section Unpack
variable (limit : Nat)

/-- One turn of the loop in `handleUnpackMessage`; `header[4]` is the last of the five words. The
exception leaves the frame where it is, so the next chunk meets it again. -/
def unpack (buffer : List UInt8) : Scan UInt8 (List UInt8) StringTooLong :=
  let size := wordValue ((buffer.drop 16).take 4)
  if buffer.length < usbmuxdPacketHeaderLength then .wait buffer
  else if size + usbmuxdPacketHeaderLength ≤ buffer.length then
    if size ≤ limit then
      .frame ((buffer.drop usbmuxdPacketHeaderLength).take size)
        (buffer.drop (usbmuxdPacketHeaderLength + size))
    else .fail ⟨⟩
  else .wait buffer

variable {limit} {size : Nat} {buf : List UInt8}

theorem unpack_of_size (header : wordValue ((buf.drop 16).take 4) = size)
    (complete : 20 + size ≤ buf.length) : unpack limit buf =
      if size ≤ limit then .frame ((buf.drop 20).take size) (buf.drop (20 + size))
      else .fail ⟨⟩ := by
  unfold unpack usbmuxdPacketHeaderLength
  dsimp only
  rw [header, if_neg (by omega), if_pos (by omega)]

theorem unpack_cases (limit : Nat) (buf : List UInt8) : unpack limit buf = .wait buf ∨
    20 + wordValue ((buf.drop 16).take 4) ≤ buf.length := by
  unfold unpack usbmuxdPacketHeaderLength
  dsimp only
  split
  · exact .inl rfl
  · split
    · right
      omega
    · exact .inl rfl

/-- What a complete frame is does not depend on what comes later. -/
theorem unpack_append (complete : 20 + wordValue ((buf.drop 16).take 4) ≤ buf.length)
    (more : List UInt8) : unpack limit (buf ++ more) =
      if wordValue ((buf.drop 16).take 4) ≤ limit then
        .frame ((buf.drop 20).take (wordValue ((buf.drop 16).take 4)))
          (buf.drop (20 + wordValue ((buf.drop 16).take 4)) ++ more)
      else .fail ⟨⟩ := by
  generalize sized : wordValue ((buf.drop 16).take 4) = size at *
  have header : wordValue (((buf ++ more).drop 16).take 4) = size := by
    rw [← sized, drop_append_of_le_length (by omega),
      take_append_of_le_length (by rw [length_drop]; omega)]
  rw [unpack_of_size header (by rw [length_append]; omega),
    drop_append_of_le_length (by omega), drop_append_of_le_length (by omega),
    take_append_of_le_length (by rw [length_drop]; omega)]

theorem unpack_frame {found rest : List UInt8} (h : unpack limit buf = .frame found rest) :
    ∃ size, size ≤ limit ∧ 20 + size ≤ buf.length ∧ found = (buf.drop 20).take size ∧
      rest = buf.drop (20 + size) ∧ wordValue ((buf.drop 16).take 4) = size := by
  rcases unpack_cases limit buf with waits | complete
  · cases waits.symm.trans h
  · rw [unpack_of_size rfl complete] at h
    split at h
    next short =>
      cases h
      exact ⟨_, short, complete, rfl, rfl, rfl⟩
    · cases h

end Unpack

def usbFraming (limit : Nat) : Framing UInt8 (List UInt8) StringTooLong where
  scan := unpack limit
  shorter := by
    intro buffer found rest scanned
    obtain ⟨size, -, complete, -, rfl, -⟩ := unpack_frame scanned
    rw [length_drop]
    omega
  frame_append := by
    intro buffer found rest scanned more
    obtain ⟨size, short, complete, rfl, rfl, rfl⟩ := unpack_frame scanned
    rw [unpack_append complete, if_pos short]
  fail_append := by
    intro buffer error failed more
    rcases unpack_cases limit buffer with waits | complete
    · cases waits.symm.trans failed
    · rw [unpack_of_size rfl complete] at failed
      split at failed
      · cases failed
      next long => rw [unpack_append complete, if_neg long]
  wait_keeps := by
    intro buffer kept waits
    rcases unpack_cases limit buffer with all | complete
    · cases all.symm.trans waits
      rfl
    · rw [unpack_of_size rfl complete] at waits
      split at waits <;> cases waits

/- The runtime -/

namespace Native

def kFrameProtocolVersion : Nat := 1
def kPTFrameTypeTextMessage : Nat := 101
def kFrameDefaultTag : Nat := 0
def kFrameHeaderLen : Nat := 16
def kPayloadSizeLen : Nat := 4

/-- Sizes are cast to 32 bits, and `word` keeps only those. -/
def wrapHeader (message : List UInt8) : List UInt8 :=
  word kFrameProtocolVersion ++ (word kPTFrameTypeTextMessage ++ (word kFrameDefaultTag ++
    (word (kFrameHeaderLen + kPayloadSizeLen + message.length) ++ (word message.length ++ message))))

def checkHeaderThreeBytes (header : List UInt8) : Bool :=
  wordValue (header.take 4) = 1 && wordValue ((header.drop 4).take 4) = 101 &&
    wordValue ((header.drop 8).take 4) = 0

def checkHeaderFourthByte (header : List UInt8) (payloadSize : Nat) : Bool :=
  wordValue ((header.drop 12).take 4) = (payloadSize + 4) % 2 ^ 32

/-- How the bytes of a socket end: the peer closes, the client is stopping, or `recv` fails. -/
inductive Ending where
  | closed
  | stopped
  | error (code : Int)

/-- `Read` calls `recv` until it has all the bytes, so only the bytes themselves matter. -/
def read (size : Nat) (stream : List UInt8) : Option (List UInt8 × List UInt8) :=
  if size ≤ stream.length then some (stream.take size, stream.drop size) else none

/-- `close` is what `NotifyCloseOnce` is given; after it both queues are ended. -/
structure ReadEnd where
  opened : Bool
  incoming : List (List UInt8)
  shutdown : Bool
  close : Option (Int × String)
  failure : Option (Int × String)

def ReadEnd.receive (message : List UInt8) (e : ReadEnd) : ReadEnd :=
  { e with incoming := message :: e.incoming }

/-- `reason` and `message` belong to a failing `recv`; the first frame's header is not reported. -/
def endRead (isFirst report : Bool) (reason message : String) : Ending → ReadEnd
  | .closed => ⟨!isFirst, [], true, some (0, "peer closed connection (EOF)"), none⟩
  | .stopped => ⟨!isFirst, [], false, some (0, "ReadMessage stopped"), none⟩
  | .error code =>
    ⟨!isFirst, [], true, some (code, reason), if report then some (code, message) else none⟩

def protocolMismatch (isFirst : Bool) (errno : Int) : ReadEnd :=
  ⟨!isFirst, [], true, some (errno, "ReadMessage finished after protocol mismatch"),
    if isFirst then none
    else some (errno, "ReadAndCheckMessageHeader error: don't match DebugRouter protocol")⟩

/-- An exception leaves `ReadMessage` and is caught by the executor of its thread: nothing is
notified, and no queue is ended. -/
def threwRead : ReadEnd := ⟨true, [], false, none, none⟩

theorem read_length {size : Nat} {stream bytes xs : List UInt8}
    (done : read size stream = some (bytes, xs)) : xs.length + size = stream.length := by
  unfold read at done
  split at done
  · cases done
    rw [length_drop]
    omega
  · cases done

section ReadMessage
variable (cpp : DebugRouter.Native.JsonCpp) (filter : List UInt8 → Except String Bool)
variable (ending : Ending) (errno : Int)

/-- `GetVerboseMessageLogLevel`. The level only decides what is logged, but the message is parsed for
it. -/
def getVerboseMessageLogLevel (message : List UInt8) : Except String Unit := do
  let _ ← cpp.parse message

/-- What `ReadMessage` asks about a payload: how it is logged, and whether the session filter
`filter` drops it. Both may throw. -/
def inspect (payload : List UInt8) : Except String Bool := do
  getVerboseMessageLogLevel cpp payload
  filter payload

/-- A frame whose fourth word is wrong is dropped without its content, which is then read as the
next frame. -/
def readMessage (isFirst : Bool) (stream : List UInt8) : ReadEnd :=
  match headerRead : read kFrameHeaderLen stream with
  | none =>
    endRead isFirst (!isFirst) "ReadMessage finished after socket error"
      "ReadMessage header read socket error" ending
  | some (header, stream') =>
    if checkHeaderThreeBytes header then
      match sizeRead : read kPayloadSizeLen stream' with
      | none =>
        endRead false true "ReadMessage finished after payload-size read error"
          "read payload size data error." ending
      | some (payloadSize, stream'') =>
        have := read_length headerRead
        have := read_length sizeRead
        if checkHeaderFourthByte header (wordValue payloadSize) then
          match payloadRead : read (wordValue payloadSize) stream'' with
          | none =>
            endRead false true "ReadMessage finished after payload read error"
              "read payload data error:" ending
          | some (payload, rest) =>
            have := read_length payloadRead
            match inspect cpp filter payload with
            | .error _ => threwRead
            | .ok true => readMessage false rest
            | .ok false => (readMessage false rest).receive payload
        else readMessage false stream''
    else protocolMismatch isFirst errno
termination_by stream.length
decreasing_by all_goals simp only [kFrameHeaderLen, kPayloadSizeLen] at *; omega

end ReadMessage

end Native

end DebugRouter.Transport
