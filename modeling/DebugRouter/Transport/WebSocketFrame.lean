import Mathlib.Data.List.TakeWhile
import DebugRouter.Library.Bytes

/-!
The WebSocket frames of a `WebSocketTask`: the prefix that `SendInternal` builds, and `do_read`, which
reads each field of a frame with a single `recv` and does not look at the opcode.
-/
namespace DebugRouter.Transport.WebSocket

open Library List

/- Lengths -/

/-- The second byte and the length bytes of RFC 6455, in the shortest form. -/
def lengthBytes (mask n : Nat) : List UInt8 :=
  if n < 126 then [UInt8.ofNat (n + mask)]
  else if n < 2 ^ 16 then UInt8.ofNat (126 + mask) :: [UInt8.ofNat (n / 2 ^ 8), UInt8.ofNat n]
  else UInt8.ofNat (127 + mask) :: (word (n / 2 ^ 32) ++ word n)

/-- `prefix` of `SendInternal`; of a long payload it has the lower four length bytes only. -/
def sendPrefix (payloadLen : Nat) : List UInt8 :=
  0x81 :: ((if payloadLen > 65535 then UInt8.ofNat (127 + 0x80) :: (word 0 ++ word payloadLen)
      else if payloadLen > 125 then
        UInt8.ofNat (126 + 0x80) :: [UInt8.ofNat (payloadLen / 2 ^ 8), UInt8.ofNat payloadLen]
      else [UInt8.ofNat (payloadLen + 0x80)]) ++ word 0)

def signExtend (n : Nat) : Nat := if n < 2 ^ 31 then n else n + (2 ^ 64 - 2 ^ 32)

def extraLength (second : UInt8) : Nat :=
  if second.toNat % 2 ^ 7 = 126 then 2 else if second.toNat % 2 ^ 7 = 127 then 8 else 0

def readLength (second : UInt8) (len : List UInt8) : Nat :=
  if second.toNat % 2 ^ 7 = 126 then wordValue len
  else if second.toNat % 2 ^ 7 = 127 then signExtend (wordValue (len.drop 4))
  else second.toNat % 2 ^ 7

def decodedLength : List UInt8 → Nat
  | [] => 0
  | second :: len => readLength second len

theorem decodedLength_lengthBytes (n : Nat) :
    decodedLength (lengthBytes 0 n) =
      if n < 2 ^ 16 then n else signExtend (n % 2 ^ 32) := by
  unfold lengthBytes
  split
  next hsh =>
    have hs : (UInt8.ofNat (n + 0)).toNat % 2 ^ 7 = n := by
      rw [UInt8.toNat_ofNat']
      omega
    rw [decodedLength, readLength, hs, if_neg (by omega), if_neg (by omega), if_pos (by omega)]
  · split
    next hm =>
      rw [decodedLength, readLength, if_pos (by decide)]
      simp only [wordValue, foldl_cons, foldl_nil, UInt8.toNat_ofNat']
      omega
    · rw [decodedLength, readLength, if_neg (by decide), if_pos (by decide)]
      have hl : (word (n / 2 ^ 32) ++ word n).drop 4 = word n := rfl
      rw [hl, wordValue_word_mod]

theorem lengths_exact_iff (n : Nat) (bound : n < 2 ^ 63) :
    (sendPrefix n = 0x81 :: (lengthBytes 0x80 n ++ word 0) ∧
      decodedLength (lengthBytes 0 n) = n) ↔ n < 2 ^ 31 := by
  rw [decodedLength_lengthBytes, signExtend]
  constructor
  · rintro ⟨-, hs⟩
    split at hs
    · omega
    · split at hs <;> omega
  · intro hsm
    constructor
    · unfold sendPrefix lengthBytes
      rcases (by omega : n < 126 ∨ 126 ≤ n ∧ n < 2 ^ 16 ∨ 2 ^ 16 ≤ n) with hsh | middle | long
      · rw [if_neg (by omega), if_neg (by omega), if_pos hsh]
      · rw [if_neg (by omega), if_pos (by omega), if_neg (by omega), if_pos middle.2]
      · rw [if_pos (by omega), if_neg (by omega), if_neg (by omega), Nat.div_eq_of_lt (by omega)]
    · split
      · rfl
      · rw [if_pos (by omega), Nat.mod_eq_of_lt (by omega)]

theorem middle_length_exact : decodedLength (lengthBytes 0 300) = 300 :=
  ((lengths_exact_iff 300 (by decide)).mpr (by decide)).2

/-- The length is sign-extended on the way in, and cut on the way out. -/
theorem long_lengths_wrong : decodedLength (lengthBytes 0 (2 ^ 31)) = 2 ^ 64 - 2 ^ 31 ∧
    sendPrefix (2 ^ 32) = 0x81 :: 0xFF :: (word 0 ++ (word 0 ++ word 0)) := by
  decide

/- Reading -/

inductive Opcode where
  | text | close | ping | pong
  deriving DecidableEq

def Opcode.code : Opcode → Nat
  | .text => 1
  | .close => 8
  | .ping => 9
  | .pong => 10

/-- A final frame of a server, neither masked nor compressed. -/
structure Frame where
  opcode : Opcode
  payload : List UInt8
  deriving DecidableEq

/-- The parts of a frame that `do_read` asks for: two bytes, the length bytes and the payload. -/
def Frame.fields (f : Frame) : List (List UInt8) :=
  let length := lengthBytes 0 f.payload.length
  [UInt8.ofNat (0x80 + f.opcode.code) :: length.take 1, length.drop 1, f.payload]

/-- One `recv`: of the bytes that have arrived together it takes what it has asked for. After the
last ones the peer has closed. -/
def recv (size : Nat) : List (List UInt8) → List UInt8 × List (List UInt8)
  | [] => ([], [])
  | chunk :: later =>
    if size = 0 then ([], chunk :: later)
    else if chunk.length ≤ size then (chunk, later)
    else (chunk.take size, chunk.drop size :: later)

/-- The message and what is left, or `none` when `do_read` returns false. The length bytes that the
`recv` did not get are those that were there, `stale`. -/
def doRead (stale : List UInt8) (arrivals : List (List UInt8)) :
    Option (List UInt8 × List (List UInt8)) :=
  match recv 2 arrivals with
  | ([flagOpcode, second], arrivals) =>
    if flagOpcode.toNat < 0x80 ∨ 0x80 ≤ second.toNat ∨ flagOpcode.toNat / 2 ^ 6 % 2 = 1 then none
    else
      let (len, arrivals) := recv (extraLength second) arrivals
      let payloadLen := readLength second ((len ++ stale).take (extraLength second))
      let (msg, arrivals) := recv payloadLen arrivals
      if msg.length = payloadLen then some (msg, arrivals) else none
  | _ => none

/-- What the loop of `StartInternal` reads in at most so many turns. -/
def messages (stale : List UInt8) : Nat → List (List UInt8) → List (List UInt8)
  | 0, _ => []
  | turns + 1, arrivals =>
    match doRead stale arrivals with
    | none => []
    | some (msg, arrivals) => msg :: messages stale turns arrivals

/-- Each `recv` that asks for a field gets all of it. -/
def Whole : List (List UInt8) → List (List UInt8) → Prop
  | [], arrivals => arrivals = []
  | field :: fields, arrivals =>
    (recv field.length arrivals).1 = field ∧ Whole fields (recv field.length arrivals).2

/-- The payloads of the text frames before a close frame. -/
def textPayloads (frames : List Frame) : List (List UInt8) :=
  ((frames.takeWhile (·.opcode ≠ .close)).filter (·.opcode = .text)).map Frame.payload

theorem second_spec (n : Nat) : ∃ second len, lengthBytes 0 n = second :: len ∧
    second.toNat < 0x80 ∧ len.length = extraLength second := by
  unfold lengthBytes
  split
  next hs =>
    have hv : (UInt8.ofNat (n + 0)).toNat = n := by
      rw [UInt8.toNat_ofNat']
      omega
    refine ⟨_, [], rfl, by omega, ?_⟩
    rw [extraLength, hv, Nat.mod_eq_of_lt (by omega), if_neg (by omega), if_neg (by omega)]
    rfl
  · split
    · exact ⟨_, _, rfl, by decide, rfl⟩
    · exact ⟨_, _, rfl, by decide, rfl⟩

variable {stale : List UInt8} {f : Frame} {frames : List Frame} {arrivals : List (List UInt8)}

theorem doRead_whole {fs : List (List UInt8)} (hs : f.payload.length < 2 ^ 31)
    (hw : Whole (f.fields ++ fs) arrivals) :
    ∃ later, doRead stale arrivals = some (f.payload, later) ∧ Whole fs later := by
  obtain ⟨second, len, hb, hu, he⟩ := second_spec f.payload.length
  have hsi : readLength second len = f.payload.length := by
    have hd := decodedLength_lengthBytes f.payload.length
    rw [hb, decodedLength, signExtend] at hd
    rw [hd]
    split
    · rfl
    · rw [if_pos (by omega), Nat.mod_eq_of_lt (by omega)]
  have hf : ¬ ((UInt8.ofNat (0x80 + f.opcode.code)).toNat < 0x80 ∨ 0x80 ≤ second.toNat ∨
      (UInt8.ofNat (0x80 + f.opcode.code)).toNat / 2 ^ 6 % 2 = 1) := by
    cases f.opcode <;> simp [Opcode.code] <;> omega
  simp only [Frame.fields, hb, take_succ_cons, take_zero, drop_succ_cons,
    drop_zero, cons_append, nil_append, Whole, length_cons, length_nil] at hw
  obtain ⟨hh, ht, pl, later⟩ := hw
  refine ⟨_, ?_, later⟩
  rw [doRead, ← Prod.mk.eta (p := recv 2 arrivals), hh]
  simp only [if_neg hf, ← he, ht]
  rw [take_left, hsi, pl, if_pos rfl]

theorem messages_whole (hs : ∀ f ∈ frames, f.payload.length < 2 ^ 31)
    (hw : Whole (frames.flatMap Frame.fields) arrivals) (extra : Nat) :
    messages stale (frames.length + 1 + extra) arrivals = frames.map Frame.payload := by
  induction frames generalizing arrivals with
  | nil =>
    rw [flatMap_nil, Whole] at hw
    subst hw
    rw [length_nil, Nat.add_right_comm]
    rfl
  | cons f frames ih =>
    obtain ⟨first, hs⟩ := forall_mem_cons.mp hs
    rw [flatMap_cons] at hw
    obtain ⟨later, hr, hw⟩ := doRead_whole first hw
    rw [length_cons, Nat.add_right_comm, Nat.add_right_comm _ 1, messages, hr]
    exact congrArg (f.payload :: ·) (Nat.add_right_comm .. ▸ ih hs hw)

theorem textPayloads_eq_iff : frames.map Frame.payload = textPayloads frames ↔
    ∀ f ∈ frames, f.opcode = .text := by
  constructor
  · intro hs
    have hl := congrArg length hs
    rw [textPayloads, length_map, length_map] at hl
    have ha : frames.takeWhile (·.opcode ≠ .close) <+: frames := takeWhile_prefix _
    have hf := length_filter_le (fun f : Frame => decide (f.opcode = .text))
      (frames.takeWhile (·.opcode ≠ .close))
    have hb := ha.eq_of_length_le (by omega)
    rw [hb] at hf hl
    intro f hm
    simpa using length_filter_eq_length_iff.mp hl.symm f hm
  · intro text
    rw [textPayloads, takeWhile_eq_self_iff.mpr fun f hm => by simp [text f hm],
      filter_eq_self.mpr fun f hm => by simp [text f hm]]

/-- If each `recv` gets what it asks for, then the text frames' payloads are what is read exactly if
there are no other frames. -/
theorem text_frames_read_iff (stale : List UInt8) (frames : List Frame)
    (small : ∀ f ∈ frames, f.payload.length < 2 ^ 31) (arrivals : List (List UInt8))
    (whole : Whole (frames.flatMap Frame.fields) arrivals) (extra : Nat) :
    messages stale (frames.length + 1 + extra) arrivals = textPayloads frames ↔
      ∀ f ∈ frames, f.opcode = .text := by
  rw [messages_whole small whole extra, textPayloads_eq_iff]

theorem one_text_frame_read : messages [] 2 [[0x81, 2, 0x7B, 0x7D]] = [[0x7B, 0x7D]] :=
  (text_frames_read_iff [] [⟨.text, [0x7B, 0x7D]⟩] (by decide) [[0x81, 2, 0x7B, 0x7D]]
    (by simp [Frame.fields, lengthBytes, Opcode.code, Whole, recv]) 0).mpr (by decide)

/-- The payload of a ping is read as a message, and a text frame of which only the first byte has
arrived is not read at all. -/
theorem ping_read_and_split_header_lost : messages [] 2 [[0x89, 2, 0x7B, 0x7D]] = [[0x7B, 0x7D]] ∧
      messages [] 2 [[0x81], [2, 0x7B, 0x7D]] = [] := by
  decide

end DebugRouter.Transport.WebSocket
