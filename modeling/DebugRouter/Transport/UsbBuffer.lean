import DebugRouter.Transport.UsbFrame

/-!
The buffer under `handleUnpackMessage`. Bytes are appended at `end`, frames are taken out at
`offset`, and the buffer is moved down or doubled when a chunk does not fit. A payload that is too
long for a string makes `toString` throw, and `handleData` ends the client.
-/
namespace DebugRouter.Transport

open Library List Option

/- Node's buffers -/

/-- `Buffer.copy` stops where the target ends. -/
def copyInto (target : List UInt8) (start : Nat) (bytes : List UInt8) : List UInt8 :=
  target.take start ++ (bytes.take (target.length - start) ++ target.drop (start + bytes.length))

def slice (buffer : List UInt8) (start stop : Nat) : List UInt8 :=
  (buffer.drop start).take (stop - start)

/-- `Buffer.allocUnsafe` gives a buffer of the size asked for, with whatever was in the memory. -/
structure Allocation where
  allocUnsafe : Nat → List UInt8
  size : ∀ n, (allocUnsafe n).length = n

/-- `bufferpack.unpack` of the five words; only the last one is used. -/
def unpackSize (buffer : List UInt8) (offset : Nat) : Option Nat :=
  if offset + 20 ≤ buffer.length then some (wordValue (slice buffer (offset + 16) (offset + 20)))
  else none

variable {tgt : List UInt8} {start : Nat}

theorem length_copyInto {bytes : List UInt8} (h : start + bytes.length ≤ tgt.length) :
    (copyInto tgt start bytes).length = tgt.length := by
  simp only [copyInto, length_append, length_take, length_drop]
  omega

theorem slice_copyInto (bytes : List UInt8) {stop : Nat} (ordered : start ≤ stop)
    (fits : stop + bytes.length ≤ tgt.length) :
    slice (copyInto tgt stop bytes) start (stop + bytes.length) =
      slice tgt start stop ++ bytes := by
  have front : (tgt.take stop).length = stop := by
    rw [length_take]
    omega
  unfold slice copyInto
  rw [take_of_length_le (by omega : bytes.length ≤ tgt.length - stop),
    drop_append_of_le_length (by omega), drop_take, ← append_assoc]
  apply take_left'
  simp only [length_append, length_take, length_drop]
  omega

/- The unpacker -/

def initialBufferCapacity : Nat := 1024 * 1024 * 2

/-- The adapter's buffer and what `handleMessage` was given. A capacity is never 0. -/
structure Unpacker where
  bufferCapacity : Nat := initialBufferCapacity
  buffer : Option (List UInt8) := none
  offset : Nat := 0
  finish : Nat := 0
  messages : List (List Char) := []
  positive : 0 < bufferCapacity := by decide

def grow (need capacity : Nat) (positive : 0 < capacity) : Nat :=
  if capacity < need then grow need (capacity * 2) (by omega) else capacity
termination_by need - capacity

theorem grow_positive (need cap : Nat) (h : 0 < cap) : 0 < grow need cap h := by
  fun_induction grow need cap h with
  | case1 cap h hs ih => exact ih
  | case2 cap h he => exact h

theorem grow_spec (need cap : Nat) (positive : 0 < cap) (before : cap < 2 * need) :
    ∃ turns, grow need cap positive = cap * 2 ^ turns ∧ need ≤ grow need cap positive ∧
      grow need cap positive < 2 * need := by
  fun_induction grow need cap positive with
  | case1 cap positive small ih =>
    obtain ⟨turns, doubled, enough, bound⟩ := ih (by omega)
    exact ⟨turns + 1, by rw [doubled, pow_succ', mul_assoc], enough, bound⟩
  | case2 cap positive enough => exact ⟨0, by omega, by omega, before⟩

/-- How a turn of the loop ends. -/
inductive Turn where
  | breaks
  | throws
  | next (u : Unpacker)

namespace Unpacker
variable (memory : Allocation) (limit : Nat)

def retained (u : Unpacker) : List UInt8 := slice (u.buffer.getD []) u.offset u.finish

/-- The comparisons are the source's, without differences that could be negative. -/
def makeRoom (u : Unpacker) (size : Nat) : Unpacker :=
  let buffer := u.buffer.getD (memory.allocUnsafe initialBufferCapacity)
  if u.bufferCapacity < u.finish + size then
    if u.finish + size ≤ u.bufferCapacity + u.offset then
      { u with
        buffer := some (copyInto buffer 0 (slice buffer u.offset u.finish))
        finish := u.finish - u.offset, offset := 0 }
    else
      let capacity := grow (u.finish - u.offset + size) (u.bufferCapacity * 2)
        (by have := u.positive; omega)
      { u with
        bufferCapacity := capacity
        buffer := some (copyInto (memory.allocUnsafe capacity) 0 (slice buffer u.offset u.finish))
        finish := u.finish - u.offset, offset := 0, positive := grow_positive _ _ _ }
  else { u with buffer := some buffer }

/-- A chunk is a `Buffer`, so it is never falsy. -/
def receive (u : Unpacker) (data : List UInt8) : Unpacker :=
  let u := u.makeRoom memory data.length
  { u with buffer := u.buffer.map (copyInto · u.finish data), finish := u.finish + data.length }

/-- One turn of the loop. An empty buffer starts again at 0; a string that is too long is not
decoded, and nothing is changed. -/
def turn (u : Unpacker) : Turn :=
  let length := u.finish - u.offset
  if length < usbmuxdPacketHeaderLength then .breaks
  else
    match unpackSize (u.buffer.getD []) u.offset with
    | none => .breaks
    | some size =>
      let start := u.offset + usbmuxdPacketHeaderLength
      if size + usbmuxdPacketHeaderLength ≤ length then
        if size ≤ limit then
          .next { u with
            offset := if start + size = u.finish then 0 else start + size
            finish := if start + size = u.finish then 0 else u.finish
            messages := u.messages ++
              [Utf8.decode (slice (u.buffer.getD []) start (start + size))] }
        else .throws
      else .breaks

variable {limit}

theorem turn_eq_next {u v : Unpacker} (h : u.turn limit = .next v) :
    ∃ size, unpackSize (u.buffer.getD []) u.offset = some size ∧
      u.offset + 20 + size ≤ u.finish ∧ size ≤ limit ∧ v = { u with
        offset := if u.offset + 20 + size = u.finish then 0 else u.offset + 20 + size
        finish := if u.offset + 20 + size = u.finish then 0 else u.finish
        messages := u.messages ++
          [Utf8.decode (slice (u.buffer.getD []) (u.offset + 20) (u.offset + 20 + size))] } := by
  unfold turn usbmuxdPacketHeaderLength at h
  dsimp only at h
  split at h
  · cases h
  · split at h
    · cases h
    next size header =>
      split at h
      · split at h
        next short => exact ⟨size, header, by omega, short, (Turn.next.inj h).symm⟩
        · cases h
      · cases h

theorem turn_shorter {u v : Unpacker} (h : u.turn limit = .next v) :
    v.finish - v.offset < u.finish - u.offset := by
  obtain ⟨size, -, complete, -, rfl⟩ := turn_eq_next h
  dsimp only
  split <;> omega

variable (limit)

/-- The loop, and whether an exception ended it. -/
def unpackAll (u : Unpacker) : Unpacker × Bool :=
  match turned : u.turn limit with
  | .breaks => (u, false)
  | .throws => (u, true)
  | .next v =>
    have := turn_shorter turned
    unpackAll v
termination_by u.finish - u.offset

def handleUnpackMessage (u : Unpacker) (data : List UInt8) : Unpacker × Bool :=
  (u.receive memory data).unpackAll limit

/-- The unpacker, and whether the client was ended: the exception is caught and reported. -/
def handleData (s : Unpacker × Bool) (data : List UInt8) : Unpacker × Bool :=
  let (u, threw) := s.1.handleUnpackMessage memory limit data
  (u, s.2 || threw)

/- The state of the buffer -/

structure Sound (u : Unpacker) : Prop where
  ordered : u.offset ≤ u.finish
  fits : u.finish ≤ u.bufferCapacity
  whole : ∀ buffer, u.buffer = some buffer → buffer.length = u.bufferCapacity
  unallocated : u.buffer = none → u.finish = 0 ∧ u.bufferCapacity = initialBufferCapacity

variable {memory limit} {u v : Unpacker}

theorem Sound.length_retained (h : u.Sound) : u.retained.length = u.finish - u.offset := by
  obtain ⟨ho, hf, hw, hu⟩ := h
  unfold retained slice
  rw [length_take, length_drop]
  cases hh : u.buffer with
  | none =>
    have := (hu hh).1
    simp only [getD_none, length_nil]
    omega
  | some buf =>
    have := hw buf hh
    simp only [getD_some]
    omega

theorem Sound.allocated (memory : Allocation) (h : u.Sound) :
    (u.buffer.getD (memory.allocUnsafe initialBufferCapacity)).length = u.bufferCapacity ∧
      slice (u.buffer.getD (memory.allocUnsafe initialBufferCapacity)) u.offset u.finish =
        u.retained := by
  unfold retained
  cases hh : u.buffer with
  | none =>
    obtain ⟨nothing, hi⟩ := h.unallocated hh
    rw [getD_none, memory.size, hi, nothing]
    simp [slice]
  | some buf => exact ⟨h.whole buf hh, rfl⟩

/-- There is room afterwards, and the retained bytes are the same. -/
structure Roomed (u v : Unpacker) (size : Nat) : Prop where
  sound : v.Sound
  room : v.finish + size ≤ v.bufferCapacity
  held : v.buffer ≠ none
  retained : v.retained = u.retained
  messages : v.messages = u.messages
  growth : v.bufferCapacity = u.bufferCapacity ∨
    ∃ turns, v.bufferCapacity = u.bufferCapacity * 2 * 2 ^ turns ∧
      u.retained.length + size ≤ v.bufferCapacity ∧
      v.bufferCapacity < 2 * (u.retained.length + size)

theorem Sound.moved (hso : u.Sound) (tgt : List UInt8) (hl : u.finish - u.offset ≤ tgt.length) :
    (copyInto tgt 0 u.retained).length = tgt.length ∧
      slice (copyInto tgt 0 u.retained) 0 (u.finish - u.offset) = u.retained := by
  have same := hso.length_retained
  have copied :=
    slice_copyInto u.retained (Nat.le_refl 0) (by omega : 0 + u.retained.length ≤ tgt.length)
  refine ⟨length_copyInto (by omega), ?_⟩
  simpa [slice, same] using copied

variable (memory)

theorem makeRoom_roomed (h : u.Sound) (size : Nat) : Roomed u (u.makeRoom memory size) size := by
  obtain ⟨hfu, hs⟩ := h.allocated memory
  have length := h.length_retained
  have ho := h.ordered
  have hfi := h.fits
  unfold makeRoom
  dsimp only
  split
  · rw [hs]
    split
    · obtain ⟨hk, hf⟩ := h.moved _ (by rw [hfu]; omega)
      exact ⟨⟨by simp, by dsimp only; omega, by rintro _ ⟨⟩; rw [hk, hfu], nofun⟩,
        by dsimp only; omega, nofun, hf, rfl, .inl rfl⟩
    · obtain ⟨turns, hd, he, hb⟩ := grow_spec (u.finish - u.offset + size)
        (u.bufferCapacity * 2) (by have := u.positive; omega) (by omega)
      obtain ⟨hk, hf⟩ := h.moved (memory.allocUnsafe (grow (u.finish - u.offset + size)
        (u.bufferCapacity * 2) (by have := u.positive; omega))) (by rw [memory.size]; omega)
      rw [memory.size] at hk
      exact ⟨⟨by simp, by dsimp only; omega, by rintro _ ⟨⟩; exact hk, nofun⟩, by dsimp only; omega,
        nofun, hf, rfl, .inr ⟨turns, hd, by dsimp only; omega, by dsimp only; omega⟩⟩
  · exact ⟨⟨ho, hfi, by rintro _ ⟨⟩; exact hfu, nofun⟩,
      by dsimp only; omega, nofun, hs, rfl, .inl rfl⟩

theorem receive_sound (h : u.Sound) (d : List UInt8) :
    (u.receive memory d).Sound ∧ (u.receive memory d).retained = u.retained ++ d ∧
      (u.receive memory d).messages = u.messages := by
  have hr := makeRoom_roomed memory h d.length
  unfold receive
  dsimp only
  generalize u.makeRoom memory d.length = v at hr
  obtain ⟨⟨ho, hfi, hw, -⟩, hro, hh, hs, msgs, -⟩ := hr
  obtain ⟨buf, hh⟩ := ne_none_iff_exists'.mp hh
  have full := hw buf hh
  have copied := slice_copyInto d ho (by omega : v.finish + d.length ≤ buf.length)
  refine ⟨⟨by dsimp only; omega, hro, ?_, by simp [hh]⟩, ?_, msgs⟩
  · simp only [hh, map_some]
    rintro _ ⟨⟩
    rw [length_copyInto (by omega), full]
  · simp only [Unpacker.retained, hh, map_some, getD_some] at hs ⊢
    rw [copied, hs]

theorem Sound.unpackSize_eq (hs : u.Sound) (hh : 20 ≤ u.finish - u.offset) :
    unpackSize (u.buffer.getD []) u.offset = some (wordValue ((u.retained.drop 16).take 4)) := by
  have hl := hs.length_retained
  have inside : u.offset + 20 ≤ (u.buffer.getD []).length := by
    simp only [retained, slice, length_take, length_drop] at hl
    omega
  rw [unpackSize, if_pos inside, retained, slice, slice, drop_take, take_take, drop_drop]
  congr 4
  omega

theorem turn_next (sound : u.Sound) (turned : u.turn limit = .next v) :
    ∃ found, unpack limit u.retained = .frame found v.retained ∧
      v.messages = u.messages ++ [Utf8.decode found] ∧ v.Sound := by
  obtain ⟨size, header, complete, short, rfl⟩ := turn_eq_next turned
  have length := sound.length_retained
  rw [sound.unpackSize_eq (by omega), some.injEq] at header
  have scanned := (unpack_of_size header (by omega)).trans (if_pos short)
  have found : (u.retained.drop 20).take size =
      slice (u.buffer.getD []) (u.offset + 20) (u.offset + 20 + size) := by
    rw [retained, slice, slice, drop_take, take_take, drop_drop]
    congr 1
    omega
  refine ⟨_, scanned.trans ?_, congrArg (u.messages ++ [Utf8.decode ·]) found.symm, ?_⟩
  · congr 1
    simp only [retained, slice, drop_take, drop_drop]
    split
    · rw [show u.finish - u.offset - (20 + size) = 0 by omega]
      simp
    · rw [Nat.add_assoc, Nat.sub_sub]
  · obtain ⟨ordered, fits, whole, unallocated⟩ := sound
    refine ⟨by dsimp only; split <;> omega, by dsimp only; split <;> omega, whole, ?_⟩
    intro absent
    have := unallocated absent
    omega

/-- Where the loop ends, the scanner finds no frame either. -/
theorem turn_stops (sound : u.Sound) (stopped : ∀ v, u.turn limit ≠ .next v) :
    unpack limit u.retained =
      match u.turn limit with
      | .throws => .fail ⟨⟩
      | _ => .wait u.retained := by
  have length := sound.length_retained
  unfold turn usbmuxdPacketHeaderLength at *
  unfold unpack usbmuxdPacketHeaderLength
  dsimp only at stopped ⊢
  rw [length]
  by_cases small : u.finish - u.offset < 20
  · rw [if_pos small, if_pos small]
  · rw [if_neg small, if_neg small]
    rw [if_neg small] at stopped
    rw [sound.unpackSize_eq (by omega)] at stopped ⊢
    dsimp only at stopped ⊢
    split
    next complete =>
      rw [if_pos complete] at stopped
      split
      next short =>
        rw [if_pos short] at stopped
        exact absurd rfl (stopped _)
      · rfl
    · rfl

/- Every moment of a stream -/

variable (limit)

/-- The states of the unpacker, also within `handleUnpackMessage`, with what was received so far. -/
inductive During : List UInt8 → Unpacker → Prop
  | start : During [] {}
  | roomed {received u} (size : Nat) : During received u → During received (u.makeRoom memory size)
  | received {received u} (data : List UInt8) : During received u →
      During (received ++ data) (u.receive memory data)
  | turned {received u v} : During received u → u.turn limit = .next v → During received v

variable {memory limit}
variable {rcv : List UInt8}

theorem During.unpackAll (h : During memory limit rcv u) :
    During memory limit rcv (u.unpackAll limit).1 := by
  fun_induction Unpacker.unpackAll limit u with
  | case1 | case2 => exact h
  | case3 u v turned _ ih => exact ih (h.turned turned)

theorem unpackAll_stops (limit : Nat) (u : Unpacker) :
    (∀ v, (u.unpackAll limit).1.turn limit ≠ .next v) ∧
      ((u.unpackAll limit).2 = true ↔ (u.unpackAll limit).1.turn limit = .throws) := by
  fun_induction unpackAll limit u with
  | case1 u stopped | case2 u stopped => simp [stopped]
  | case3 u v turned _ ih => exact ih

theorem During.foldl (h : During memory limit rcv u) (ended : Bool) (cks : List (List UInt8)) :
    During memory limit (rcv ++ cks.flatten) (cks.foldl (handleData memory limit) (u, ended)).1 := by
  induction cks generalizing rcv u ended with
  | nil => simpa using h
  | cons ck others ih =>
    rw [flatten_cons, ← append_assoc]
    exact ih (h.received ck).unpackAll _

theorem During.sound (h : During memory limit rcv u) : u.Sound := by
  induction h with
  | start => exact ⟨by simp, by simp, nofun, fun _ => ⟨rfl, rfl⟩⟩
  | roomed size _ ih => exact (makeRoom_roomed memory ih size).sound
  | received d _ ih => exact (receive_sound memory ih d).1
  | turned _ turned ih =>
    obtain ⟨-, -, -, sound⟩ := turn_next ih turned
    exact sound

end Unpacker

structure UsbFrame where
  header : List UInt8
  payload : List UInt8
  length_header : header.length = 16
  small : payload.length < 2 ^ 32

namespace UsbFrame

def bytes (f : UsbFrame) : List UInt8 := f.header ++ (word f.payload.length ++ f.payload)

def text (f : UsbFrame) : List Char := Utf8.decode f.payload

def Short (limit : Nat) (f : UsbFrame) : Prop := f.payload.length ≤ limit

instance (limit : Nat) : DecidablePred (Short limit) := fun f =>
  inferInstanceAs (Decidable (f.payload.length ≤ limit))

theorem unpack_bytes (limit : Nat) (f : UsbFrame) (rest : List UInt8) :
    unpack limit (f.bytes ++ rest) =
      if f.Short limit then .frame f.payload rest else .fail ⟨⟩ := by
  have split : f.bytes ++ rest = f.header ++ (word f.payload.length ++ (f.payload ++ rest)) := by
    simp [bytes]
  have length : (f.header ++ word f.payload.length).length = 20 := by
    rw [length_append, f.length_header, length_word]
  have size : wordValue (((f.bytes ++ rest).drop 16).take 4) = f.payload.length := by
    rw [split, drop_left' f.length_header, take_left' (length_word _), wordValue_word f.small]
  have content : (f.bytes ++ rest).drop 20 = f.payload ++ rest := by
    rw [split, ← append_assoc, drop_left' length]
  rw [unpack_of_size size (by rw [split]; simp [f.length_header]; omega), ← drop_drop, content,
    take_left' rfl, drop_left' rfl]
  rfl

end UsbFrame

namespace Unpacker
variable {memory : Allocation} {u : Unpacker}

/-- The first `n` frames were handed on, and the rest of what was received is retained. -/
structure HandedOn (limit : Nat) (frames : List UsbFrame) (received : List UInt8) (u : Unpacker)
    (n : Nat) : Prop where
  messages : u.messages = (frames.take n).map UsbFrame.text
  received : received = (frames.take n).flatMap UsbFrame.bytes ++ u.retained
  short : ∀ f ∈ frames.take n, f.Short limit

variable {limit : Nat} {frames : List UsbFrame} {received later : List UInt8} {n : Nat}

/-- What was not handed on begins with the next frame. -/
theorem HandedOn.remaining (h : HandedOn limit frames received u n)
    (stream : received ++ later = frames.flatMap UsbFrame.bytes) :
    u.retained ++ later = (frames.drop n).flatMap UsbFrame.bytes := by
  rw [h.received, append_assoc] at stream
  nth_rewrite 2 [← take_append_drop n frames] at stream
  rw [flatMap_append] at stream
  exact append_cancel_left stream

theorem During.handedOn (h : During memory limit received u)
    (stream : received ++ later = frames.flatMap UsbFrame.bytes) :
    ∃ n, HandedOn limit frames received u n := by
  induction h generalizing later with
  | start => exact ⟨0, rfl, rfl, by simp⟩
  | roomed size during ih =>
    obtain ⟨n, messages, received, short⟩ := ih stream
    have roomed := makeRoom_roomed memory during.sound size
    exact ⟨n, roomed.messages.trans messages, by rw [roomed.retained, ← received], short⟩
  | received data during ih =>
    rw [append_assoc] at stream
    obtain ⟨n, messages, received, short⟩ := ih stream
    obtain ⟨-, retained, same⟩ := receive_sound memory during.sound data
    exact ⟨n, same.trans messages, by rw [retained, ← append_assoc, ← received], short⟩
  | @turned received u v during turned ih =>
    obtain ⟨n, handed⟩ := ih stream
    obtain ⟨found, scanned, heard, -⟩ := turn_next during.sound turned
    have scanned := (usbFraming limit).frame_append scanned later
    have remaining := handed.remaining stream
    cases rest : frames.drop n with
    | nil =>
      rw [remaining, rest] at scanned
      cases scanned
    | cons f others =>
      rw [remaining, rest, flatMap_cons] at scanned
      have scanned := (f.unpack_bytes limit _).symm.trans scanned
      split at scanned
      next fits =>
        injection scanned with payload left
        have front : u.retained = f.bytes ++ v.retained := by
          rw [rest, flatMap_cons, left, ← append_assoc] at remaining
          exact append_cancel_right remaining
        have next : frames.take (n + 1) = frames.take n ++ [f] := by
          rw [take_add, rest, take_succ_cons, take_zero]
        refine ⟨n + 1, ?_, ?_, ?_⟩
        · rw [heard, handed.messages, next, map_append, ← payload]
          rfl
        · rw [handed.received, next, flatMap_append, append_assoc, front]
          simp
        · rw [next]
          exact forall_mem_append.mpr ⟨handed.short, by simpa using fits⟩
      · cases scanned

/-- Where the loop stops at the end of a stream, all frames were handed on, or the next one is too
long. -/
theorem HandedOn.stopped (handed : HandedOn limit frames (frames.flatMap UsbFrame.bytes) u n)
    (sound : u.Sound) (stopped : ∀ v, u.turn limit ≠ .next v) :
    u.messages = (frames.takeWhile (·.Short limit)).map UsbFrame.text ∧
      (u.turn limit = .throws ↔ ∃ f ∈ frames, ¬ f.Short limit) := by
  have remaining := handed.remaining (append_nil _)
  rw [append_nil] at remaining
  have scanned := turn_stops sound stopped
  have front : frames.takeWhile (·.Short limit) =
      frames.take n ++ (frames.drop n).takeWhile (·.Short limit) := by
    nth_rewrite 1 [← take_append_drop n frames]
    exact takeWhile_append_of_pos fun f member => decide_eq_true (handed.short f member)
  cases rest : frames.drop n with
  | nil =>
    have all := take_of_length_le (drop_eq_nil_iff.mp rest)
    rw [remaining, rest] at scanned
    refine ⟨by rw [handed.messages, front, rest, takeWhile_nil, append_nil], iff_of_false ?_ ?_⟩
    · intro threw
      rw [threw] at scanned
      cases scanned
    · rintro ⟨f, member, long⟩
      exact long (handed.short f (by rwa [all]))
  | cons f others =>
    rw [remaining, rest, flatMap_cons] at scanned
    have scanned := (f.unpack_bytes limit _).symm.trans scanned
    have found : f ∈ frames := mem_of_mem_drop (rest ▸ mem_cons_self)
    cases turned : u.turn limit with
    | next v => exact absurd turned (stopped v)
    | breaks =>
      rw [turned] at scanned
      split at scanned <;> cases scanned
    | throws =>
      rw [turned] at scanned
      split at scanned
      · cases scanned
      next long =>
        refine ⟨?_, iff_of_true rfl ⟨f, found, long⟩⟩
        rw [handed.messages, front, rest, takeWhile_cons, if_neg (by simpa using long), append_nil]

/-- An exception in the middle of a stream is one for a frame that is too long. -/
theorem During.long_of_throws (h : During memory limit received u)
    (stream : received ++ later = frames.flatMap UsbFrame.bytes) (threw : u.turn limit = .throws) :
    ∃ f ∈ frames, ¬ f.Short limit := by
  obtain ⟨n, handed⟩ := h.handedOn stream
  have stopped : ∀ v, u.turn limit ≠ .next v := by simp [threw]
  have scanned := turn_stops h.sound stopped
  rw [threw] at scanned
  have scanned := (usbFraming limit).fail_append scanned later
  rw [handed.remaining stream] at scanned
  cases rest : frames.drop n with
  | nil =>
    rw [rest] at scanned
    cases scanned
  | cons f others =>
    rw [rest, flatMap_cons] at scanned
    refine ⟨f, mem_of_mem_drop (rest ▸ mem_cons_self), fun short => ?_⟩
    cases ((f.unpack_bytes limit _).trans (if_pos short)).symm.trans scanned

theorem ended_long (chunks : List (List UInt8))
    (stream : chunks.flatten ++ later = frames.flatMap UsbFrame.bytes)
    (ended : (chunks.foldl (handleData memory limit) ({}, false)).2 = true) :
    ∃ f ∈ frames, ¬ f.Short limit := by
  induction chunks using reverseRecOn generalizing later with
  | nil => cases ended
  | append_singleton front last ih =>
    rw [foldl_append, foldl_cons, foldl_nil, handleData, Bool.or_eq_true] at ended
    rw [flatten_append, append_assoc] at stream
    rcases ended with before | threw
    · exact ih stream before
    · have during : During memory limit front.flatten
          (front.foldl (handleData memory limit) ({}, false)).1 := During.start.foldl false front
      rw [← append_assoc] at stream
      refine (during.received last).unpackAll.long_of_throws (by simpa using stream) ?_
      exact (unpackAll_stops limit _).2.mp threw

theorem decoded_of_stream (memory : Allocation) (limit : Nat) (frames : List UsbFrame)
    (chunks : List (List UInt8)) (stream : chunks.flatten = frames.flatMap UsbFrame.bytes) :
    (chunks.foldl (handleData memory limit) ({}, false)).1.messages =
        (frames.takeWhile (·.Short limit)).map UsbFrame.text ∧
      ((chunks.foldl (handleData memory limit) ({}, false)).2 = true ↔
        ∃ f ∈ frames, ¬ f.Short limit) := by
  have during : During memory limit chunks.flatten
      (chunks.foldl (handleData memory limit) ({}, false)).1 := During.start.foldl false chunks
  have whole : chunks.flatten ++ [] = frames.flatMap UsbFrame.bytes := by rw [append_nil, stream]
  obtain ⟨n, handed⟩ := during.handedOn whole
  -- the loop has stopped after the last chunk
  have ending : (∀ v, (chunks.foldl (handleData memory limit) ({}, false)).1.turn limit ≠ .next v) ∧
      ((chunks.foldl (handleData memory limit) ({}, false)).1.turn limit = .throws →
        (chunks.foldl (handleData memory limit) ({}, false)).2 = true) := by
    cases chunks using reverseRecOn with
    | nil => exact ⟨nofun, nofun⟩
    | append_singleton front last =>
      rw [foldl_append, foldl_cons, foldl_nil, handleData]
      refine ⟨(unpackAll_stops limit _).1, fun threw => ?_⟩
      rw [Bool.or_eq_true]
      exact .inr ((unpackAll_stops limit _).2.mpr threw)
  obtain ⟨messages, throws⟩ := (stream ▸ handed).stopped during.sound ending.1
  exact ⟨messages, ended_long chunks whole, fun long => ending.2 (throws.mpr long)⟩

/-- However a stream of frames is cut into chunks, the payloads before the first that is too long for
a string are handed on once each and in order, and the client is ended exactly if there is such a
payload. At every moment the indices are in order, what is retained is what was received without the
frames handed on, and a buffer that grows stays below twice what is needed. -/
theorem usb_stream_decoded (memory : Allocation) (limit : Nat) (frames : List UsbFrame)
    (chunks : List (List UInt8)) (stream : chunks.flatten = frames.flatMap UsbFrame.bytes) :
    ((chunks.foldl (handleData memory limit) ({}, false)).1.messages =
        (frames.takeWhile (·.Short limit)).map UsbFrame.text ∧
      ((chunks.foldl (handleData memory limit) ({}, false)).2 = true ↔
        ∃ f ∈ frames, ¬ f.Short limit)) ∧
      (∀ k, During memory limit (chunks.take k).flatten
        ((chunks.take k).foldl (handleData memory limit) ({}, false)).1) ∧
      ∀ received later u, During memory limit received u →
        received ++ later = frames.flatMap UsbFrame.bytes →
        u.Sound ∧ (∃ n, HandedOn limit frames received u n) ∧
          ∀ data, (u.receive memory data).bufferCapacity = u.bufferCapacity ∨
            ∃ turns, (u.receive memory data).bufferCapacity = u.bufferCapacity * 2 * 2 ^ turns ∧
              u.retained.length + data.length ≤ (u.receive memory data).bufferCapacity ∧
              (u.receive memory data).bufferCapacity < 2 * (u.retained.length + data.length) := by
  refine ⟨decoded_of_stream memory limit frames chunks stream,
    fun k => During.start.foldl false (chunks.take k), ?_⟩
  intro received later u during stream
  exact ⟨during.sound, during.handedOn stream,
    fun data => (makeRoom_roomed memory during.sound data.length).growth⟩

theorem split_frame_decoded : ([replicate 16 0 ++ [0, 0], [0, 2, 0x68], [0x69]].foldl
      (handleData ⟨fun n => replicate n 0, fun n => by simp⟩ 100) ({}, false)).1.messages =
      [['h', 'i']] := by
  have decoded := (usb_stream_decoded ⟨fun n => replicate n 0, fun n => by simp⟩ 100
    [⟨replicate 16 0, [0x68, 0x69], by simp, by decide⟩]
    [replicate 16 0 ++ [0, 0], [0, 2, 0x68], [0x69]] (by decide)).1.1
  exact decoded.trans (by decide)

/-- One byte more than the longest string has. -/
theorem long_payload_lost : ∃ f : UsbFrame, f.payload.length = 536870889 ∧
    ([f.bytes].foldl (handleData ⟨fun n => replicate n 0, fun n => by simp⟩ 536870888)
      ({}, false)).1.messages = [] ∧
    ([f.bytes].foldl (handleData ⟨fun n => replicate n 0, fun n => by simp⟩ 536870888)
      ({}, false)).2 = true := by
  have length : (replicate 536870889 (0x20 : UInt8)).length = 536870889 := length_replicate
  generalize replicate 536870889 (0x20 : UInt8) = payload at length
  let f : UsbFrame := ⟨replicate 16 0, payload, by simp, by rw [length]; decide⟩
  have long : ¬ f.Short 536870888 := by
    show ¬ payload.length ≤ 536870888
    omega
  obtain ⟨messages, ended⟩ := decoded_of_stream ⟨fun n => replicate n 0, fun n => by simp⟩
    536870888 [f] [f.bytes] (by simp)
  refine ⟨f, length, ?_, ended.mpr ⟨f, mem_singleton_self f, long⟩⟩
  rw [messages, takeWhile_cons, if_neg (by simpa using long)]
  rfl

end Unpacker

end DebugRouter.Transport
