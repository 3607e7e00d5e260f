import DebugRouter.Transport.UsbAgreement

/-!
The threads of a `UsbClient`: the reader with its `recv` calls, the dispatcher that empties the
queue of what was read, and the writer with its `send` calls. Each queue is ended by the text
`quit`, which is a message like any other to the peers.
-/
namespace DebugRouter.Transport.Native

open Library List Option
open DebugRouter.Native (JsonCpp jsonText)

/- The reader -/

/-- `Read` over what its `recv` calls find: nothing until the timeout, or bytes, of which those not
asked for stay. At the end the peer has closed. -/
def readArrivals : Nat → List (List UInt8) → Option (List UInt8 × List (List UInt8))
  | 0, arrivals => some ([], arrivals)
  | _ + 1, [] => none
  | size + 1, chunk :: later =>
    if size + 1 < chunk.length then some (chunk.take (size + 1), chunk.drop (size + 1) :: later)
    else (readArrivals (size + 1 - chunk.length) later).map fun r => (chunk ++ r.1, r.2)

theorem readArrivals_eq (size : Nat) (arrivals : List (List UInt8)) :
    (readArrivals size arrivals).map (fun r => (r.1, r.2.flatten)) =
      read size arrivals.flatten := by
  induction arrivals generalizing size with
  | nil => cases size <;> simp [readArrivals, read]
  | cons chunk later ih =>
    cases size with
    | zero => simp [readArrivals, read]
    | succ size =>
      rw [readArrivals, flatten_cons]
      split
      next long =>
        rw [read, if_pos (by simp; omega), take_append_of_le_length (by omega),
          drop_append_of_le_length (by omega)]
        rfl
      next short =>
        have tail := ih (size + 1 - chunk.length)
        unfold read at tail ⊢
        rw [length_append]
        split at tail
        · obtain ⟨⟨bytes, rest⟩, found, same⟩ := map_eq_some_iff.mp tail
          obtain ⟨rfl, left⟩ := Prod.mk.injEq .. ▸ same
          rw [if_pos (by omega), found, take_append, drop_append,
            take_of_length_le (show chunk.length ≤ size + 1 by omega),
            drop_of_length_le (show chunk.length ≤ size + 1 by omega), ← left]
          rfl
        · rw [if_neg (by omega), map_eq_none_iff.mp tail]
          rfl

def kMessageQuit : List UInt8 := [0x71, 0x75, 0x69, 0x74]

def messageDispatcher : List (List UInt8) → List (List UInt8)
  | [] => []
  | message :: queue =>
    if message = kMessageQuit then []
    else if message.length > 0 then message :: messageDispatcher queue
    else messageDispatcher queue

theorem quit_not_dispatched (queue : List (List UInt8)) :
    kMessageQuit ∉ messageDispatcher queue := by
  induction queue with
  | nil => simp [messageDispatcher]
  | cons message queue ih =>
    unfold messageDispatcher
    split
    · simp
    next other =>
      split
      · simp [Ne.symm other, ih]
      · exact ih

theorem messageDispatcher_append {messages : List (List UInt8)} (h : kMessageQuit ∉ messages)
    (queue : List (List UInt8)) :
    messageDispatcher (messages ++ queue) =
      messages.filter (· ≠ []) ++ messageDispatcher queue := by
  induction messages with
  | nil => rfl
  | cons message messages ih =>
    obtain ⟨other, h⟩ := ne_and_not_mem_of_not_mem_cons h
    rw [cons_append, messageDispatcher, if_neg (Ne.symm other), ih h, filter_cons]
    cases message <;> simp

/-- The queue while the reader waits for more, or once it has ended after the peer has closed. -/
def incomingQueue (closed : Bool) (e : ReadEnd) : List (List UInt8) :=
  e.incoming ++ if closed && e.close.isSome then [kMessageQuit, kMessageQuit] else []

variable {cpp : JsonCpp} {filter : List UInt8 → Except String Bool}
variable {errno : Int} {payloads : List (List UInt8)}

theorem filter_takeWhile_eq_iff {α : Type} (p q : α → Bool) (l : List α) :
    (l.takeWhile p).filter q = l.filter q ↔ ∀ x ∈ l.dropWhile p, q x = false := by
  have split : l.filter q = (l.takeWhile p).filter q ++ (l.dropWhile p).filter q := by
    rw [← filter_append, takeWhile_append_dropWhile]
  rw [split, self_eq_append_right, filter_eq_nil_iff]
  simp

theorem dispatched_kept (closed : Bool) {e : ReadEnd} (read : e.incoming = kept cpp filter payloads)
    (h : kMessageQuit ∉ payloads.filter (passes filter)) :
    messageDispatcher (incomingQueue closed e) =
      (payloads.takeWhile (returns cpp filter)).filter fun p => p ≠ [] && passes filter p := by
  have silent : messageDispatcher
      (if closed && e.close.isSome then [kMessageQuit, kMessageQuit] else []) = [] := by
    split <;> rfl
  rw [incomingQueue, read, messageDispatcher_append, silent, List.append_nil, kept,
    List.filter_filter]
  have part : payloads.takeWhile (returns cpp filter) <+: payloads := takeWhile_prefix _
  exact fun member => h ((part.sublist.filter _).subset member)

/-- `Read` only adds up what its `recv` calls find, so the reader sees the bytes of the stream. The
payloads reach the listener exactly if none of those that pass the filter is `quit`, and at no
payload before them is an exception thrown. -/
theorem payloads_delivered_iff (cpp : JsonCpp)
    (filter : List UInt8 → Except String Bool) (errno : Int) (payloads : List (List UInt8))
    (small : ∀ payload ∈ payloads, payload.length < 2 ^ 32) (arrivals : List (List UInt8))
    (split : arrivals.flatten = payloads.flatMap pack) (closed : Bool) :
    (∀ size later, (readArrivals size later).map (fun r => (r.1, r.2.flatten)) =
      read size later.flatten) ∧
    (messageDispatcher
          (incomingQueue closed (readMessage cpp filter .closed errno true arrivals.flatten)) =
        payloads.filter (fun payload => payload ≠ [] && passes filter payload) ↔
      kMessageQuit ∉ payloads.filter (passes filter) ∧
        ∀ payload ∈ payloads.dropWhile (returns cpp filter),
          (payload ≠ [] && passes filter payload) = false) := by
  refine ⟨readArrivals_eq, ?_⟩
  rw [split]
  by_cases quits : kMessageQuit ∈ payloads.filter (passes filter)
  · refine iff_of_false (fun same => ?_) fun h => h.1 quits
    apply quit_not_dispatched
    rw [same]
    obtain ⟨member, passed⟩ := mem_filter.mp quits
    exact mem_filter.mpr ⟨member, by rw [passed]; rfl⟩
  · rw [dispatched_kept closed (readMessage_packs payloads true small) quits,
      filter_takeWhile_eq_iff]
    exact (and_iff_right quits).symm

theorem split_payload_delivered : messageDispatcher (incomingQueue true
      (readMessage jsonText (fun _ => .ok false) .closed 0 true
        [[], (pack [0x7B, 0x7D]).take 3, [], (pack [0x7B, 0x7D]).drop 3].flatten)) =
      [[0x7B, 0x7D]] := by
  refine (payloads_delivered_iff jsonText (fun _ => .ok false) 0 [[0x7B, 0x7D]]
    (by simp) _ (by decide) true).2.mpr ⟨by decide, ?_⟩
  rw [dropWhile_cons, if_pos (returns_jsonText _)]
  nofun

/-- The frames of `quit` and `{}`: neither reaches the listener. -/
theorem quit_payload_lost : messageDispatcher (incomingQueue true
      (readMessage jsonText (fun _ => .ok false) .closed 0 true
        ([kMessageQuit, [0x7B, 0x7D]].flatMap pack))) = [] := by
  have all : kept jsonText (fun _ => .ok false) [kMessageQuit, [0x7B, 0x7D]] =
      [kMessageQuit, [0x7B, 0x7D]] :=
    (kept_eq_iff _).mpr fun payload _ => ⟨returns_jsonText payload, rfl⟩
  rw [incomingQueue, readMessage_packs _ true (by decide), all]
  rfl

/- Frames that are dropped -/

abbrev Sized := Nat × List UInt8

def streamOf (frames : List Sized) : List UInt8 := frames.flatMap fun f => framed f.1 f.2

def shape (f : Sized) : Nat × Nat := (f.1, f.2.length)

/-- The word is the one that `CheckHeaderFourthByte` compares, in 32 bits. -/
def fits (s : Nat × Nat) : Bool := s.1 % 2 ^ 32 = (s.2 + 4) % 2 ^ 32

def rightPayloads (frames : List Sized) : List (List UInt8) :=
  (frames.filter (fits <| shape ·)).map Prod.snd

/-- What is read of a stream of frames, without a protocol error. -/
def Reads (cpp : JsonCpp) (filter : List UInt8 → Except String Bool)
    (ending : Ending) (errno : Int) (isFirst : Bool) (stream : List UInt8)
    (payloads : List (List UInt8)) : Prop :=
  let e := readMessage cpp filter ending errno isFirst stream
  e.incoming = payloads ∧ e.failure ≠ (protocolMismatch false errno).failure

/-- Of the frames only those with a wrong fourth word are lost, and no protocol error is reported. -/
def DropsOnly (cpp : JsonCpp) (filter : List UInt8 → Except String Bool)
    (ending : Ending) (errno : Int) (frames : List Sized) : Prop :=
  Reads cpp filter ending errno true (streamOf frames)
    ((rightPayloads frames).filter (passes filter))

/-- A frame that is dropped is empty, or it is the last one and shorter than a header. -/
def Spared : List (Nat × Nat) → Prop
  | [] => True
  | s :: later => (fits s ∨ s.2 = 0 ∨ later = [] ∧ s.2 < kFrameHeaderLen) ∧ Spared later

variable {ending : Ending} {fst : Bool} {f : Sized} {frames : List Sized}

theorem fits_shape : fits (shape f) = true ↔ f.1 % 2 ^ 32 = (f.2.length + 4) % 2 ^ 32 :=
  decide_eq_true_iff

theorem reads_short {stream : List UInt8} (h : stream.length < kFrameHeaderLen) :
    Reads cpp filter ending errno fst stream [] := by
  have ended : readMessage cpp filter ending errno fst stream = endRead fst (!fst)
      "ReadMessage finished after socket error" "ReadMessage header read socket error" ending := by
    rw [readMessage]
    split
    · rfl
    next found =>
      rw [read, if_neg (by omega)] at found
      cases found
  rw [Reads, ended]
  refine ⟨incoming_endRead _ _ _ _, ?_⟩
  cases ending <;> cases fst <;> simp [endRead, protocolMismatch]

theorem reads_cons_of_fits (small : f.2.length < 2 ^ 32) (right : fits (shape f) = true)
    (returned : returns cpp filter f.2 = true) :
    Reads cpp filter ending errno fst (streamOf (f :: frames))
        (kept cpp filter (rightPayloads (f :: frames))) ↔
      Reads cpp filter ending errno false (streamOf frames)
        (kept cpp filter (rightPayloads frames)) := by
  simp only [Reads, streamOf, flatMap_cons, readMessage_framed fst small,
    if_pos (fits_shape.mp right), rightPayloads, filter_cons_of_pos (p := (fits <| shape ·)) right,
    map_cons, kept, takeWhile_cons, if_pos returned, inspect_of_returns returned]
  cases passed : passes filter f.2 with
  | false => rw [filter_cons_of_neg (by simp [passed])]; rfl
  | true =>
    rw [filter_cons_of_pos passed]
    simp [ReadEnd.receive]

theorem reads_cons_of_throws (small : f.2.length < 2 ^ 32) (right : fits (shape f) = true)
    (threw : ¬ returns cpp filter f.2 = true) :
    Reads cpp filter ending errno fst (streamOf (f :: frames))
      (kept cpp filter (rightPayloads (f :: frames))) := by
  obtain ⟨what, thrown⟩ := inspect_of_not_returns threw
  simp only [Reads, streamOf, flatMap_cons, readMessage_framed fst small,
    if_pos (fits_shape.mp right), rightPayloads, filter_cons_of_pos (p := (fits <| shape ·)) right,
    map_cons, kept, takeWhile_cons, if_neg threw, thrown]
  exact ⟨rfl, nofun⟩

theorem reads_cons_of_wrong (small : f.2.length < 2 ^ 32) (wrong : ¬ fits (shape f) = true) :
    Reads cpp filter ending errno fst (streamOf (f :: frames))
        (kept cpp filter (rightPayloads (f :: frames))) ↔
      Reads cpp filter ending errno false (f.2 ++ streamOf frames)
        (kept cpp filter (rightPayloads frames)) := by
  simp only [Reads, streamOf, flatMap_cons, readMessage_framed fst small,
    if_neg (mt fits_shape.mpr wrong), rightPayloads,
    filter_cons_of_neg (p := (fits <| shape ·)) wrong]

variable {later : List UInt8} {size : Nat}

theorem not_header (h : kFrameHeaderLen ≤ later.length + 1) :
    ¬ checkHeaderThreeBytes ((0xFF :: later).take kFrameHeaderLen) = true := by
  unfold kFrameHeaderLen at *
  match later, h with
  | a :: b :: c :: tail, _ =>
    intro hr
    simp only [checkHeaderThreeBytes, Bool.and_eq_true, decide_eq_true_eq] at hr
    have first := hr.1.1
    simp only [wordValue, take_succ_cons, take_zero, foldl_cons, foldl_nil,
      UInt8.reduceToNat] at first
    omega

theorem mismatch_of_wrong {payload : List UInt8} {total : Nat} (first : payload.head? = some 0xFF)
    (wrong : ¬ fits (total, payload.length) = true) (small : payload.length < 2 ^ 32)
    (long : kFrameHeaderLen ≤ payload.length + later.length) :
    (readMessage cpp filter ending errno fst (framed total payload ++ later)).failure =
      (protocolMismatch false errno).failure := by
  obtain ⟨more, rfl⟩ := head?_eq_some_iff.mp first
  rw [readMessage_framed fst small, if_neg fun same => wrong (decide_eq_true same),
    cons_append, readMessage]
  have headerRead : read kFrameHeaderLen (0xFF :: (more ++ later)) =
      some ((0xFF :: (more ++ later)).take kFrameHeaderLen,
        (0xFF :: (more ++ later)).drop kFrameHeaderLen) :=
    if_pos (by simpa [Nat.add_right_comm] using long)
  split
  next found =>
    rw [headerRead] at found
    cases found
  next found =>
    rw [headerRead] at found
    cases found
    rw [if_neg (not_header (by simpa [Nat.add_right_comm] using long))]

def filled (s : Nat × Nat) : Sized := (s.1, replicate s.2 0xFF)

theorem shape_filled (s : Nat × Nat) : shape (filled s) = s := by
  rw [shape, filled, length_replicate]

theorem reads_of_spared (fst : Bool) (frames : List Sized)
    (small : ∀ f ∈ frames, f.2.length < 2 ^ 32) (spared : Spared (frames.map shape)) :
    Reads cpp filter ending errno fst (streamOf frames)
      (kept cpp filter (rightPayloads frames)) := by
  induction frames generalizing fst with
  | nil => exact reads_short (by decide)
  | cons f frames ih =>
    obtain ⟨first, later⟩ := forall_mem_cons.mp small
    obtain ⟨head, tail⟩ := spared
    by_cases right : fits (shape f) = true
    · by_cases returned : returns cpp filter f.2 = true
      · exact (reads_cons_of_fits first right returned).mpr (ih false later tail)
      · exact reads_cons_of_throws first right returned
    · rw [reads_cons_of_wrong first right]
      rcases head with fitting | empty | ⟨last, short⟩
      · exact absurd fitting right
      · rw [length_eq_zero_iff.mp empty, nil_append]
        exact ih false later tail
      · rw [map_eq_nil_iff.mp last, streamOf, flatMap_nil, append_nil]
        exact reads_short short

theorem spared_of_reads (fst : Bool) (sizes : List (Nat × Nat)) (small : ∀ s ∈ sizes, s.2 < 2 ^ 32)
    (plain : ∀ size, returns cpp filter (replicate size 0xFF) = true)
    (h : Reads cpp filter ending errno fst (streamOf (sizes.map filled))
      (kept cpp filter (rightPayloads (sizes.map filled)))) : Spared sizes := by
  induction sizes generalizing fst with
  | nil => trivial
  | cons s later ih =>
    obtain ⟨first, others⟩ := forall_mem_cons.mp small
    have length : (filled s).2.length = s.2 := length_replicate
    by_cases right : fits s = true
    · refine ⟨.inl right, ih false others ?_⟩
      exact (reads_cons_of_fits (by rwa [length]) (by rwa [shape_filled]) (plain s.2)).mp h
    by_cases empty : s.2 = 0
    · refine ⟨.inr (.inl empty), ih false others ?_⟩
      rw [map_cons, reads_cons_of_wrong (by rwa [length]) (by rwa [shape_filled])] at h
      simpa [filled, empty] using h
    by_cases last : later = [] ∧ s.2 < kFrameHeaderLen
    · exact ⟨.inr (.inr last), last.1 ▸ trivial⟩
    -- the bytes of the dropped frame are taken for a header, which they are not
    refine absurd ?_ h.2
    rw [map_cons, streamOf, flatMap_cons]
    refine mismatch_of_wrong ?_ (by rwa [length]) (by rwa [length]) ?_
    · rw [filled, head?_replicate, if_neg empty]
    · rw [length]
      cases later with
      | nil => exact Nat.le_of_not_lt fun short => last ⟨rfl, short⟩
      | cons t others =>
        rw [map_cons, flatMap_cons, length_append, length_framed, kFrameHeaderLen]
        omega

theorem dropsOnly_iff_of_reads (h : Reads cpp filter ending errno true (streamOf frames)
      (kept cpp filter (rightPayloads frames))) :
    DropsOnly cpp filter ending errno frames ↔
      ∀ payload ∈ (rightPayloads frames).dropWhile (returns cpp filter),
        passes filter payload = false := by
  rw [← filter_takeWhile_eq_iff, DropsOnly, Reads, h.1]
  exact and_iff_left h.2

/-- The sizes and fourth words of frames for which only those with a wrong fourth word are lost,
whatever is in them: exactly until an exception is thrown at one of the others. An exception is not
thrown at bytes that are no text. -/
theorem dropped_frames_spare_iff (cpp : JsonCpp)
    (filter : List UInt8 → Except String Bool) (ending : Ending) (errno : Int)
    (plain : ∀ size, returns cpp filter (replicate size 0xFF) = true)
    (sizes : List (Nat × Nat)) (small : ∀ s ∈ sizes, s.2 < 2 ^ 32) :
    (∀ frames, frames.map shape = sizes →
      (DropsOnly cpp filter ending errno frames ↔
        ∀ payload ∈ (rightPayloads frames).dropWhile (returns cpp filter),
          passes filter payload = false)) ↔ Spared sizes := by
  constructor
  · intro all
    have returned : ∀ payload ∈ rightPayloads (sizes.map filled),
        returns cpp filter payload = true := by
      intro payload member
      obtain ⟨f, found, rfl⟩ := mem_map.mp member
      obtain ⟨s, -, rfl⟩ := mem_map.mp (mem_filter.mp found).1
      exact plain s.2
    have whole := takeWhile_eq_self_iff.mpr returned
    have drops := (all (sizes.map filled) (by simp [Function.comp_def, shape_filled])).mpr
      (by simp [dropWhile_eq_nil_iff.mpr returned])
    rw [DropsOnly, ← whole] at drops
    exact spared_of_reads true sizes small plain drops
  · rintro spared frames rfl
    refine dropsOnly_iff_of_reads (reads_of_spared true frames ?_ spared)
    exact fun f member => small (shape f) (mem_map_of_mem member)

theorem empty_frame_spares : DropsOnly jsonText (fun _ => .ok false) .closed 0
    [(7, []), (6, [0x7B, 0x7D])] := by
  have spared := (dropped_frames_spare_iff jsonText (fun _ => .ok false) .closed 0
    (fun size => returns_jsonText _) [(7, 0), (6, 2)] (by simp)).mpr
    ⟨.inr (.inl rfl), .inl rfl, trivial⟩
  refine (spared _ rfl).mpr ?_
  rw [dropWhile_eq_nil_iff.mpr fun payload _ => returns_jsonText payload]
  nofun

/-- The frame of `{}` comes after one with a wrong fourth word and 16 bytes that are no header. -/
theorem dropped_frame_ends_reading :
    (readMessage jsonText (fun _ => .ok false) .closed 5 true
      (streamOf [(0, replicate 16 0xFF), (6, [0x7B, 0x7D])])).failure =
      some (5, "ReadAndCheckMessageHeader error: don't match DebugRouter protocol") :=
  mismatch_of_wrong rfl (by decide) (by decide) (by decide)

/- The writer -/

def kMaxMessageLength : Nat := 2 ^ 32

def accepts (size : Nat) : Bool := !(size > kMaxMessageLength - kFrameHeaderLen - kPayloadSizeLen)

/-- `total_size` of `WrapHeader`, computed as a `size_t` and cast. -/
def totalSize (size : Nat) : Nat := (kFrameHeaderLen + kPayloadSizeLen + size) % 2 ^ 64 % 2 ^ 32

def lengthWord (size : Nat) : Nat := size % 2 ^ 32

theorem le_of_accepts (h : accepts size = true) : size ≤ 2 ^ 32 - 20 := by
  simpa [accepts, kMaxMessageLength, kFrameHeaderLen, kPayloadSizeLen] using h

theorem le_totalSize_iff (h : accepts size = true) :
    20 + size ≤ totalSize size ↔ size ≠ 2 ^ 32 - 20 := by
  have bound := le_of_accepts h
  simp only [totalSize, kFrameHeaderLen, kPayloadSizeLen]
  omega

theorem framing_exact_iff (size : Nat) (accepted : accepts size = true) :
    (totalSize size = 20 + size ∧ lengthWord size = size ∧ 20 + size ≤ totalSize size) ↔
      size ≠ 2 ^ 32 - 20 := by
  have bound := le_of_accepts accepted
  rw [← le_totalSize_iff accepted]
  simp only [totalSize, lengthWord, kFrameHeaderLen, kPayloadSizeLen]
  omega

theorem framing_exact_of_small : accepts 2 = true ∧ totalSize 2 = 22 :=
  ⟨by decide, ((framing_exact_iff 2 (by decide)).mpr (by decide)).1⟩

theorem largest_message_wraps : accepts (2 ^ 32 - 20) = true ∧ totalSize (2 ^ 32 - 20) = 0 := by
  decide

/-- What `WriteMessage` does before it sends: it parses a message for its log level, unless one of two
names stands in it, and the parse may throw. -/
def logs (cpp : JsonCpp) (message : List UInt8) : Bool :=
  Utf8.encode "Page.screencastFrame".toList <:+: message ||
    Utf8.encode "Lynx.screenshotCapture".toList <:+: message ||
    (getVerboseMessageLogLevel cpp message).isOk

/-- What `WriteMessage` writes of its queue. A `send` fails, or takes at least one of the bytes given
to it. There is no result where `WrapHeader` copies more than its buffer holds; an exception ends the
thread. -/
def writeMessage (cpp : JsonCpp) :
    (Nat → Option Nat) → List (List UInt8) → Option (List UInt8)
  | _, [] => some []
  | send, message :: queue =>
    if message = kMessageQuit then some []
    else if message.length > 0 then
      if logs cpp message then
        if 20 + message.length ≤ totalSize message.length then
          match send 0 with
          | none => some []
          | some taken => (writeMessage cpp (fun i => send (i + 1)) queue).map
            ((wrapHeader message).take (taken + 1) ++ ·)
        else none
      else some []
    else writeMessage cpp send queue

/-- `Stop` puts its `quit` behind the messages that are there. -/
def outgoingQueue (messages : List (List UInt8)) : Option Nat → List (List UInt8)
  | none => messages
  | some n => messages.take n ++ kMessageQuit :: messages.drop n

/-- What is written is a part of the frames from their start on, and all if nothing fails. -/
def WritesFrames (cpp : JsonCpp) (send : Nat → Option Nat) (stop : Option Nat)
    (messages : List (List UInt8)) : Prop :=
  ∃ written, writeMessage cpp send (outgoingQueue messages stop) = some written ∧
    written <+: messages.flatMap wrapHeader ∧
    ((∀ i, send i ≠ none) → stop = none → written = messages.flatMap wrapHeader)

/-- The message is not `quit`, its parse does not throw, and `WrapHeader` has room for its frame. -/
def Plain (cpp : JsonCpp) (message : List UInt8) : Prop :=
  message ≠ kMessageQuit ∧ logs cpp message = true ∧ message.length ≠ 2 ^ 32 - 20

/-- Each `send` fails or takes the whole frame. -/
def TakesWhole (send : Nat → Option Nat) (messages : List (List UInt8)) : Prop :=
  ∀ i message taken, messages[i]? = some message → send i = some taken →
    (wrapHeader message).length ≤ taken + 1

def Sendable (message : List UInt8) : Prop := message ≠ [] ∧ accepts message.length = true

variable {send : Nat → Option Nat} {message : List UInt8} {messages queue : List (List UInt8)}

theorem writeMessage_cons (sendable : Sendable message) (other : message ≠ kMessageQuit)
    (logged : logs cpp message = true) :
    writeMessage cpp send (message :: queue) =
      if message.length ≠ 2 ^ 32 - 20 then
        match send 0 with
        | none => some []
        | some taken => (writeMessage cpp (fun i => send (i + 1)) queue).map
          ((wrapHeader message).take (taken + 1) ++ ·)
      else none := by
  rw [writeMessage, if_neg other, if_pos (length_pos_iff.mpr sendable.1), if_pos logged]
  simp only [le_totalSize_iff sendable.2]

theorem takesWhole_cons : TakesWhole send (message :: messages) ↔
    (∀ taken, send 0 = some taken → (wrapHeader message).length ≤ taken + 1) ∧
      TakesWhole (fun i => send (i + 1)) messages := by
  constructor
  · exact fun whole => ⟨fun taken => whole 0 message taken rfl, fun i => whole (i + 1)⟩
  · rintro ⟨first, later⟩ i
    cases i with
    | zero =>
      rintro _ taken ⟨⟩
      exact first taken
    | succ i => exact later i

theorem written_whole (sendable : ∀ message ∈ messages, Sendable message)
    (plain : ∀ message ∈ messages, Plain cpp message) (whole : TakesWhole send messages)
    (ended : ∀ send, writeMessage cpp send queue = some []) :
    ∃ n, writeMessage cpp send (messages ++ queue) = some ((messages.take n).flatMap wrapHeader) ∧
      ((∀ i, send i ≠ none) → messages.length ≤ n) := by
  induction messages generalizing send with
  | nil => exact ⟨0, ended send, fun _ => Nat.le_refl 0⟩
  | cons message messages ih =>
    obtain ⟨⟨other, logged, room⟩, plain⟩ := forall_mem_cons.mp plain
    obtain ⟨first, sendable⟩ := forall_mem_cons.mp sendable
    obtain ⟨taking, whole⟩ := takesWhole_cons.mp whole
    rw [cons_append, writeMessage_cons first other logged, if_pos room]
    cases called : send 0 with
    | none => exact ⟨0, rfl, fun succeeds => absurd called (succeeds 0)⟩
    | some taken =>
      obtain ⟨n, written, all⟩ := ih sendable plain whole
      refine ⟨n + 1, ?_, fun succeeds => Nat.succ_le_succ (all fun i => succeeds (i + 1))⟩
      simp only [written, map_some, take_succ_cons, flatMap_cons,
        take_of_length_le (taking taken called)]

theorem length_written {written : List UInt8}
    (done : writeMessage cpp send messages = some written) :
    written.length ≤ (messages.flatMap wrapHeader).length := by
  induction messages generalizing send written with
  | nil =>
    cases done
    simp
  | cons message messages ih =>
    rw [flatMap_cons, length_append]
    rw [writeMessage] at done
    split at done
    · cases done
      simp
    · split at done
      · split at done
        · split at done
          · split at done
            · cases done
              simp
            · obtain ⟨later, found, rfl⟩ := map_eq_some_iff.mp done
              have := ih found
              simp only [length_append, length_take]
              omega
          · cases done
        · cases done
          simp
      · have := ih done
        omega

theorem whole_of_written (sendable : ∀ message ∈ messages, Sendable message)
    (succeeds : ∀ i, send i ≠ none)
    (done : writeMessage cpp send messages = some (messages.flatMap wrapHeader)) :
    (∀ message ∈ messages, Plain cpp message) ∧ TakesWhole send messages := by
  induction messages generalizing send with
  | nil => exact ⟨by simp, fun i _ _ found => by simp at found⟩
  | cons message messages ih =>
    obtain ⟨first, sendable⟩ := forall_mem_cons.mp sendable
    have length : (wrapHeader message).length = 20 + message.length := by
      rw [wrapHeader_eq, length_framed]
    rw [flatMap_cons] at done
    by_cases other : message = kMessageQuit
    · rw [other, writeMessage, if_pos rfl] at done
      cases done
    by_cases logged : logs cpp message = true
    · rw [writeMessage_cons first other logged] at done
      split at done
      next room =>
        cases called : send 0 with
        | none => exact absurd called (succeeds 0)
        | some taken =>
          rw [called] at done
          obtain ⟨later, found, same⟩ := map_eq_some_iff.mp done
          have bound := length_written found
          have total := congrArg List.length same
          simp only [length_append, length_take] at total
          have whole : (wrapHeader message).length ≤ taken + 1 := by omega
          rw [take_of_length_le whole, append_cancel_left_eq] at same
          obtain ⟨plain, taking⟩ := ih sendable (fun i => succeeds (i + 1)) (same ▸ found)
          refine ⟨forall_mem_cons.mpr ⟨⟨other, logged, room⟩, plain⟩,
            takesWhole_cons.mpr ⟨?_, taking⟩⟩
          rintro _ again
          cases called.symm.trans again
          exact whole
      · cases done
    · rw [writeMessage, if_neg other, if_pos (length_pos_iff.mpr first.1), if_neg logged] at done
      cases done

theorem frames_written (cpp : JsonCpp) (messages : List (List UInt8))
    (sendable : ∀ message ∈ messages, Sendable message) (send : Nat → Option Nat)
    (stop : Option Nat) :
    ((∀ message ∈ messages, Plain cpp message) ∧ TakesWhole send messages →
      WritesFrames cpp send stop messages) ∧
    (WritesFrames cpp send none messages → (∀ i, send i ≠ none) →
      (∀ message ∈ messages, Plain cpp message) ∧ TakesWhole send messages) := by
  refine ⟨fun ⟨plain, whole⟩ => ?_, fun ⟨written, done, _, all⟩ succeeds => ?_⟩
  · cases stop with
    | none =>
      obtain ⟨n, written, all⟩ := written_whole sendable plain whole
        (show ∀ send, writeMessage cpp send [] = some [] from fun _ => rfl)
      rw [append_nil] at written
      have part : messages.take n <+: messages := take_prefix n messages
      refine ⟨_, written, part.flatMap _, fun succeeds _ => ?_⟩
      rw [take_of_length_le (all succeeds)]
    | some m =>
      have sub : ∀ {P : List UInt8 → Prop}, (∀ message ∈ messages, P message) →
          ∀ message ∈ messages.take m, P message := fun all message member =>
        all message (mem_of_mem_take member)
      have taking : TakesWhole send (messages.take m) := by
        intro i message taken found
        rw [getElem?_take] at found
        split at found
        · exact whole i message taken found
        · cases found
      obtain ⟨n, written, -⟩ := written_whole (sub sendable) (sub plain) taking
        (show ∀ send, writeMessage cpp send (kMessageQuit :: messages.drop m) = some [] from
          fun _ => rfl)
      have part : messages.take m <+: messages := take_prefix m messages
      have first : (messages.take m).take n <+: messages.take m := take_prefix n _
      exact ⟨_, written, (first.trans part).flatMap _, nofun⟩
  · exact whole_of_written sendable succeeds (all succeeds rfl ▸ done)

theorem one_frame_written : WritesFrames jsonText (fun _ => some 30) none [[0x7B, 0x7D]] :=
  (frames_written jsonText [[0x7B, 0x7D]]
    (by simp [Sendable, accepts]; decide) (fun _ => some 30) none).1
    ⟨by
      simp only [mem_singleton, forall_eq, Plain]
      decide +kernel, by
      rintro (_ | i) message taken ⟨⟩ ⟨⟩
      decide⟩

/-- The first `send` takes 4 of 22 bytes, the second one everything. -/
theorem short_send_loses_bytes :
    writeMessage jsonText (fun i => some (if i = 0 then 3 else 30))
        [[0x7B, 0x7D], [0x5B, 0x5D]] =
      some (word 1 ++ wrapHeader [0x5B, 0x5D]) := by
  decide +kernel

end DebugRouter.Transport.Native
