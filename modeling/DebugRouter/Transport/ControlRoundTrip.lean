import DebugRouter.Transport.Control

/-!
The control connection delivers what was sent. The bytes in the buffer and those still to come
always carry the messages that are still to be delivered.
-/
namespace DebugRouter.Transport

open Library List Json

variable {opt : TransportOption} {buf suffix unread rest : List UInt8} {msg : Json} {msgs : List Json}

def Sendable (option : TransportOption) (message : Json) : Prop :=
  1 ≤ (payloadOf message).length ∧ (payloadOf message).length ≤ option.maxFrameSize

theorem parse_payloadOf (msg : Json) :
    JsonText.parse (String.ofList (Utf8.decode (payloadOf msg))) = some msg.normalize := by
  unfold payloadOf
  rw [Utf8.decode_encode, String.ofList_toList, JsonText.parse_stringify]

theorem length_frameOf (msg : Json) : (frameOf msg).length = 8 + (payloadOf msg).length := by
  simp only [frameOf, framePrefix, length_append, length_word, length_cons, length_nil]
  omega

/- A frame at the front -/

theorem drop_frameOf : (frameOf msg ++ rest).drop 8 = payloadOf msg ++ rest := rfl

theorem payloadLength_frameOf (hsm : (payloadOf msg).length < 2 ^ 32)
    (hf : suffix ++ unread = frameOf msg ++ rest) (hh : 8 ≤ suffix.length) :
    wordValue ((suffix.drop 4).take 4) = (payloadOf msg).length := by
  have same : (suffix.drop 4).take 4 = ((frameOf msg ++ rest).drop 4).take 4 := by
    rw [← hf, drop_append_of_le_length (by omega),
      take_append_of_le_length (by rw [length_drop]; omega)]
  rw [same]
  exact wordValue_word hsm

theorem scanFrame_front (hfi : opt.maxFrameSize < 2 ^ 32) (hse : Sendable opt msg)
    (hf : suffix ++ unread = frameOf msg ++ rest) :
    (scanFrame opt suffix = .wait suffix ∧ suffix.length < 8 + (payloadOf msg).length) ∨
      ∃ after, scanFrame opt suffix = .frame msg.normalize after ∧ after ++ unread = rest := by
  obtain ⟨hpo, hs⟩ := hse
  unfold scanFrame frameHeaderSize
  dsimp only
  split
  · exact .inl ⟨rfl, by omega⟩
  next hh =>
    rw [payloadLength_frameOf (by omega) hf (by omega), if_neg (by omega), if_neg (by omega)]
    split
    next hi => exact .inl ⟨rfl, hi⟩
    next hc =>
      have hp : (suffix.drop 8).take (payloadOf msg).length = payloadOf msg := by
        have front' := congrArg (drop 8) hf
        rw [drop_frameOf, drop_append_of_le_length (by omega)] at front'
        have taken := congrArg (take (payloadOf msg).length) front'
        rw [take_left, take_append_of_le_length (by rw [length_drop]; omega)] at taken
        exact taken
      have after : suffix.drop (8 + (payloadOf msg).length) ++ unread = rest := by
        have front' := congrArg (drop (8 + (payloadOf msg).length)) hf
        rw [drop_append_of_le_length (by omega), ← length_frameOf, drop_left] at front'
        rw [← length_frameOf]
        exact front'
      rw [hp, parse_payloadOf]
      exact .inr ⟨_, rfl, after⟩

/- What the stream carries -/

/-- Frames, each after bytes that do not contain the prefix. -/
inductive Carries (option : TransportOption) : List UInt8 → List Json → Prop
  | nil : Carries option [] []
  | cons {interference rest : List UInt8} {message : Json} {others : List Json}
      (clean : locate framePrefix interference = none) (sendable : Sendable option message)
      (later : Carries option rest others) :
      Carries option (interference ++ (frameOf message ++ rest)) (message :: others)

variable {interference kept : List UInt8}

theorem locate_frame (h : locate framePrefix interference = none) :
    locate framePrefix (interference ++ (frameOf msg ++ rest)) = some (frameOf msg ++ rest) := by
  unfold frameOf
  rw [append_assoc]
  exact locate_skip (by decide) h

theorem length_of_absent (ha : locate framePrefix buf = none)
    (hs : buf ++ unread = interference ++ (frameOf msg ++ rest))
    (hc : locate framePrefix interference = none) : buf.length < interference.length + 4 := by
  by_contra hl
  have frame : interference ++ framePrefix <+: buf := by
    have whole : interference ++ framePrefix <+: buf ++ unread := by
      rw [hs, frameOf, append_assoc, prefix_append_right_inj]
      exact prefix_append _ _
    apply prefix_of_prefix_length_le whole (prefix_append _ _)
    simp only [length_append, framePrefix, length_cons, length_nil]
    omega
  obtain ⟨more, rfl⟩ := frame
  have hf : locate framePrefix (interference ++ (framePrefix ++ more)) = some (framePrefix ++ more) :=
    locate_skip (by decide) hc
  rw [← append_assoc] at hf
  cases hf.symm.trans ha

theorem carries_drop {skipped : List UInt8} {others : List Json}
    (hs : skipped ++ kept = interference ++ (frameOf msg ++ rest))
    (hi : skipped.length ≤ interference.length) (hc : locate framePrefix interference = none)
    (hse : Sendable opt msg) (hl : Carries opt rest others) :
    Carries opt kept (msg :: others) := by
  have front : skipped <+: interference ++ (frameOf msg ++ rest) := ⟨kept, hs⟩
  obtain ⟨remains, rfl⟩ := prefix_of_prefix_length_le front (prefix_append _ _) hi
  rw [append_assoc, append_cancel_left_eq] at hs
  rw [hs]
  exact .cons (locate_suffix hc) hse hl

theorem parseFrame_carries (hfi : opt.maxFrameSize < 2 ^ 32)
    (hca : Carries opt (buf ++ unread) msgs) :
    (∃ kept, parseFrame opt buf = .wait kept ∧ Carries opt (kept ++ unread) msgs) ∨
      ∃ msg others after, parseFrame opt buf = .frame msg.normalize after ∧
        msgs = msg :: others ∧ Carries opt (after ++ unread) others := by
  unfold parseFrame frameHeaderSize
  split
  · exact .inl ⟨buf, rfl, hca⟩
  next hh =>
    generalize hw : buf ++ unread = stream at hca
    cases hca with
    | nil =>
      have empty := (append_eq_nil_iff.mp hw).1
      simp [empty] at hh
    | @cons interference rest msg others hc hs hl =>
      split
      next ha =>
        have short := length_of_absent ha hw hc
        refine .inl ⟨_, rfl, ?_⟩
        rw [← take_append_drop (buf.length - framePrefix.length) buf,
          append_assoc] at hw
        refine carries_drop hw ?_ hc hs hl
        simp only [length_take, framePrefix, length_cons, length_nil]
        omega
      next start hf =>
        have hlo := locate_append hf unread
        rw [hw, locate_frame hc, Option.some.injEq] at hlo
        rcases scanFrame_front hfi hs hlo.symm with ⟨hwa, -⟩ | ⟨after, ht, hr⟩
        · refine .inl ⟨start, hwa, ?_⟩
          rw [← hlo]
          have bare : Carries opt ([] ++ (frameOf msg ++ rest)) (msg :: others) :=
            .cons (by decide) hs hl
          exact bare
        · refine .inr ⟨msg, others, after, ht, rfl, ?_⟩
          rw [hr]
          exact hl

/-- The frames still to be found in the buffer and in what is unread. -/
def Pending (option : TransportOption) (unread buffer : List UInt8) (frames : List Json) : Prop :=
  ∃ messages, frames = messages.map normalize ∧ Carries option (buffer ++ unread) messages

theorem drain_pending (hf : opt.maxFrameSize < 2 ^ 32) {frames : List Json}
    (hp : Pending opt unread buf frames) :
    ∃ found kept later, (parseFrames opt).drain buf = (found, .reading kept) ∧
      frames = found ++ later ∧ Pending opt unread kept later := by
  refine Scanner.drain_carries ?_ ?_ ?_ buf hp
  · rintro buf kept frames hs ⟨msgs, rfl, hc⟩
    rcases parseFrame_carries hf hc with ⟨kept', hw, hst⟩ | ⟨_, _, _, ht, _⟩
    · cases hw.symm.trans hs
      exact ⟨msgs, rfl, hst⟩
    · cases ht.symm.trans hs
  · rintro buf f after frames hs ⟨msgs, rfl, hc⟩
    rcases parseFrame_carries hf hc with ⟨_, hw, _⟩ | ⟨msg, others, _, ht, rfl, later⟩
    · cases hw.symm.trans hs
    · cases ht.symm.trans hs
      exact ⟨others.map normalize, rfl, others, rfl, later⟩
  · rintro buf error frames hs ⟨msgs, rfl, hc⟩
    rcases parseFrame_carries hf hc with ⟨_, hw, _⟩ | ⟨_, _, _, ht, _⟩
    · cases hw.symm.trans hs
    · cases ht.symm.trans hs

/- The end of the stream -/

theorem scanFrame_wait (hst : framePrefix <+: suffix)
    (hw : scanFrame opt suffix = .wait kept) : parseFrame opt kept = .wait kept := by
  have same : kept = suffix := by
    unfold scanFrame at hw
    dsimp only at hw
    split at hw
    · cases hw
      rfl
    split at hw
    · cases hw
    split at hw
    · cases hw
    split at hw
    · cases hw
      rfl
    split at hw <;> cases hw
  subst same
  unfold parseFrame
  split
  · rfl
  · rw [locate_of_starts hst]
    exact hw

theorem parseFrame_settled (h : parseFrame opt buf = .wait kept) :
    parseFrame opt kept = .wait kept := by
  unfold parseFrame at h
  split at h
  next hs =>
    cases h
    unfold parseFrame
    rw [if_pos hs]
  · split at h
    · cases h
      have hs : (buf.drop (buf.length - framePrefix.length)).length < frameHeaderSize := by
        simp only [length_drop, framePrefix, length_cons, length_nil, frameHeaderSize]
        omega
      unfold parseFrame
      rw [if_pos hs]
    next start hf => exact scanFrame_wait (locate_spec hf).1 h

theorem carries_settled (hfi : opt.maxFrameSize < 2 ^ 32) (hca : Carries opt buf msgs)
    (hw : parseFrame opt buf = .wait buf) : msgs = [] ∧ buf = [] := by
  cases hca with
  | nil => exact ⟨rfl, rfl⟩
  | @cons interference rest msg others hc hs hl =>
    unfold parseFrame at hw
    rw [locate_frame hc] at hw
    have long : 8 + (payloadOf msg).length ≤ (frameOf msg ++ rest).length := by
      rw [length_append, length_frameOf]
      omega
    rw [if_neg (by rw [length_append, frameHeaderSize]; omega)] at hw
    have front : (frameOf msg ++ rest) ++ [] = frameOf msg ++ rest := append_nil _
    rcases scanFrame_front hfi hs front with ⟨-, hsh⟩ | ⟨after, ht, -⟩
    · omega
    · dsimp only at hw
      rw [ht] at hw
      cases hw

namespace ControlTransport

/-- Nothing went wrong, and the frames still to be found come after the delivered ones. -/
structure Receives (option : TransportOption) (frames : List Json) (unread : List UInt8)
    (transport : ControlTransport) : Prop where
  alive : transport.closed = false
  calm : transport.closeError = none
  settled : parseFrame option transport.buffer = .wait transport.buffer
  pending : ∃ later, frames = transport.delivered ++ later ∧
    Pending option unread transport.buffer later

variable {frames : List Json} {transport : ControlTransport}

theorem receives_handleData (hf : opt.maxFrameSize < 2 ^ 32) {chunk : List UInt8}
    (hr : transport.Receives opt frames (chunk ++ unread))
    (hb : transport.buffer.length + chunk.length ≤ opt.maxBufferSize) :
    (transport.handleData opt chunk).Receives opt frames unread := by
  obtain ⟨ha, hca, hs, later, rfl, msgs, rfl, hc⟩ := hr
  unfold handleData
  split
  next hi =>
    have empty : chunk = [] := by simpa [ha] using hi
    subst empty
    exact ⟨ha, hca, hs, _, rfl, msgs, rfl, hc⟩
  · rw [if_neg (by omega)]
    rw [← append_assoc] at hc
    obtain ⟨found, kept, others, hd, split, hst⟩ := drain_pending hf ⟨msgs, rfl, hc⟩
    have settled' := Scanner.scan_drained (S := parseFrames opt) parseFrame_settled _
      (congrArg Prod.snd hd)
    rw [hd]
    refine ⟨ha, hca, settled', others, ?_, hst⟩
    rw [split, append_assoc]

theorem receives_run (hf : opt.maxFrameSize < 2 ^ 32) {chunks : List (List UInt8)}
    (hr : transport.Receives opt frames chunks.flatten)
    (hb : Along (handleData opt)
      (fun t chunk => t.buffer.length + chunk.length ≤ opt.maxBufferSize) transport chunks) :
    (chunks.foldl (handleData opt) transport).Receives opt frames [] := by
  induction chunks generalizing transport with
  | nil => exact hr
  | cons chunk rest ih =>
    rw [flatten_cons] at hr
    exact ih (receives_handleData hf hr hb.1) hb.2

theorem Receives.done (hf : opt.maxFrameSize < 2 ^ 32) (hr : transport.Receives opt frames []) :
    transport.delivered = frames ∧ transport.buffer = [] := by
  obtain ⟨-, -, hs, later, rfl, msgs, rfl, hc⟩ := hr
  rw [append_nil] at hc
  obtain ⟨rfl, he⟩ := carries_settled hf hc hs
  exact ⟨(append_nil _).symm, he⟩

end ControlTransport

def wire (option : TransportOption) (items : List (List UInt8 × Json)) : List UInt8 :=
  items.flatMap fun item => item.1 ++ (send option item.2).getD []

theorem carries_wire {items : List (List UInt8 × Json)} (hse : ∀ item ∈ items, Sendable opt item.2)
    (hc : ∀ item ∈ items, ¬ framePrefix <:+: item.1) :
    Carries opt (wire opt items) (items.map Prod.snd) := by
  induction items with
  | nil => exact .nil
  | cons item rest ih =>
    obtain ⟨first, ho⟩ := forall_mem_cons.mp hse
    obtain ⟨hf, hot⟩ := forall_mem_cons.mp hc
    have sent : send opt item.2 = some (frameOf item.2) := by
      unfold send
      rw [if_neg (Nat.not_lt.mpr first.2)]
    have front : wire opt (item :: rest) = item.1 ++ (frameOf item.2 ++ wire opt rest) := by
      simp only [wire, flatMap_cons, sent, Option.getD_some, append_assoc]
    rw [front]
    exact .cons (locate_eq_none hf) first (ih ho hot)

/-- Every message sent is delivered once and in order, as the value of its JSON text, through any
interference and in any chunks that fit the buffer; neither the stream nor its end is an error. -/
theorem control_round_trip (option : TransportOption) (fits : option.maxFrameSize < 2 ^ 32)
    (items : List (List UInt8 × Json)) (sendable : ∀ item ∈ items, Sendable option item.2)
    (clean : ∀ item ∈ items, ¬ framePrefix <:+: item.1) (chunks : List (List UInt8))
    (whole : chunks.flatten = wire option items)
    (bounded : Along (ControlTransport.handleData option)
      (fun t chunk => t.buffer.length + chunk.length ≤ option.maxBufferSize) .initial chunks) :
    let received := chunks.foldl (ControlTransport.handleData option) .initial
    received.delivered = items.map (·.2.normalize) ∧ received.closed = false ∧
      received.closeError = none ∧ received.handleEnd.closeError = none := by
  intro received
  have start : ControlTransport.initial.Receives option (items.map (·.2.normalize))
      chunks.flatten := by
    refine ⟨rfl, rfl, rfl, items.map (·.2.normalize), rfl, items.map Prod.snd, ?_, ?_⟩
    · rw [map_map]
      rfl
    · rw [whole]
      exact carries_wire sendable clean
  have he : received.Receives option (items.map (·.2.normalize)) [] :=
    ControlTransport.receives_run fits start bounded
  obtain ⟨hd, hem⟩ := he.done fits
  refine ⟨hd, he.alive, he.calm, ?_⟩
  simp [ControlTransport.handleEnd, hem, he.calm]

theorem seven_after_interference :
    let received := [[0x21, 0x24, 0x4D, 0x24, 0x4D], [0x55, 0x58, 0, 0, 0, 1, 0x37, 0x21, 0x24],
      [0x4D, 0x55, 0x58, 0, 0, 0, 1, 0x38]].foldl (ControlTransport.handleData defaultOption) .initial
    received.delivered = [ofInt 7, ofInt 8] ∧ received.closed = false ∧ received.closeError = none ∧
      received.handleEnd.closeError = none := by
  have sendable : Sendable defaultOption (ofInt 7) ∧ Sendable defaultOption (ofInt 8) := by
    unfold Sendable
    decide +kernel
  have sent : wire defaultOption [([0x21, 0x24, 0x4D], ofInt 7), ([0x21], ofInt 8)] =
      [0x21, 0x24, 0x4D, 0x24, 0x4D, 0x55, 0x58, 0, 0, 0, 1, 0x37, 0x21, 0x24, 0x4D, 0x55, 0x58, 0,
        0, 0, 1, 0x38] := by decide +kernel
  have seven : (ofInt 7).normalize = ofInt 7 := by decide +kernel
  have eight : (ofInt 8).normalize = ofInt 8 := by decide +kernel
  have done := control_round_trip defaultOption (by decide)
    [([0x21, 0x24, 0x4D], ofInt 7), ([0x21], ofInt 8)] (by simpa using sendable) (by decide)
    [[0x21, 0x24, 0x4D, 0x24, 0x4D], [0x55, 0x58, 0, 0, 0, 1, 0x37, 0x21, 0x24],
      [0x4D, 0x55, 0x58, 0, 0, 0, 1, 0x38]] (by rw [sent]; rfl)
    ⟨by decide, by decide +kernel, by decide +kernel, trivial⟩
  simp only [map_cons, map_nil, seven, eight] at done
  exact done

end DebugRouter.Transport
