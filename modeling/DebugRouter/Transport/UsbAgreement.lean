import Mathlib.Algebra.Order.BigOperators.Group.List
import Mathlib.Data.List.TakeWhile
import DebugRouter.Transport.UsbFrame

/-!
Who can read whose frames. The fourth word is the size of what follows it, and so the connector
writes it; the runtime checks that, but writes the size of the whole frame.
-/
namespace DebugRouter.Transport

open Library List
open DebugRouter.Native (JsonCpp jsonText)

def framed (total : Nat) (content : List UInt8) : List UInt8 :=
  word 1 ++ (word 101 ++ (word 0 ++ (word total ++ (word content.length ++ content))))

theorem pack_eq (enc : List UInt8) : pack enc = framed (enc.length + 4) enc := rfl

theorem wrapHeader_eq (message : List UInt8) :
    Native.wrapHeader message = framed (20 + message.length) message := rfl

theorem length_framed (total : Nat) (content : List UInt8) :
    (framed total content).length = 20 + content.length := by
  simp only [framed, length_append, length_word]
  omega

variable {limit total : Nat} {content rest : List UInt8}

theorem unpack_framed (small : content.length < 2 ^ 32) :
    unpack limit (framed total content ++ rest) =
      if content.length ≤ limit then .frame content rest else .fail ⟨⟩ := by
  have header : wordValue (((framed total content ++ rest).drop 16).take 4) = content.length :=
    wordValue_word small
  rw [unpack_of_size header (by rw [length_append, length_framed]; omega)]
  have body : (framed total content ++ rest).drop 20 = content ++ rest := rfl
  rw [← drop_drop, body, take_left, drop_left]

namespace Native
variable {cpp : JsonCpp} {filter : List UInt8 → Except String Bool}
variable {ending : Ending} {errno : Int}

theorem read_append {size : Nat} {pre : List UInt8} (h : pre.length = size) :
    read size (pre ++ rest) = some (pre, rest) := by
  subst h
  unfold read
  rw [if_pos (by rw [length_append]; omega), take_left, drop_left]

theorem read_header : read kFrameHeaderLen (framed total content ++ rest) =
    some (word 1 ++ word 101 ++ word 0 ++ word total, word content.length ++ (content ++ rest)) := by
  have split : framed total content ++ rest =
      (word 1 ++ word 101 ++ word 0 ++ word total) ++ (word content.length ++ (content ++ rest)) := by
    simp only [framed, append_assoc]
  rw [split]
  exact read_append rfl

theorem checkHeaderThreeBytes_framed :
    checkHeaderThreeBytes (word 1 ++ word 101 ++ word 0 ++ word total) = true := by
  have x : (word 1 ++ word 101 ++ word 0 ++ word total).take 4 = word 1 := rfl
  have second : ((word 1 ++ word 101 ++ word 0 ++ word total).drop 4).take 4 = word 101 := rfl
  have third : ((word 1 ++ word 101 ++ word 0 ++ word total).drop 8).take 4 = word 0 := rfl
  rw [checkHeaderThreeBytes, x, second, third, wordValue_word (by decide),
    wordValue_word (by decide), wordValue_word (by decide)]
  rfl

theorem checkHeaderFourthByte_framed (size : Nat) :
    checkHeaderFourthByte (word 1 ++ word 101 ++ word 0 ++ word total) size =
      decide (total % 2 ^ 32 = (size + 4) % 2 ^ 32) := by
  have fourth : ((word 1 ++ word 101 ++ word 0 ++ word total).drop 12).take 4 = word total := rfl
  rw [checkHeaderFourthByte, fourth, wordValue_word_mod]

theorem readMessage_framed (fst : Bool) (small : content.length < 2 ^ 32) :
    readMessage cpp filter ending errno fst (framed total content ++ rest) =
      if total % 2 ^ 32 = (content.length + 4) % 2 ^ 32 then
        match inspect cpp filter content with
        | .error _ => threwRead
        | .ok true => readMessage cpp filter ending errno false rest
        | .ok false => (readMessage cpp filter ending errno false rest).receive content
      else readMessage cpp filter ending errno false (content ++ rest) := by
  have sizeRead : read kPayloadSizeLen (word content.length ++ (content ++ rest)) =
      some (word content.length, content ++ rest) := read_append rfl
  have payloadRead : read content.length (content ++ rest) = some (content, rest) := read_append rfl
  rw [readMessage]
  split
  next hf =>
    rw [read_header] at hf
    cases hf
  next header stream done =>
    rw [read_header] at done
    cases done
    rw [if_pos checkHeaderThreeBytes_framed]
    split
    next hf =>
      rw [sizeRead] at hf
      cases hf
    next sizeWord stream done =>
      rw [sizeRead] at done
      cases done
      simp only [wordValue_word small, checkHeaderFourthByte_framed, decide_eq_true_eq]
      split
      · split
        next hf =>
          rw [wordValue_word small, payloadRead] at hf
          cases hf
        next received others done =>
          rw [wordValue_word small, payloadRead] at done
          cases done
          rfl
      · rfl

def cost (contents : List (List UInt8)) : Nat := (contents.map fun content => 20 + content.length).sum

theorem cost_cons (content : List UInt8) (contents : List (List UInt8)) :
    cost (content :: contents) = 20 + content.length + cost contents := by
  simp [cost]

theorem incoming_endRead (fst report : Bool) (reason msg : String) :
    (endRead fst report reason msg ending).incoming = [] := by
  cases ending <;> rfl

theorem cost_incoming (cpp : JsonCpp) (filter : List UInt8 → Except String Bool)
    (ending : Ending) (errno : Int) (fst : Bool) (stream : List UInt8) :
    cost (readMessage cpp filter ending errno fst stream).incoming ≤ stream.length := by
  fun_induction readMessage cpp filter ending errno fst stream with
  | case1 | case2 | case3 => simp [incoming_endRead, cost]
  | case4 => simp [threwRead, cost]
  | case5 fst stream header rest first _ size others second _ _ _ payload last third _ _ ih =>
    omega
  | case6 fst stream header rest first _ size others second _ _ _ payload last third _ _ ih =>
    have taken : payload.length = wordValue size := by
      unfold read at third
      split at third
      · cases third
        rw [length_take]
        omega
      · cases third
    simp only [ReadEnd.receive, cost_cons, kFrameHeaderLen, kPayloadSizeLen] at *
    omega
  | case7 fst stream header rest first _ size others second _ _ _ ih => omega
  | case8 => simp [protocolMismatch, cost]

section Inspection
variable (cpp : JsonCpp) (filter : List UInt8 → Except String Bool)

/-- Neither the parse for the log level nor the session filter throws. -/
def returns (payload : List UInt8) : Bool := (inspect cpp filter payload).isOk

/-- The session filter lets the payload through. -/
def passes (payload : List UInt8) : Bool :=
  match filter payload with
  | .ok drop => !drop
  | .error _ => false

variable {cpp filter}

theorem inspect_of_returns {payload : List UInt8} (h : returns cpp filter payload = true) :
    inspect cpp filter payload = .ok (!passes filter payload) := by
  unfold returns inspect at h
  unfold inspect passes
  generalize getVerboseMessageLogLevel cpp payload = parsed at *
  generalize filter payload = judged at *
  cases parsed with
  | error what => cases h
  | ok =>
    cases judged with
    | error what => cases h
    | ok drop => exact congrArg Except.ok (Bool.not_not drop).symm

theorem returns_jsonText (payload : List UInt8) :
    returns jsonText (fun _ => .ok false) payload = true := by
  unfold returns inspect getVerboseMessageLogLevel jsonText
  dsimp only
  cases JsonText.parse (String.ofList (Utf8.decode payload)) <;> rfl

theorem inspect_of_not_returns {payload : List UInt8} (h : ¬ returns cpp filter payload = true) :
    ∃ what, inspect cpp filter payload = .error what := by
  unfold returns at h
  cases judged : inspect cpp filter payload with
  | error what => exact ⟨what, rfl⟩
  | ok drop =>
    rw [judged] at h
    exact absurd rfl h

/-- What a reader keeps that gets to the payloads one after the other: those that pass, up to the
first at which it ends with an exception. -/
def kept (cpp : JsonCpp) (filter : List UInt8 → Except String Bool)
    (payloads : List (List UInt8)) : List (List UInt8) :=
  (payloads.takeWhile (returns cpp filter)).filter (passes filter)

end Inspection

end Native

/- Encoders and decoders -/

inductive Encoder where
  | packMessage | wrapHeader
  deriving DecidableEq

inductive Decoder where
  | handleUnpackMessage | readMessage
  deriving DecidableEq

def Encoder.frame : Encoder → List UInt8 → List UInt8
  | .packMessage => pack
  | .wrapHeader => Native.wrapHeader

section Decoder
variable (limit : Nat) (cpp : JsonCpp) (filter : List UInt8 → Except String Bool)
variable (ending : Native.Ending) (errno : Int)

/-- The contents a decoder finds in the bytes of a connection. The connector hands on texts. -/
def Decoder.payloads : Decoder → List UInt8 → List (List UInt8)
  | .handleUnpackMessage, stream =>
    ((usbFraming limit).drain stream).1.map fun payload => Utf8.encode (Utf8.decode payload)
  | .readMessage, stream => (Native.readMessage cpp filter ending errno true stream).incoming

/-- The connector takes texts that are not too long, the runtime what it can look into and does not
drop. -/
def Decoder.Takes : Decoder → List UInt8 → Prop
  | .handleUnpackMessage, payload =>
    payload.length ≤ limit ∧ Utf8.encode (Utf8.decode payload) = payload
  | .readMessage, payload =>
    Native.returns cpp filter payload = true ∧ Native.passes filter payload = true

end Decoder

variable {limit : Nat} {cpp : JsonCpp} {filter : List UInt8 → Except String Bool}
variable {ending : Native.Ending} {errno : Int}
variable (e : Encoder) (payloads : List (List UInt8))

theorem frame_eq (payload : List UInt8) : e.frame payload = framed
    (match e with | .packMessage => payload.length + 4 | .wrapHeader => 20 + payload.length)
    payload := by
  cases e <;> rfl

theorem drain_frames (payloads : List (List UInt8))
    (small : ∀ payload ∈ payloads, payload.length ≤ 2 ^ 32 - 25) :
    ((usbFraming limit).drain (payloads.flatMap e.frame)).1 =
      payloads.takeWhile (·.length ≤ limit) := by
  induction payloads with
  | nil =>
    rw [flatMap_nil, Scanner.drain_wait (show (usbFraming limit).scan [] = .wait [] from rfl)]
    rfl
  | cons payload others ih =>
    obtain ⟨first, later⟩ := forall_mem_cons.mp small
    have scanned : (usbFraming limit).scan (e.frame payload ++ others.flatMap e.frame) =
        if payload.length ≤ limit then .frame payload (others.flatMap e.frame) else .fail ⟨⟩ := by
      rw [frame_eq]
      exact unpack_framed (by omega)
    rw [flatMap_cons, takeWhile_cons]
    by_cases short : payload.length ≤ limit
    · rw [if_pos short] at scanned
      rw [Scanner.drain_frame scanned, ih later, if_pos (decide_eq_true short)]
    · rw [if_neg short] at scanned
      rw [Scanner.drain_fail scanned, if_neg (by simpa using short)]

theorem readMessage_packs (fst : Bool) (small : ∀ payload ∈ payloads, payload.length < 2 ^ 32) :
    (Native.readMessage cpp filter ending errno fst (payloads.flatMap pack)).incoming =
      Native.kept cpp filter payloads := by
  unfold Native.kept
  induction payloads generalizing fst with
  | nil =>
    rw [flatMap_nil, Native.readMessage]
    split
    · exact Native.incoming_endRead _ _ _ _
    next done => cases done
  | cons payload others ih =>
    obtain ⟨first, later⟩ := forall_mem_cons.mp small
    rw [flatMap_cons, pack_eq, Native.readMessage_framed fst first, if_pos rfl, takeWhile_cons]
    by_cases returned : Native.returns cpp filter payload = true
    · rw [Native.inspect_of_returns returned, if_pos returned, filter_cons]
      cases Native.passes filter payload with
      | false => exact ih false later
      | true => exact congrArg (payload :: ·) (ih false later)
    · obtain ⟨what, threw⟩ := Native.inspect_of_not_returns returned
      rw [threw, if_neg returned]
      rfl

theorem length_wraps : (payloads.flatMap Native.wrapHeader).length = Native.cost payloads := by
  induction payloads with
  | nil => rfl
  | cons pl others ih =>
    rw [flatMap_cons, length_append, wrapHeader_eq, length_framed, ih, Native.cost_cons]

/-- The runtime does not understand what it writes itself: the words of the first frame are lost,
and what is left of the stream has no room for all the contents. -/
theorem readMessage_wraps (payload : List UInt8) (others : List (List UInt8))
    (small : payload.length ≤ 2 ^ 32 - 25) :
    (Native.readMessage cpp filter ending errno true
      ((payload :: others).flatMap Native.wrapHeader)).incoming ≠ payload :: others := by
  intro same
  have wrong : (20 + payload.length) % 2 ^ 32 ≠ (payload.length + 4) % 2 ^ 32 := by omega
  rw [flatMap_cons, wrapHeader_eq, Native.readMessage_framed true (by omega), if_neg wrong] at same
  have room := Native.cost_incoming cpp filter ending errno false
    (payload ++ others.flatMap Native.wrapHeader)
  rw [same, Native.cost_cons, length_append, length_wraps] at room
  omega

theorem map_takeWhile_eq_iff {α : Type} (p : α → Bool) (f : α → α) (l : List α) :
    (l.takeWhile p).map f = l ↔ ∀ x ∈ l, p x = true ∧ f x = x := by
  constructor
  · intro same x member
    have part : l.takeWhile p <+: l := takeWhile_prefix p
    have whole := part.eq_of_length (by simpa using congrArg length same)
    rw [whole] at same
    exact ⟨takeWhile_eq_self_iff.mp whole x member,
      (map_inj_left (g := id)).mp (same.trans (map_id l).symm) x member⟩
  · intro all
    rw [takeWhile_eq_self_iff.mpr fun x member => (all x member).1]
    exact (map_congr_left fun x member => (all x member).2).trans (map_id l)

theorem kept_eq_iff : Native.kept cpp filter payloads = payloads ↔
    ∀ payload ∈ payloads,
      Native.returns cpp filter payload = true ∧ Native.passes filter payload = true := by
  unfold Native.kept
  constructor
  · intro same payload member
    rw [← same, mem_filter] at member
    exact ⟨mem_takeWhile_imp member.1, member.2⟩
  · intro all
    rw [takeWhile_eq_self_iff.mpr fun payload member => (all payload member).1,
      filter_eq_self.mpr fun payload member => (all payload member).2]

/-- Everyone understands the connector's frames and the connector everyone's, as far as the decoder
takes the contents at all. The encoders never write the same frame, and only the connector's has the
documented fourth word. -/
theorem frames_understood_iff (limit : Nat) (cpp : JsonCpp)
    (filter : List UInt8 → Except String Bool) (ending : Native.Ending) (errno : Int)
    (payload : List UInt8) (others : List (List UInt8))
    (small : ∀ p ∈ payload :: others, p.length ≤ 2 ^ 32 - 25) :
    (∀ (e : Encoder) (d : Decoder),
      d.payloads limit cpp filter ending errno ((payload :: others).flatMap e.frame) =
          payload :: others ↔
        (e = .packMessage ∨ d = .handleUnpackMessage) ∧
          ∀ p ∈ payload :: others, d.Takes limit cpp filter p) ∧
    (∀ e e' : Encoder, e.frame payload = e'.frame payload ↔ e = e') ∧
    ∀ e : Encoder, wordValue (((e.frame payload).drop 12).take 4) = payload.length + 4 ↔
      e = .packMessage := by
  have first := small payload mem_cons_self
  have fourthWord : ∀ e : Encoder,
      wordValue (((e.frame payload).drop 12).take 4) = payload.length + 4 ↔ e = .packMessage := by
    intro e
    cases e with
    | packMessage => exact iff_of_true (wordValue_word (by omega)) rfl
    | wrapHeader =>
      refine iff_of_false ?_ (by simp)
      have value : wordValue (word (20 + payload.length)) = 20 + payload.length :=
        wordValue_word (by omega)
      intro same
      have contradiction := value.symm.trans same
      omega
  refine ⟨?_, ?_, fourthWord⟩
  · intro e d
    cases d with
    | handleUnpackMessage =>
      rw [Decoder.payloads, drain_frames e _ small, map_takeWhile_eq_iff]
      simp [Decoder.Takes]
    | readMessage =>
      cases e with
      | packMessage =>
        have bounded : ∀ p ∈ payload :: others, p.length < 2 ^ 32 := by
          intro p member
          have := small p member
          omega
        rw [Decoder.payloads, Encoder.frame, readMessage_packs _ true bounded, kept_eq_iff]
        exact ⟨fun all => ⟨.inl rfl, all⟩, fun all => all.2⟩
      | wrapHeader => exact iff_of_false (readMessage_wraps payload others first) (by simp)
  · intro e e'
    constructor
    · intro same
      have packed : e = .packMessage ↔ e' = .packMessage := by
        rw [← fourthWord e, ← fourthWord e', same]
      cases e <;> cases e' <;> simp_all
    · rintro rfl
      rfl

theorem frames_understood_braces : Decoder.payloads 100 jsonText (fun _ => .ok false)
      .closed 0 .readMessage (pack [0x7B, 0x7D] ++ (pack [] ++ [])) = [[0x7B, 0x7D], []] := by
  have understood := (frames_understood_iff 100 jsonText (fun _ => .ok false)
    .closed 0 [0x7B, 0x7D] [[]] (by simp)).1 .packMessage .readMessage
  exact understood.mpr ⟨.inl rfl, fun p _ => ⟨Native.returns_jsonText p, rfl⟩⟩

theorem runtime_drops_own_frame :
    Native.readMessage jsonText (fun _ => .ok false) .closed 0 true
        (Native.wrapHeader [0x7B, 0x7D]) =
      ⟨true, [], true, some (0, "peer closed connection (EOF)"), none⟩ := by
  have dropped : Native.readMessage jsonText (fun _ => .ok false) .closed 0 true
        (framed 22 [0x7B, 0x7D] ++ []) =
      Native.readMessage jsonText (fun _ => .ok false) .closed 0 false
        ([0x7B, 0x7D] ++ []) := by
    rw [Native.readMessage_framed true (by decide), if_neg (by decide)]
  rw [append_nil, append_nil] at dropped
  rw [wrapHeader_eq]
  apply dropped.trans
  rw [Native.readMessage]
  rfl

end DebugRouter.Transport
