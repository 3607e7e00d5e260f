import DebugRouter.Transport.Control

/-!
The receiving end with its listener, and the loop of `parseFrames` turn by turn. However the stream
is cut into chunks, the listener is called with the same messages and the stream ends in the same
way.
-/
namespace DebugRouter.Transport

open Library List

universe u
variable {σ : Type u}

/-- What is installed with `onMessage`. It has stopped once it has destroyed the transport, with an
error or without. -/
abbrev Listener (σ : Type u) := Consumer Json σ (Option TransportError)

structure Endpoint (σ : Type u) where
  buffer : List UInt8
  closed : Bool
  closeError : Option TransportError
  listener : σ

namespace Endpoint

def initial (s : σ) : Endpoint σ := ⟨[], false, none, s⟩

def destroy (e : Endpoint σ) (error : Option TransportError) : Endpoint σ :=
  if e.closed then e else { e with closed := true, closeError := error.or e.closeError }

variable (L : Listener σ) (option : TransportOption)

/-- The message is handed to the listener, which may destroy the transport. -/
def deliver (e : Endpoint σ) (message : Json) : Endpoint σ :=
  let heard := { e with listener := L.hear e.listener message }
  match L.stopped heard.listener with
  | some error => heard.destroy error
  | none => heard

/-- One turn of the loop in `parseFrames`, and whether the loop goes on. -/
def turn (e : Endpoint σ) : Endpoint σ × Bool :=
  if e.closed then (e, false)
  else
    match parseFrame option e.buffer with
    | .wait kept => ({ e with buffer := kept }, false)
    | .fail error =>
      ({ e with buffer := (locate framePrefix e.buffer).getD e.buffer }.destroy (some error), false)
    | .frame message rest => ({ e with buffer := rest }.deliver L message, true)

def turns : Nat → Endpoint σ → Option (Endpoint σ)
  | 0, _ => none
  | n + 1, e =>
    match e.turn L option with
    | (next, true) => turns n next
    | (last, false) => some last

@[simp] theorem buffer_destroy (e : Endpoint σ) (error : Option TransportError) :
    (e.destroy error).buffer = e.buffer := by
  unfold destroy
  split <;> rfl

@[simp] theorem buffer_deliver (e : Endpoint σ) (msg : Json) :
    (e.deliver L msg).buffer = e.buffer := by
  unfold deliver
  dsimp only
  split
  · exact buffer_destroy _ _
  · rfl

variable {e next : Endpoint σ}

theorem turn_shorter (h : e.turn L option = (next, true)) :
    next.buffer.length < e.buffer.length := by
  unfold turn at h
  split at h
  · cases h
  split at h
  · cases h
  · cases h
  next msg rest hf =>
    cases h
    rw [buffer_deliver]
    exact (parseFrames option).shorter hf

def parseFramesLoop (e : Endpoint σ) : Endpoint σ :=
  match goes : e.turn L option with
  | (next, true) =>
    have := turn_shorter L option goes
    parseFramesLoop next
  | (last, false) => last
termination_by e.buffer.length

variable {L option}

theorem framesLoop_goes (h : e.turn L option = (next, true)) :
    e.parseFramesLoop L option = next.parseFramesLoop L option := by
  rw [parseFramesLoop]
  split <;> simp_all

theorem framesLoop_ends {last : Endpoint σ} (h : e.turn L option = (last, false)) :
    e.parseFramesLoop L option = last := by
  rw [parseFramesLoop]
  split <;> simp_all

variable (L option)

theorem turns_enough (e : Endpoint σ) :
    e.turns L option (e.buffer.length + 1) = some (e.parseFramesLoop L option) := by
  suffices any : ∀ n e, e.buffer.length < n →
      turns L option n e = some (e.parseFramesLoop L option) from
    any _ e (Nat.lt_succ_self _)
  intro n
  induction n with
  | zero =>
    intro e hs
    cases hs
  | succ n ih =>
    intro e hs
    rw [turns]
    split
    next next hg =>
      have shorter := turn_shorter L option hg
      rw [framesLoop_goes hg]
      exact ih next (by omega)
    next last he => rw [framesLoop_ends he]

def handleData (e : Endpoint σ) (chunk : List UInt8) : Endpoint σ :=
  if e.closed ∨ chunk = [] then e
  else if e.buffer.length + chunk.length > option.maxBufferSize then
    e.destroy (some (bufferTooLarge option))
  else { e with buffer := e.buffer ++ chunk }.parseFramesLoop L option

def handleEnd (e : Endpoint σ) : Endpoint σ :=
  if e.closed then e
  else
    { e with
        closed := true
        closeError := if e.buffer ≠ [] ∧ e.closeError = none then some incompleteFrame
        else e.closeError }

variable {L option}

/-- Where the listener and the stream are after the frames found and what is left of the stream. -/
def Settles (e : Endpoint σ) (heard : σ × Option (Option TransportError))
    (left : Intake UInt8 TransportError) (Trims : List UInt8 → List UInt8 → Prop) : Prop :=
  e.listener = heard.1 ∧ match heard.2, left with
    | some error, _ => e.closed = true ∧ e.closeError = error
    | none, .reading whole => e.closed = false ∧ e.closeError = none ∧ Trims whole e.buffer
    | none, .failed error => e.closed = true ∧ e.closeError = some error

variable (L option) in
theorem settles_framesLoop (buffer : List UInt8) (s : σ) :
    (parseFramesLoop L option ⟨buffer, false, none, s⟩).Settles
      (L.take s ((parseFrames option).drain buffer).1)
      ((parseFrames option).drain buffer).2 Eq := by
  induction buffer using Scanner.drain.induct (parseFrames option) generalizing s with
  | case1 buffer kept hf =>
    have hs : parseFrame option buffer = .wait kept := hf
    have he : turn L option ⟨buffer, false, none, s⟩ = (⟨kept, false, none, s⟩, false) := by
      simp [turn, hs]
    rw [framesLoop_ends he, Scanner.drain_wait hf]
    exact ⟨rfl, rfl, rfl, rfl⟩
  | case2 buffer msg rest hf hsh ih =>
    have hs : parseFrame option buffer = .frame msg rest := hf
    rw [Scanner.drain_frame hf]
    cases hst : L.stopped (L.hear s msg) with
    | none =>
      have hg : turn L option ⟨buffer, false, none, s⟩ =
          (⟨rest, false, none, L.hear s msg⟩, true) := by
        simp [turn, hs, deliver, hst]
      rw [framesLoop_goes hg]
      simp only [Consumer.take, hst]
      exact ih _
    | some error =>
      have hg : turn L option ⟨buffer, false, none, s⟩ =
          (⟨rest, true, error, L.hear s msg⟩, true) := by
        simp [turn, hs, deliver, hst, destroy]
      have he : turn L option ⟨rest, true, error, L.hear s msg⟩ =
          (⟨rest, true, error, L.hear s msg⟩, false) := by
        simp [turn]
      rw [framesLoop_goes hg, framesLoop_ends he]
      simp only [Consumer.take, hst]
      exact ⟨rfl, rfl, rfl⟩
  | case3 buffer error hf =>
    have hs : parseFrame option buffer = .fail error := hf
    have he : (turn L option ⟨buffer, false, none, s⟩).2 = false := by simp [turn, hs]
    have hl : (turn L option ⟨buffer, false, none, s⟩).1 =
        ⟨(locate framePrefix buffer).getD buffer, true, some error, s⟩ := by
      simp [turn, hs, destroy]
    rw [framesLoop_ends (Prod.ext hl he), Scanner.drain_fail hf]
    exact ⟨rfl, rfl, rfl⟩

end Endpoint

/- The stream without trimming -/

/-- A reading of the stream that keeps everything while it waits. -/
def scanWhole (option : TransportOption) (whole : List UInt8) : Scan UInt8 Json TransportError :=
  match locate framePrefix whole with
  | none => .wait whole
  | some start =>
    match scanFrame option start with
    | .wait _ => .wait whole
    | .frame message rest => .frame message rest
    | .fail error => .fail error

variable {option : TransportOption}

variable (option) in
theorem scanFrame_append (buffer more : List UInt8) : match scanFrame option buffer with
    | .wait kept => kept = buffer
    | .frame msg rest => scanFrame option (buffer ++ more) = .frame msg (rest ++ more)
    | .fail error => scanFrame option (buffer ++ more) = .fail error := by
  unfold scanFrame frameHeaderSize
  dsimp only
  by_cases hs : buffer.length < 8
  · rw [if_pos hs]
  have long : ¬ (buffer ++ more).length < 8 := by
    rw [length_append]
    omega
  have header : ((buffer ++ more).drop 4).take 4 = (buffer.drop 4).take 4 := by
    rw [drop_append_of_le_length (by omega), take_append_of_le_length]
    rw [length_drop]
    omega
  rw [if_neg hs, if_neg long, header]
  by_cases he : wordValue ((buffer.drop 4).take 4) = 0
  · simp [he]
  by_cases hl : wordValue ((buffer.drop 4).take 4) > option.maxFrameSize
  · simp [he, hl]
  rw [if_neg he, if_neg he, if_neg hl, if_neg hl]
  generalize wordValue ((buffer.drop 4).take 4) = payloadLength
  by_cases hi : buffer.length < 8 + payloadLength
  · rw [if_pos hi]
  have hc : ¬ (buffer ++ more).length < 8 + payloadLength := by
    rw [length_append]
    omega
  have hp : ((buffer ++ more).drop 8).take payloadLength = (buffer.drop 8).take payloadLength := by
    rw [drop_append_of_le_length (by omega), take_append_of_le_length]
    rw [length_drop]
    omega
  rw [if_neg hi, if_neg hc, hp, drop_append_of_le_length (by omega)]
  cases JsonText.parse (String.ofList (Utf8.decode ((buffer.drop 8).take payloadLength))) with
  | none => rfl
  | some msg => rfl

variable {whole start buffer kept : List UInt8}

theorem scanWhole_of_located (hl : locate framePrefix whole = some start)
    (hr : ∀ kept, scanFrame option start ≠ .wait kept) :
    scanWhole option whole = scanFrame option start := by
  unfold scanWhole
  rw [hl]
  dsimp only
  split
  next kept hs => exact absurd hs (hr kept)
  next hs => exact hs.symm
  next hs => exact hs.symm

variable (option) in
theorem scanWhole_cases (whole : List UInt8) :
    scanWhole option whole = .wait whole ∨
      ∃ start, locate framePrefix whole = some start ∧
        scanWhole option whole = scanFrame option start ∧
        ∀ kept, scanFrame option start ≠ .wait kept := by
  cases hl : locate framePrefix whole with
  | none =>
    left
    unfold scanWhole
    rw [hl]
  | some start =>
    by_cases hw : ∃ kept, scanFrame option start = .wait kept
    · obtain ⟨kept, hs⟩ := hw
      left
      simp [scanWhole, hl, hs]
    · rw [not_exists] at hw
      exact .inr ⟨start, rfl, scanWhole_of_located hl hw, hw⟩

theorem scanWhole_shorter {option : TransportOption} {whole rest : List UInt8} {message : Json}
    (hs : scanWhole option whole = .frame message rest) : rest.length < whole.length := by
  rcases scanWhole_cases option whole with waits | ⟨start, located, same, -⟩
  · cases waits.symm.trans hs
  · exact (scanFrame_shorter (same.symm.trans hs)).trans_le (locate_spec located).2.length_le

theorem scanWhole_append (option : TransportOption) (whole more : List UInt8) :
    match scanWhole option whole with
    | .wait kept => kept = whole
    | .frame message rest => scanWhole option (whole ++ more) = .frame message (rest ++ more)
    | .fail error => scanWhole option (whole ++ more) = .fail error := by
  rcases scanWhole_cases option whole with waits | ⟨start, located, same, ready⟩
  · rw [waits]
  · have later := scanFrame_append option start more
    rw [same]
    cases scanned : scanFrame option start with
    | wait kept => exact absurd scanned (ready kept)
    | frame message rest | fail error =>
      rw [scanned] at later
      rw [scanWhole_of_located (locate_append located more) (by simp [later])]
      exact later

def wholeFraming (option : TransportOption) : Framing UInt8 Json TransportError where
  scan := scanWhole option
  shorter := scanWhole_shorter
  frame_append := by
    intro whole message rest scanned more
    have later := scanWhole_append option whole more
    rwa [scanned] at later
  fail_append := by
    intro whole error scanned more
    have later := scanWhole_append option whole more
    rwa [scanned] at later
  wait_keeps := by
    intro whole kept scanned
    have later := scanWhole_append option whole []
    rwa [scanned] at later

/-- A buffer in which the next frame is found where it is in the whole, whatever comes; it is empty
only if the whole is. -/
structure Trims (whole buffer : List UInt8) : Prop where
  locates : ∀ more, locate framePrefix (whole ++ more) = locate framePrefix (buffer ++ more)
  nonempty : buffer = [] ↔ whole = []

theorem Trims.refl (whole : List UInt8) : Trims whole whole := ⟨fun _ => rfl, Iff.rfl⟩

theorem Trims.trans (x : Trims whole buffer) (hs : Trims buffer kept) : Trims whole kept :=
  ⟨fun more => (x.locates more).trans (hs.locates more), hs.nonempty.trans x.nonempty⟩

theorem Trims.append (h : Trims whole buffer) (more : List UInt8) :
    Trims (whole ++ more) (buffer ++ more) := by
  constructor
  · intro later
    rw [append_assoc, append_assoc]
    exact h.locates (more ++ later)
  · rw [append_eq_nil_iff, append_eq_nil_iff, h.nonempty]

theorem Trims.located (h : Trims whole buffer) :
    locate framePrefix whole = locate framePrefix buffer := by
  have now := h.locates []
  rwa [append_nil, append_nil] at now

theorem trims_parseFrame (h : parseFrame option buffer = .wait kept) : Trims buffer kept := by
  unfold parseFrame frameHeaderSize at h
  split at h
  · cases h
    exact .refl buffer
  rename_i hl
  split at h
  next ha =>
    cases h
    rw [← take_append_drop (buffer.length - framePrefix.length) buffer] at ha
    constructor
    · intro more
      have ht := locate_trim ha (by simp [framePrefix]; omega) more
      rwa [take_append_drop] at ht
    · simp only [framePrefix, length_cons, length_nil, drop_eq_nil_iff]
      constructor
      · intro hsh
        omega
      · rintro rfl
        exact absurd hl (by decide)
  next start hf =>
    have same := scanFrame_append option start []
    rw [h] at same
    subst same
    obtain ⟨hst, hi⟩ := locate_spec hf
    constructor
    · intro more
      rw [locate_append hf more, locate_of_starts (hst.trans (prefix_append _ more))]
    · constructor
      · rintro rfl
        exact absurd hst (by decide)
      · rintro rfl
        exact absurd hl (by decide)

theorem parseFrame_of_located (hlo : locate framePrefix buffer = some start)
    (hr : ∀ kept, scanFrame option start ≠ .wait kept) :
    parseFrame option buffer = scanFrame option start := by
  have long : ¬ buffer.length < frameHeaderSize := by
    intro hs
    have inside := (locate_spec hlo).2.length_le
    refine hr start ?_
    unfold scanFrame
    rw [if_pos (by omega)]
  unfold parseFrame
  rw [if_neg long, hlo]

theorem parseFrames_follows (option : TransportOption) :
    (parseFrames option).Follows (wholeFraming option) Trims where
  wait := by
    intro whole buffer ht hs
    have hw : ∃ kept, parseFrame option buffer = .wait kept := by
      unfold parseFrame
      split
      · exact ⟨buffer, rfl⟩
      · cases hl : locate framePrefix buffer with
        | none => exact ⟨_, rfl⟩
        | some start =>
          by_contra hr
          rw [not_exists] at hr
          have found := scanWhole_of_located (ht.located.trans hl) hr
          exact hr whole (found.symm.trans hs)
    obtain ⟨kept, hw⟩ := hw
    exact ⟨kept, hw, ht.trans (trims_parseFrame hw)⟩
  frame := by
    intro whole buffer msg rest ht hs
    rcases scanWhole_cases option whole with hw | ⟨start, hl, hsa, hr⟩
    · cases hw.symm.trans hs
    · refine ⟨rest, ?_, .refl rest⟩
      exact (parseFrame_of_located (ht.located.symm.trans hl) hr).trans (hsa.symm.trans hs)
  fail := by
    intro whole buffer error ht hs
    rcases scanWhole_cases option whole with hw | ⟨start, hl, hsa, hr⟩
    · cases hw.symm.trans hs
    · exact (parseFrame_of_located (ht.located.symm.trans hl) hr).trans (hsa.symm.trans hs)

namespace Endpoint
variable {L : Listener σ}

/-- The endpoint after `seen`, in whatever chunks that came. -/
def Reads (L : Listener σ) (option : TransportOption) (s : σ) (seen : List UInt8) (e : Endpoint σ) :
    Prop :=
  e.Settles (L.take s ((wholeFraming option).drain seen).1) ((wholeFraming option).drain seen).2 Trims

variable {s : σ} {seen : List UInt8} {chunks : List (List UInt8)}

theorem Reads.handleData {e : Endpoint σ} (hre : e.Reads L option s seen)
    {ck : List UInt8} (hb : e.buffer.length + ck.length ≤ option.maxBufferSize) :
    (e.handleData L option ck).Reads L option s (seen ++ ck) := by
  by_cases nothing : ck = []
  · subst nothing
    rw [append_nil]
    simpa [Endpoint.handleData] using hre
  unfold Reads at hre ⊢
  rw [Framing.drain_append, Consumer.take_append]
  generalize (wholeFraming option).drain seen = found at hre ⊢
  obtain ⟨msgs, left⟩ := found
  dsimp only at hre ⊢
  generalize L.take s msgs = heard at hre ⊢
  obtain ⟨s', stopped⟩ := heard
  obtain ⟨hs, hre⟩ := hre
  cases stopped with
  | some error =>
    have he : e.handleData L option ck = e := by simp [Endpoint.handleData, hre.1]
    rw [he]
    exact ⟨hs, hre⟩
  | none =>
    cases left with
    | failed error =>
      have he : e.handleData L option ck = e := by simp [Endpoint.handleData, hre.1]
      rw [he]
      exact ⟨hs, hre⟩
    | reading whole =>
      obtain ⟨ha, hc, ht⟩ := hre
      have looped : e.handleData L option ck =
          parseFramesLoop L option ⟨e.buffer ++ ck, false, none, s'⟩ := by
        unfold Endpoint.handleData
        rw [if_neg (by simp [ha, nothing]), if_neg (by omega)]
        obtain ⟨buffer, closed, closeError, lis⟩ := e
        cases ha
        cases hc
        cases hs
        rfl
      rw [looped]
      obtain ⟨hag, left⟩ := (parseFrames_follows option).drain (whole ++ ck) (ht.append ck)
      obtain ⟨hst, hr⟩ := settles_framesLoop L option (e.buffer ++ ck) s'
      rw [hag] at hst hr
      change Settles _ (L.take s' ((wholeFraming option).drain (whole ++ ck)).1)
        ((wholeFraming option).drain (whole ++ ck)).2 Trims
      refine ⟨hst, ?_⟩
      revert hr left
      generalize ((wholeFraming option).drain (whole ++ ck)).2 = ideal
      generalize ((parseFrames option).drain (e.buffer ++ ck)).2 = real
      cases (L.take s' ((wholeFraming option).drain (whole ++ ck)).1).2 with
      | some error => exact fun _ hr => hr
      | none =>
        cases ideal <;> cases real <;> intro left hr
        · obtain ⟨ha, hc, hk⟩ := hr
          exact ⟨ha, hc, hk ▸ left⟩
        · cases left
        · cases left
        · cases left
          exact hr

theorem reads_initial (s : σ) : (initial s).Reads L option s [] := by
  have nothing : (wholeFraming option).drain [] = ([], .reading []) := Scanner.drain_wait rfl
  unfold Reads
  rw [nothing]
  exact ⟨rfl, rfl, rfl, .refl []⟩

/-- No chunk makes the buffer exceed its limit. -/
def Bounded (L : Listener σ) (option : TransportOption) (s : σ) (chunks : List (List UInt8)) : Prop :=
  Along (handleData L option) (fun e chunk => e.buffer.length + chunk.length ≤ option.maxBufferSize)
    (initial s) chunks

theorem reads_run (h : Bounded L option s chunks) :
    (chunks.foldl (handleData L option) (initial s)).Reads L option s chunks.flatten := by
  suffices any : ∀ (chunks : List (List UInt8)) (seen : List UInt8) (e : Endpoint σ),
      e.Reads L option s seen →
      Along (handleData L option) (fun e ck => e.buffer.length + ck.length ≤ option.maxBufferSize)
        e chunks →
      (chunks.foldl (handleData L option) e).Reads L option s (seen ++ chunks.flatten) from
    any chunks [] (initial s) (reads_initial s) h
  intro chunks
  induction chunks with
  | nil =>
    intro seen e hr _
    rw [flatten_nil, append_nil]
    exact hr
  | cons ck rest ih =>
    intro seen e hr h
    rw [flatten_cons, ← append_assoc]
    exact ih _ _ (hr.handleData h.1) h.2

theorem Reads.same {e e' : Endpoint σ} (hr : e.Reads L option s seen)
    (reads' : e'.Reads L option s seen) :
    e.listener = e'.listener ∧ e.closed = e'.closed ∧ e.closeError = e'.closeError ∧
      e.handleEnd.closeError = e'.handleEnd.closeError := by
  unfold Reads Settles at hr reads'
  generalize (wholeFraming option).drain seen = found at hr reads'
  obtain ⟨msgs, left⟩ := found
  dsimp only at hr reads'
  generalize L.take s msgs = heard at hr reads'
  obtain ⟨s', stopped⟩ := heard
  obtain ⟨hs, hr⟩ := hr
  obtain ⟨hs', reads'⟩ := reads'
  refine ⟨hs.trans hs'.symm, ?_⟩
  cases stopped with
  | some error => simp [handleEnd, hr.1, hr.2, reads'.1, reads'.2]
  | none =>
    cases left with
    | failed error => simp [handleEnd, hr.1, hr.2, reads'.1, reads'.2]
    | reading whole =>
      obtain ⟨ha, hc, ht⟩ := hr
      obtain ⟨ha', hc', ht'⟩ := reads'
      simp [handleEnd, ha, ha', hc, hc', ht.nonempty, ht'.nonempty]

/-- Any two ways to cut a stream into chunks that fit the buffer: the listener, whatever it does, is
called with the same messages, and the stream is open, failed or incomplete in the same way. The
loop of `parseFrames` is always left. -/
theorem chunking_independent (L : Listener σ) (option : TransportOption) (s : σ) :
    (∀ e : Endpoint (σ × List Json),
      ∃ n, e.turns L.recording option n = some (e.parseFramesLoop L.recording option)) ∧
      ∀ chunks chunks' : List (List UInt8), chunks.flatten = chunks'.flatten →
        Bounded L.recording option (s, []) chunks → Bounded L.recording option (s, []) chunks' →
        let e := chunks.foldl (handleData L.recording option) (initial (s, []))
        let e' := chunks'.foldl (handleData L.recording option) (initial (s, []))
        e.listener = e'.listener ∧ e.closed = e'.closed ∧ e.closeError = e'.closeError ∧
          e.handleEnd.closeError = e'.handleEnd.closeError := by
  constructor
  · exact fun e => ⟨_, turns_enough L.recording option e⟩
  · intro chunks chunks' hs hb hb' e e'
    have reads : e.Reads L.recording option (s, []) chunks.flatten := reads_run hb
    have reads' : e'.Reads L.recording option (s, []) chunks.flatten := by
      rw [hs]
      exact reads_run hb'
    exact reads.same reads'

/- Short streams always fit -/

variable (L option) in
theorem length_turn_le (e : Endpoint σ) : (e.turn L option).1.buffer.length ≤ e.buffer.length := by
  unfold turn
  split
  · exact le_rfl
  split
  next kept hw =>
    unfold parseFrame at hw
    split at hw
    · cases hw
      exact le_rfl
    split at hw
    · cases hw
      rw [length_drop]
      exact Nat.sub_le _ _
    next start hf =>
      have same := scanFrame_append option start []
      rw [hw] at same
      subst same
      exact (locate_spec hf).2.length_le
  · rw [buffer_destroy]
    cases hf : locate framePrefix e.buffer with
    | none => exact le_rfl
    | some start => exact (locate_spec hf).2.length_le
  next msg rest hf =>
    rw [buffer_deliver]
    exact ((parseFrames option).shorter hf).le

theorem length_framesLoop_le (e : Endpoint σ) :
    (e.parseFramesLoop L option).buffer.length ≤ e.buffer.length := by
  induction e using parseFramesLoop.induct L option with
  | case1 e next hg hsh ih =>
    rw [framesLoop_goes hg]
    exact ih.trans hsh.le
  | case2 e last he =>
    rw [framesLoop_ends he]
    have hs := length_turn_le option L e
    rw [he] at hs
    exact hs

variable (L option) in
theorem length_handleData_le (e : Endpoint σ) (ck : List UInt8) :
    (e.handleData L option ck).buffer.length ≤ e.buffer.length + ck.length := by
  unfold handleData
  split
  · omega
  split
  · rw [buffer_destroy]
    omega
  · refine (length_framesLoop_le _).trans ?_
    rw [length_append]

theorem bounded_of_short (h : chunks.flatten.length ≤ option.maxBufferSize) :
    Bounded L option s chunks := by
  suffices any : ∀ (chunks : List (List UInt8)) (e : Endpoint σ),
      e.buffer.length + chunks.flatten.length ≤ option.maxBufferSize →
      Along (handleData L option) (fun e ck => e.buffer.length + ck.length ≤ option.maxBufferSize) e
        chunks by
    refine any chunks (initial s) ?_
    rw [initial, length_nil]
    omega
  intro chunks
  induction chunks with
  | nil => exact fun _ _ => trivial
  | cons ck rest ih =>
    intro e h
    rw [flatten_cons, length_append] at h
    have next := length_handleData_le option L e ck
    refine ⟨by omega, ih _ ?_⟩
    omega

def silent : Listener Unit := ⟨fun _ _ => (), fun _ => none⟩

theorem cut_prefix_independent :
    let stream : List UInt8 := [0x21, 0x24, 0x4D, 0x24, 0x4D, 0x55, 0x58, 0, 0, 0, 1, 0x37, 0x24]
    let e := [stream].foldl (handleData silent.recording defaultOption) (initial ((), []))
    let e' :=
      [stream.take 5, stream.drop 5].foldl (handleData silent.recording defaultOption)
        (initial ((), []))
    e.listener = e'.listener ∧ e.closed = e'.closed ∧ e.closeError = e'.closeError ∧
      e.handleEnd.closeError = e'.handleEnd.closeError :=
  (chunking_independent silent defaultOption ()).2 _ _ (by decide) (bounded_of_short (by decide))
    (bounded_of_short (by decide))

end Endpoint

end DebugRouter.Transport
