import DebugRouter.Transport.Chunking
import DebugRouter.Transport.ControlRoundTrip

/-!
Frames that arrive while the owner of the listener does other things in between. When every frame
takes the listener one step on its course, and nothing else takes it off, it has heard the frames
once and in order.
-/
namespace DebugRouter.Transport

open Library List

universe u v
variable {σ : Type u} {A : Type v} {option : TransportOption} {frames : List Json}

inductive Arrival (A : Type v) where
  | data (chunk : List UInt8)
  | act (act : A)

def Arrival.chunk : Arrival A → List UInt8
  | .data chunk => chunk
  | .act _ => []

def received (arrivals : List (Arrival A)) : List UInt8 := arrivals.flatMap Arrival.chunk

structure Course (L : Listener σ) (frames : List Json) (At : List Json → σ → Prop) : Prop where
  hears : ∀ {heard message later s}, frames = heard ++ message :: later → At heard s →
    At (heard ++ [message]) (L.hear s message)
  goes : ∀ {heard s}, At heard s → L.stopped s = none

theorem Course.take {L : Listener σ} {At : List Json → σ → Prop} (hc : Course L frames At)
    {found heard later : List Json}
    {s : σ} (split : frames = heard ++ (found ++ later)) (hh : At heard s) :
    (L.take s found).2 = none ∧ At (heard ++ found) (L.take s found).1 := by
  induction found generalizing heard s with
  | nil =>
    rw [append_nil]
    exact ⟨rfl, hh⟩
  | cons msg xs ih =>
    have next := hc.hears split hh
    have again := @ih (heard ++ [msg]) _ (by rw [split, append_assoc]; rfl) next
    simp only [Consumer.take, hc.goes next]
    rwa [append_assoc] at again

theorem length_of_waiting {buf : List UInt8} (h : parseFrame option buf = .wait buf) :
    buf.length < frameHeaderSize + option.maxFrameSize := by
  unfold parseFrame frameHeaderSize at *
  split at h
  · omega
  rename_i hlo
  split at h
  · have same : (buf.drop (buf.length - framePrefix.length)).length = buf.length := by
      rw [Scan.wait.inj h]
    rw [length_drop] at same
    have four : framePrefix.length = 4 := rfl
    omega
  next start hl =>
    unfold scanFrame frameHeaderSize at h
    dsimp only at h
    split at h
    · cases h
      omega
    split at h
    · cases h
    split at h
    · cases h
    split at h
    · cases h
      omega
    split at h <;> cases h

namespace Endpoint

/-- What else happens may destroy the transport as well. -/
def arrive (L : Listener σ) (option : TransportOption) (other : σ → A → σ) (e : Endpoint σ) :
    Arrival A → Endpoint σ
  | .data chunk => e.handleData L option chunk
  | .act act =>
    let e := { e with listener := other e.listener act }
    match L.stopped e.listener with
    | some error => e.destroy error
    | none => e

/-- The frames heard and the frames still to be found make up the whole. -/
structure Keeps (option : TransportOption) (frames : List Json) (At : List Json → σ → Prop)
    (unread : List UInt8) (e : Endpoint σ) : Prop where
  alive : e.closed = false
  calm : e.closeError = none
  settled : parseFrame option e.buffer = .wait e.buffer
  progress : ∃ heard later, frames = heard ++ later ∧ At heard e.listener ∧
    Pending option unread e.buffer later

variable {L : Listener σ} {At : List Json → σ → Prop} {e : Endpoint σ} {unread chunk : List UInt8}

theorem Keeps.handleData (hf : option.maxFrameSize < 2 ^ 32) (hc : Course L frames At)
    (hk : e.Keeps option frames At (chunk ++ unread))
    (hs : chunk.length + frameHeaderSize + option.maxFrameSize ≤ option.maxBufferSize) :
    (e.handleData L option chunk).Keeps option frames At unread := by
  obtain ⟨alive, calm, settled, heard, later, split, here, messages, rfl, carried⟩ := hk
  have short := length_of_waiting settled
  unfold Endpoint.handleData
  split
  next idle =>
    have empty : chunk = [] := by simpa [alive] using idle
    subst empty
    exact ⟨alive, calm, settled, heard, _, split, here, messages, rfl, carried⟩
  · rw [if_neg (by omega)]
    rw [← append_assoc] at carried
    obtain ⟨found, kept, others, drained, parts, still⟩ := drain_pending hf ⟨messages, rfl, carried⟩
    have settled' :=
      Scanner.scan_drained (S := parseFrames option) parseFrame_settled _
        (congrArg Prod.snd drained)
    rw [parts] at split
    obtain ⟨goes, there⟩ := hc.take split here
    obtain ⟨lis, xs⟩ := settles_framesLoop L option (e.buffer ++ chunk) e.listener
    rw [drained] at lis xs
    dsimp only at lis xs
    rw [goes] at xs
    obtain ⟨open', calm', buf⟩ := xs
    have same : { e with buffer := e.buffer ++ chunk } =
        ⟨e.buffer ++ chunk, false, none, e.listener⟩ := by
      rw [← alive, ← calm]
    rw [same]
    refine ⟨open', calm', ?_, heard ++ found, others, ?_, ?_, ?_⟩
    · rw [← buf]
      exact settled'
    · rw [split, append_assoc]
    · rw [lis]
      exact there
    · rw [← buf]
      exact still

theorem Keeps.other {o : σ → A → σ} {act : A} (hco : Course L frames At)
    (hk : e.Keeps option frames At unread)
    (hst : ∀ heard, At heard e.listener → At heard (o e.listener act)) :
    (e.arrive L option o (.act act)).Keeps option frames At unread := by
  obtain ⟨ha, hc, hs, heard, later, split, hh, hp⟩ := hk
  have ht := hst heard hh
  simp only [arrive, hco.goes ht]
  exact ⟨ha, hc, hs, heard, later, split, ht, hp⟩

/-- Chunks leave room for a frame in the buffer, and nothing else takes the listener off its
course. -/
def Calm (option : TransportOption) (At : List Json → σ → Prop) (other : σ → A → σ)
    (e : Endpoint σ) : Arrival A → Prop
  | .data chunk => chunk.length + frameHeaderSize + option.maxFrameSize ≤ option.maxBufferSize
  | .act act => ∀ heard, At heard e.listener → At heard (other e.listener act)

variable {arrivals : List (Arrival A)} {s : σ} {messages : List Json}

theorem keeps_run (hf : option.maxFrameSize < 2 ^ 32) (hco : Course L frames At) {other : σ → A → σ}
    (hk : e.Keeps option frames At (received arrivals ++ unread))
    (hc : Along (arrive L option other) (Calm option At other) e arrivals) :
    (arrivals.foldl (arrive L option other) e).Keeps option frames At unread := by
  induction arrivals generalizing e with
  | nil => exact hk
  | cons arrival rest ih =>
    refine ih ?_ hc.2
    cases arrival with
    | data chunk =>
      have whole : e.Keeps option frames At (chunk ++ (received rest ++ unread)) := by
        rw [← append_assoc]
        exact hk
      exact whole.handleData hf hco hc.1
    | act act => exact hk.other hco hc.1

theorem Keeps.done (hf : option.maxFrameSize < 2 ^ 32) (hk : e.Keeps option frames At []) :
    At frames e.listener := by
  obtain ⟨-, -, hs, heard, later, rfl, hh, messages, rfl, hc⟩ := hk
  rw [append_nil] at hc
  obtain ⟨rfl, -⟩ := carries_settled hf hc hs
  rwa [map_nil, append_nil]

theorem keeps_initial (hc : Carries option unread messages) (hs : At [] s) :
    (initial s).Keeps option (messages.map Json.normalize) At unread :=
  ⟨rfl, rfl, rfl, [], _, rfl, hs, messages, rfl, hc⟩

theorem hears_stream (hf : option.maxFrameSize < 2 ^ 32)
    (hco : Course L (messages.map Json.normalize) At) (hse : ∀ msg ∈ messages, Sendable option msg)
    (hst : At [] s) {other : σ → A → σ}
    (hstr : received arrivals = messages.flatMap fun msg => (send option msg).getD [])
    (hca : Along (arrive L option other) (Calm option At other) (initial s) arrivals) :
    let e := arrivals.foldl (arrive L option other) (initial s)
    e.closed = false ∧ At (messages.map Json.normalize) e.listener := by
  let items : List (List UInt8 × Json) := messages.map fun msg => ([], msg)
  have same : items.map Prod.snd = messages := by simp [items]
  have wired : wire option items = received arrivals ++ [] := by
    rw [hstr, append_nil, wire, flatMap_map]
    rfl
  have hc : Carries option (received arrivals ++ []) messages := by
    rw [← wired, ← same]
    refine carries_wire ?_ ?_
    · simpa [items] using hse
    · simp [items, framePrefix]
  have hk := keeps_run hf hco (keeps_initial hc hst) hca
  exact ⟨hk.alive, hk.done hf⟩

end Endpoint

end DebugRouter.Transport
