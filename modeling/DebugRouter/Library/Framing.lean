import Mathlib.Data.List.Basic

/-!
Frames cut out of a stream that arrives in chunks. A scanner looks at the front of the buffered
input: it finds a frame, waits for more, perhaps without what can be no part of a frame, or gives
up. Draining takes out frames as long as there are any.
-/
namespace DebugRouter.Library

universe u v w
variable {β : Type u} {φ : Type v} {ε : Type w}

inductive Scan (β : Type u) (φ : Type v) (ε : Type w) where
  | wait (kept : List β)
  | frame (found : φ) (rest : List β)
  | fail (error : ε)

structure Scanner (β : Type u) (φ : Type v) (ε : Type w) where
  scan : List β → Scan β φ ε
  shorter : ∀ {buffer found rest}, scan buffer = .frame found rest → rest.length < buffer.length

/-- A stream that is still read, with the buffered input, or one that was given up. -/
inductive Intake (β : Type u) (ε : Type w) where
  | reading (buffer : List β)
  | failed (error : ε)

namespace Scanner
variable (S : Scanner β φ ε)

def drain (buffer : List β) : List φ × Intake β ε :=
  match found : S.scan buffer with
  | .wait kept => ([], .reading kept)
  | .frame f rest =>
    have := S.shorter found
    (f :: (drain rest).1, (drain rest).2)
  | .fail e => ([], .failed e)
termination_by buffer.length

def feed : Intake β ε → List β → List φ × Intake β ε
  | .reading buffer, chunk => S.drain (buffer ++ chunk)
  | .failed e, _ => ([], .failed e)

def run (intake : Intake β ε) : List (List β) → List φ × Intake β ε
  | [] => ([], intake)
  | chunk :: rest =>
    let (early, next) := S.feed intake chunk
    let (late, last) := run next rest
    (early ++ late, last)

variable {S} {buf kept xs : List β} {f : φ} {e : ε}

theorem drain_wait (h : S.scan buf = .wait kept) : S.drain buf = ([], .reading kept) := by
  rw [drain]
  split <;> simp_all

theorem drain_frame (h : S.scan buf = .frame f xs) :
    S.drain buf = (f :: (S.drain xs).1, (S.drain xs).2) := by
  rw [drain]
  split <;> simp_all

theorem drain_fail (h : S.scan buf = .fail e) : S.drain buf = ([], .failed e) := by
  rw [drain]
  split <;> simp_all

/-- When a buffer is known to carry certain frames, and each look at it confirms that, draining
finds the first of them and leaves a buffer that carries the others. -/
theorem drain_carries {Carries : List β → List φ → Prop}
    (hw : ∀ {buf kept frames}, S.scan buf = .wait kept → Carries buf frames → Carries kept frames)
    (hfi : ∀ {buf f xs frames}, S.scan buf = .frame f xs → Carries buf frames →
      ∃ later, frames = f :: later ∧ Carries xs later)
    (hf : ∀ {buf e frames}, S.scan buf = .fail e → ¬ Carries buf frames)
    (buf : List β) {frames : List φ} (hc : Carries buf frames) :
    ∃ found kept later, S.drain buf = (found, .reading kept) ∧ frames = found ++ later ∧
      Carries kept later := by
  induction buf using drain.induct S generalizing frames with
  | case1 buf kept hs => exact ⟨[], kept, frames, drain_wait hs, rfl, hw hs hc⟩
  | case2 buf f xs hs hsh ih =>
    obtain ⟨others, rfl, carried'⟩ := hfi hs hc
    obtain ⟨found, kept, later, hd, rfl, hr⟩ := ih carried'
    exact ⟨f :: found, kept, later, by rw [drain_frame hs, hd], rfl, hr⟩
  | case3 buf e hs => exact absurd hc (hf hs)

theorem scan_drained (hse : ∀ {buf kept}, S.scan buf = .wait kept → S.scan kept = .wait kept)
    (buf : List β) (hr : (S.drain buf).2 = .reading kept) :
    S.scan kept = .wait kept := by
  induction buf using drain.induct S with
  | case1 buf kept' hf =>
    rw [drain_wait hf] at hr
    cases hr
    exact hse hf
  | case2 buf f xs hf hs ih =>
    rw [drain_frame hf] at hr
    exact ih hr
  | case3 buf e hf =>
    rw [drain_fail hf] at hr
    cases hr

end Scanner

/-- A scanner whose findings do not depend on what comes later, and which waits with everything. -/
structure Framing (β : Type u) (φ : Type v) (ε : Type w) extends Scanner β φ ε where
  frame_append : ∀ {buffer found rest}, scan buffer = .frame found rest →
    ∀ more, scan (buffer ++ more) = .frame found (rest ++ more)
  fail_append : ∀ {buffer error}, scan buffer = .fail error →
    ∀ more, scan (buffer ++ more) = .fail error
  wait_keeps : ∀ {buffer kept}, scan buffer = .wait kept → kept = buffer

namespace Framing
variable {F : Framing β φ ε} {buf : List β}

theorem drain_append (buf more : List β) : F.drain (buf ++ more) =
      ((F.drain buf).1 ++ (F.feed (F.drain buf).2 more).1, (F.feed (F.drain buf).2 more).2) := by
  induction buf using Scanner.drain.induct F.toScanner with
  | case1 buf kept hf =>
    rw [Scanner.drain_wait hf, F.wait_keeps hf]
    rfl
  | case2 buf f xs hf hs ih =>
    rw [Scanner.drain_frame hf, Scanner.drain_frame (F.frame_append hf more), ih]
    rfl
  | case3 buf e hf =>
    rw [Scanner.drain_fail hf, Scanner.drain_fail (F.fail_append hf more)]
    rfl

theorem run_eq_drain (h : F.scan buf = .wait buf) (cks : List (List β)) :
    F.run (.reading buf) cks = F.drain (buf ++ cks.flatten) := by
  suffices hw : ∀ (cks : List (List β)) (seen : List β), F.drain (seen ++ cks.flatten) =
        ((F.drain seen).1 ++ (F.run (F.drain seen).2 cks).1, (F.run (F.drain seen).2 cks).2) by
    rw [hw, Scanner.drain_wait h]
    rfl
  intro cks
  induction cks with
  | nil =>
    intro seen
    simp [Scanner.run]
  | cons ck others ih =>
    intro seen
    rw [List.flatten_cons, ← List.append_assoc, ih, drain_append seen ck]
    simp only [Scanner.run, List.append_assoc]

end Framing

/- Scanners that drop input -/

/-- What is left of two readings of the same input: one keeps all of it, the other may have trimmed
it. -/
def Intake.Trimmed (Trims : List β → List β → Prop) : Intake β ε → Intake β ε → Prop
  | .reading whole, .reading kept => Trims whole kept
  | .failed e, .failed e' => e = e'
  | _, _ => False

/-- A scanner that finds in a trimmed buffer what a framing finds in the whole. -/
structure Scanner.Follows (S : Scanner β φ ε) (F : Framing β φ ε) (Trims : List β → List β → Prop) :
    Prop where
  wait : ∀ {whole buffer}, Trims whole buffer → F.scan whole = .wait whole →
    ∃ kept, S.scan buffer = .wait kept ∧ Trims whole kept
  frame : ∀ {whole buffer found rest}, Trims whole buffer → F.scan whole = .frame found rest →
    ∃ kept, S.scan buffer = .frame found kept ∧ Trims rest kept
  fail : ∀ {whole buffer error}, Trims whole buffer → F.scan whole = .fail error →
    S.scan buffer = .fail error

theorem Scanner.Follows.drain {S : Scanner β φ ε} {F : Framing β φ ε} {Trims : List β → List β → Prop}
    (hf : S.Follows F Trims) (whole : List β) {buf : List β} (htr : Trims whole buf) :
    (S.drain buf).1 = (F.drain whole).1 ∧ (F.drain whole).2.Trimmed Trims (S.drain buf).2 := by
  induction whole using Scanner.drain.induct F.toScanner generalizing buf with
  | case1 whole kept hs =>
    have all := F.wait_keeps hs
    subst all
    obtain ⟨kept, hw, hst⟩ := hf.wait htr hs
    rw [Scanner.drain_wait hs, Scanner.drain_wait hw]
    exact ⟨rfl, hst⟩
  | case2 whole f xs hs hsh ih =>
    obtain ⟨kept, ht, hst⟩ := hf.frame htr hs
    obtain ⟨hsa, hl⟩ := ih hst
    rw [Scanner.drain_frame hs, Scanner.drain_frame ht, hsa]
    exact ⟨rfl, hl⟩
  | case3 whole e hs =>
    rw [Scanner.drain_fail hs, Scanner.drain_fail (hf.fail htr hs)]
    exact ⟨rfl, rfl⟩

/- Who is given the frames -/

/-- A consumer may stop at a frame, for a reason, and is then given no more. -/
structure Consumer (φ : Type u) (σ : Type v) (ω : Type w) where
  hear : σ → φ → σ
  stopped : σ → Option ω

namespace Consumer
variable {φ : Type u} {σ : Type v} {ω : Type w} (C : Consumer φ σ ω)

def take : σ → List φ → σ × Option ω
  | s, [] => (s, none)
  | s, f :: rest =>
    match C.stopped (C.hear s f) with
    | some reason => (C.hear s f, some reason)
    | none => take (C.hear s f) rest

theorem take_append (s : σ) (pre back : List φ) : C.take s (pre ++ back) = match C.take s pre with
      | (s, some reason) => (s, some reason)
      | (s, none) => C.take s back := by
  induction pre generalizing s with
  | nil => rfl
  | cons f xs ih =>
    simp only [List.cons_append, take]
    cases C.stopped (C.hear s f) with
    | none => exact ih _
    | some reason => rfl

def recording : Consumer φ (σ × List φ) ω where
  hear := fun s f => (C.hear s.1 f, s.2 ++ [f])
  stopped := fun s => C.stopped s.1

end Consumer

end DebugRouter.Library
