import Mathlib.Data.List.Chain

/-!
Streams of opposite events, such as started and stopped or opened and closed, told as Booleans:
the first one is `true` and no two neighbours are equal. Below, streams in which every event is
justified by those before it.
-/
namespace DebugRouter.Library

open List

def Alternates (stream : List Bool) : Prop := (false :: stream).IsChain (· ≠ ·)

instance (stream : List Bool) : Decidable (Alternates stream) :=
  inferInstanceAs (Decidable ((false :: stream).IsChain (· ≠ ·)))

/-- The last event; before the first one it is as if a `false` had come. -/
def latest (stream : List Bool) : Bool := stream.getLast?.getD false

@[simp] theorem latest_nil : latest [] = false := rfl

@[simp] theorem latest_append (stream : List Bool) (next : Bool) :
    latest (stream ++ [next]) = next := by
  simp [latest]

theorem alternates_nil : Alternates [] := .singleton _

theorem alternates_append {stream : List Bool} {next : Bool} (ha : Alternates stream)
    (hd : latest stream = !next) : Alternates (stream ++ [next]) := by
  unfold Alternates
  rw [← cons_append, isChain_append]
  refine ⟨ha, .singleton _, ?_⟩
  intro last hi first his
  have ends : last = latest stream := by
    cases stream with
    | nil => simpa [eq_comm] using hi
    | cons a rest =>
      rw [getLast?_cons_cons, Option.mem_def] at hi
      simp [latest, hi]
  have starts : next = first := by simpa using his
  simp [ends, hd, starts]

section Justified
variable {E : Type*} {P : List E → E → Prop}

def Justified (P : List E → E → Prop) (events : List E) : Prop :=
  ∀ front event back, events = front ++ event :: back → P front event

theorem justified_nil : Justified P [] := by
  intro pre ev back none
  simp at none

theorem justified_append {events : List E} {ev : E} (hj : Justified P events)
    (next : P events ev) : Justified P (events ++ [ev]) := by
  intro pre o back hs
  rcases back.eq_nil_or_concat with rfl | ⟨middle, last, rfl⟩
  · obtain ⟨rfl, rfl⟩ := append_singleton_inj.mp hs
    exact next
  · rw [concat_eq_append, ← cons_append, ← append_assoc] at hs
    exact hj pre o middle (append_singleton_inj.mp hs).1

end Justified

end DebugRouter.Library
