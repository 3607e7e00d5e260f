import Mathlib.Data.List.Basic

/-!
Threads that share a state. Each thread stands before its next operation; a scheduler names the
thread that performs it, and a thread with nothing left to do disappears.
-/
namespace DebugRouter.Library

variable {S P : Type*}

def moveThread (threads : List P) (i : Nat) : Option P → List P
  | none => threads.eraseIdx i
  | some point => threads.set i point

theorem moveThread_split {threads : List P} {i : Nat} {pt : P} (h : threads[i]? = some pt) :
    ∃ before after, threads = before ++ pt :: after ∧
      ∀ next, moveThread threads i next = before ++ next.toList ++ after := by
  induction threads generalizing i with
  | nil => simp at h
  | cons x xs ih =>
    cases i with
    | zero =>
      refine ⟨[], xs, by simpa using h, fun next => ?_⟩
      cases next <;> simp [moveThread]
    | succ i =>
      obtain ⟨before, after, split, hm⟩ := ih (by simpa using h)
      refine ⟨x :: before, after, by simp [split], fun next => ?_⟩
      have tail := hm next
      cases next <;> simpa [moveThread] using tail

end DebugRouter.Library
