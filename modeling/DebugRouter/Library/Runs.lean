import Mathlib.Data.List.Basic

/-!
Runs of a deterministic machine: a state, a step function and the list of acts
taken. The rules below turn one-step facts into facts about whole runs.
-/
namespace DebugRouter.Library

section Runs
variable {S : Type*} {A : Type*} (step : S → A → S)

/-- Every act is taken in a state in which `P` holds of it. -/
def Along (P : S → A → Prop) : S → List A → Prop
  | _, [] => True
  | s, a :: rest => P s a ∧ Along P (step s a) rest

instance decidableAlong (P : S → A → Prop) [∀ s a, Decidable (P s a)] :
    ∀ (s : S) (acts : List A), Decidable (Along step P s acts)
  | _, [] => .isTrue trivial
  | s, a :: rest => @instDecidableAnd _ _ _ (decidableAlong P (step s a) rest)

/-- `Q` holds in the first state and in every state reached from it. -/
def Throughout (Q : S → Prop) : S → List A → Prop
  | s, [] => Q s
  | s, a :: rest => Q s ∧ Throughout Q (step s a) rest

instance decidableThroughout (Q : S → Prop) [∀ s, Decidable (Q s)] :
    (s : S) → (acts : List A) → Decidable (Throughout step Q s acts)
  | s, [] => inferInstanceAs (Decidable (Q s))
  | s, a :: rest => @instDecidableAnd _ _ _ (decidableThroughout Q (step s a) rest)

variable {step}
variable {s : S} {acts : List A} {Allowed : A → Prop} {Inv : S → Prop} {X : Type*}

theorem throughout_last {Q : S → Prop} (h : Throughout step Q s acts) : Q (acts.foldl step s) := by
  induction acts generalizing s with
  | nil => exact h
  | cons a xs ih => exact ih h.2

theorem throughout_mono {Q R : S → Prop} (hw : ∀ s, Q s → R s)
    (hh : Throughout step Q s acts) : Throughout step R s acts := by
  induction acts generalizing s with
  | nil => exact hw s hh
  | cons a xs ih => exact ⟨hw s hh.1, ih hh.2⟩

theorem along_mono {P R : S → A → Prop} (hw : ∀ s a, P s a → R s a)
    (hh : Along step P s acts) : Along step R s acts := by
  induction acts generalizing s with
  | nil => trivial
  | cons a xs ih => exact ⟨hw s a hh.1, ih hh.2⟩

theorem along_append {P : S → A → Prop} {pre back : List A} : Along step P s (pre ++ back) ↔
      Along step P s pre ∧ Along step P (pre.foldl step s) back := by
  induction pre generalizing s with
  | nil => simp [Along]
  | cons a xs ih => simp [Along, ih, and_assoc]

theorem along_and {P : S → A → Prop} (ha : ∀ a ∈ acts, Allowed a) (hh : Along step P s acts) :
    Along step (fun s a => Allowed a ∧ P s a) s acts := by
  induction acts generalizing s with
  | nil => trivial
  | cons a xs ih =>
    obtain ⟨x, ho⟩ := List.forall_mem_cons.mp ha
    exact ⟨⟨x, hh.1⟩, ih ho hh.2⟩

theorem throughout_head {Q : S → Prop} (h : Throughout step Q s acts) : Q s := by
  cases acts with
  | nil => exact h
  | cons a xs => exact h.1

theorem along_of_throughout {Q : S → Prop} {P : S → A → Prop}
    (hn : ∀ s a, Q s → Q (step s a) → P s a) (hh : Throughout step Q s acts) :
    Along step P s acts := by
  induction acts generalizing s with
  | nil => trivial
  | cons a xs ih => exact ⟨hn s a hh.1 (throughout_head hh.2), ih hh.2⟩

/-- The invariant rule with a side condition on the acts taken. -/
theorem throughout_of_along {P : S → A → Prop} (hp : ∀ s a, Inv s → P s a → Inv (step s a))
    (hi : Inv s) (ha : Along step P s acts) : Throughout step Inv s acts := by
  induction acts generalizing s with
  | nil => exact hi
  | cons a xs ih => exact ⟨hi, ih (hp s a hi ha.1) ha.2⟩

theorem throughout_of_invariant (hp : ∀ s a, Inv s → Inv (step s a)) (hi : Inv s) (acts : List A) :
    Throughout step Inv s acts := by
  induction acts generalizing s with
  | nil => exact hi
  | cons a xs ih => exact ⟨hi, ih (hp s a hi)⟩

theorem along_of_invariant {P : S → A → Prop} (hp : ∀ s a, Inv s → Inv (step s a))
    (hh : ∀ s a, Inv s → P s a) (hi : Inv s) (acts : List A) : Along step P s acts := by
  induction acts generalizing s with
  | nil => trivial
  | cons a xs ih => exact ⟨hh s a hi, ih (hp s a hi)⟩

theorem along_of_along {P R : S → A → Prop} (hk : ∀ s a, Inv s → P s a → Inv (step s a) ∧ R s a)
    (hi : Inv s) (hal : Along step P s acts) : Along step R s acts := by
  induction acts generalizing s with
  | nil => trivial
  | cons a xs ih =>
    obtain ⟨ha, hh⟩ := hk s a hi hal.1
    exact ⟨hh, ih ha hal.2⟩

theorem along_both {P R : S → A → Prop} (x : Along step P s acts)
    (hs : Along step R s acts) : Along step (fun s a => P s a ∧ R s a) s acts := by
  induction acts generalizing s with
  | nil => trivial
  | cons a xs ih => exact ⟨⟨x.1, hs.1⟩, ih x.2 hs.2⟩

theorem along_of_allowed {P : S → A → Prop} (hk : ∀ s a, Inv s → Allowed a → Inv (step s a) ∧ P s a)
    (hi : Inv s) (hal : ∀ a ∈ acts, Allowed a) : Along step P s acts := by
  induction acts generalizing s with
  | nil => trivial
  | cons a xs ih =>
    obtain ⟨x, ho⟩ := List.forall_mem_cons.mp hal
    obtain ⟨ha, hh⟩ := hk s a hi x
    exact ⟨hh, ih ha ho⟩

theorem invariant_foldl (hp : ∀ s a, Inv s → Inv (step s a))
    (hi : Inv s) (acts : List A) : Inv (acts.foldl step s) :=
  throughout_last (throughout_of_invariant hp hi acts)

/-- When a step keeps `Q` exactly on the acts with `P`, a run of allowed acts keeps `Q` exactly when
all of them have `P`. `Inv` carries what the step fact needs besides. -/
theorem throughout_iff_along_of_allowed {Q : S → Prop} {P : S → A → Prop}
    (hp : ∀ s a, Allowed a → Inv s → Q s → Inv (step s a))
    (he : ∀ s a, Allowed a → Inv s → Q s → (Q (step s a) ↔ P s a))
    (ha : ∀ a ∈ acts, Allowed a) (hin : Inv s) (hi : Q s) :
    Throughout step Q s acts ↔ Along step P s acts := by
  induction acts generalizing s with
  | nil => simp [Throughout, Along, hi]
  | cons a xs ih =>
    obtain ⟨x, ho⟩ := List.forall_mem_cons.mp ha
    have hh := he s a x hin hi
    have kept := hp s a x hin hi
    constructor
    · rintro ⟨-, ht⟩
      have next : Q (step s a) := throughout_head ht
      exact ⟨hh.mp next, (ih ho kept next).mp ht⟩
    · rintro ⟨hho, ht⟩
      have next := hh.mpr hho
      exact ⟨hi, (ih ho kept next).mpr ht⟩

theorem throughout_iff_along {Q : S → Prop} {P : S → A → Prop}
    (hp : ∀ s a, Inv s → Q s → Inv (step s a)) (he : ∀ s a, Inv s → Q s → (Q (step s a) ↔ P s a))
    (hin : Inv s) (hi : Q s) :
    Throughout step Q s acts ↔ Along step P s acts := by
  have all : ∀ a ∈ acts, (fun _ : A => True) a := fun _ _ => trivial
  exact throughout_iff_along_of_allowed (fun s a _ => hp s a) (fun s a _ => he s a) all
    hin hi

/-- What a run ends with and did not begin with came in with one of its acts. -/
theorem exists_origin {P : S → Prop} {Q : S → A → Prop} (ha : ∀ s a, P (step s a) → P s ∨ Q s a)
    (hm : ¬ P s) (hh : P (acts.foldl step s)) :
    ∃ pre act back, acts = pre ++ act :: back ∧ Q (pre.foldl step s) act := by
  induction acts generalizing s with
  | nil => exact absurd hh hm
  | cons a xs ih =>
    by_cases next : P (step s a)
    · exact ⟨[], a, xs, rfl, (ha s a next).resolve_left hm⟩
    · obtain ⟨pre, act, back, rfl, ho⟩ := ih next hh
      exact ⟨a :: pre, act, back, rfl, ho⟩

theorem foldl_unchanged {get : S → X} (h : ∀ s a, get (step s a) = get s) (s : S)
    (acts : List A) : get (acts.foldl step s) = get s := by
  induction acts generalizing s with
  | nil => rfl
  | cons a xs ih => rw [List.foldl_cons, ih, h]

end Runs

end DebugRouter.Library
