import Mathlib.Data.List.Infix

/-!
The first occurrence of a pattern. A pattern whose first element does not come again in it is
found where it starts, whatever stands before it without containing it.
-/
namespace DebugRouter.Library

open List

variable {α : Type*} [DecidableEq α]

def locate (pattern : List α) : List α → Option (List α)
  | [] => if pattern = [] then some [] else none
  | a :: rest => if pattern <+: a :: rest then some (a :: rest) else locate pattern rest

variable {pattern pre xs buf sf : List α}

theorem locate_of_starts (h : pattern <+: buffer) : locate pattern buffer = some buffer := by
  cases buffer with
  | nil =>
    rw [prefix_nil] at h
    simp [locate, h]
  | cons a xs => simp [locate, h]

theorem locate_spec (h : locate pattern buffer = some sf) : pattern <+: sf ∧ sf <:+ buffer := by
  induction buffer with
  | nil =>
    unfold locate at h
    split at h
    next he =>
      cases h
      exact ⟨by simp [he], suffix_rfl⟩
    · cases h
  | cons a xs ih =>
    unfold locate at h
    split at h
    next hs =>
      cases h
      exact ⟨hs, suffix_rfl⟩
    · obtain ⟨hs, hen⟩ := ih h
      exact ⟨hs, hen.trans (suffix_cons a xs)⟩

theorem locate_eq_none (h : ¬ pattern <:+: buf) : locate pattern buf = none := by
  cases hf : locate pattern buf with
  | none => rfl
  | some sf =>
    obtain ⟨hs, he⟩ := locate_spec hf
    exact absurd (hs.isInfix.trans he.isInfix) h

theorem locate_append (h : locate pattern buffer = some sf) (more : List α) :
    locate pattern (buffer ++ more) = some (sf ++ more) := by
  induction buffer with
  | nil =>
    obtain ⟨hs, he⟩ := locate_spec h
    rw [suffix_nil] at he
    subst he
    exact locate_of_starts (hs.trans (prefix_append [] more))
  | cons a xs ih =>
    unfold locate at h
    split at h
    next hs =>
      cases h
      exact locate_of_starts (hs.trans (prefix_append _ _))
    next ho =>
      obtain ⟨hs, he⟩ := locate_spec h
      have long : pattern.length ≤ (a :: xs).length := by
        have := hs.length_le
        have := he.length_le
        rw [length_cons]
        omega
      have still : ¬ pattern <+: a :: (xs ++ more) := by
        intro hea
        exact ho (prefix_of_prefix_length_le hea (prefix_append (a :: xs) more) long)
      rw [cons_append, locate, if_neg still, ih h]

theorem locate_suffix (h : locate pattern (pre ++ xs) = none) : locate pattern xs = none := by
  induction pre with
  | nil => exact h
  | cons a pre ih =>
    rw [cons_append, locate] at h
    split at h
    · cases h
    · exact ih h

theorem locate_trim {skipped kept : List α} (ha : locate pattern (skipped ++ kept) = none)
    (hlo : pattern.length ≤ kept.length + 1) (more : List α) :
    locate pattern (skipped ++ kept ++ more) = locate pattern (kept ++ more) := by
  induction skipped with
  | nil => rfl
  | cons a skipped ih =>
    have later : locate pattern (skipped ++ kept) = none :=
      locate_suffix (show locate pattern ([a] ++ (skipped ++ kept)) = none from ha)
    have hn : ¬ pattern <+: a :: (skipped ++ kept ++ more) := by
      intro he
      have hh : pattern <+: a :: (skipped ++ kept) := by
        apply prefix_of_prefix_length_le he (prefix_append (a :: (skipped ++ kept)) more)
        rw [length_cons, length_append]
        omega
      rw [cons_append, locate_of_starts hh] at ha
      cases ha
    rw [cons_append, cons_append, locate, if_neg hn]
    exact ih later

theorem locate_skip {first : α} {others : List α} (hon : first ∉ others)
    (ha : locate (first :: others) front = none) :
    locate (first :: others) (front ++ (first :: others ++ xs)) = some (first :: others ++ xs) := by
  induction front with
  | nil => exact locate_of_starts (prefix_append _ xs)
  | cons a front ih =>
    have later : locate (first :: others) front = none :=
      locate_suffix (show locate (first :: others) ([a] ++ front) = none from ha)
    have hn : ¬ first :: others <+: a :: front := by
      intro hh
      rw [locate_of_starts hh] at ha
      cases ha
    have still : ¬ first :: others <+: (a :: front) ++ (first :: others ++ xs) := by
      intro he
      by_cases hl : (first :: others).length ≤ (a :: front).length
      · exact hn (prefix_of_prefix_length_le he (prefix_append _ _) hl)
      · -- the pattern would overlap itself
        rw [length_cons, length_cons] at hl
        have short : front.length < others.length := by omega
        have ho := he.getElem (i := front.length + 1) (by simpa using short)
        rw [getElem_append_right (by simp)] at ho
        simp only [getElem_cons_succ, length_cons, Nat.sub_self, cons_append, getElem_cons_zero] at ho
        exact hon (ho ▸ getElem_mem short)
    rw [cons_append, locate]
    exact (if_neg still).trans (ih later)

end DebugRouter.Library
